import Globed.Server.Chat
import Globed.Server.Interleaving
import Globed.Wire.ServerToClient

/-!
# The level list

A LevelListResponse names each level by the id that stands for it in packets. The client reads one
entry for each level, and a UserLevelEntry with the id of an entry leads to that level.
-/

namespace Globed.Server

open Bytes Bytebuffer Calls Concurrent

/-! ## What the client reads -/

/-- The list has one entry for each level, with its number of players. -/
structure Lists (read : FiniteMap Int32 UInt16) (levels : FiniteMap Int32 LevelData) : Prop where
  size : read.size = levels.size
  count : ∀ l level, levels.get l = some level →
    ∃ n, read.get (packetLevelId l) = some n ∧ n.toNat = level.size
  name : ∀ id, read.contains id = true → ∃! l, levels.contains l = true ∧ packetLevelId l = id

theorem lists_of_get {read : FiniteMap Int32 UInt16} {levels : FiniteMap Int32 LevelData}
    (h : WireFree levels) (hsize : ∀ l level, levels.get l = some level → level.size ≤ 65535)
    (hget : ∀ id count, read.get id = some count ↔
      ∃ l level, levels.get l = some level ∧ packetLevelId l = id ∧
        UInt16.ofNat level.size = count) : Lists read levels := by
  have hne : ∀ {l}, levels.contains l = true → l ≠ -1 ∧ l ≠ -2 := by
    intro l hl
    obtain ⟨level, hlevel⟩ := FiniteMap.contains_iff.mp hl
    exact h.ne hlevel
  have hcontains : ∀ id, read.contains id = true ↔
      ∃ l, levels.contains l = true ∧ packetLevelId l = id := by
    intro id
    constructor
    · intro hid
      obtain ⟨count, hcount⟩ := FiniteMap.contains_iff.mp hid
      obtain ⟨l, level, hl, hname, -⟩ := (hget id count).mp hcount
      exact ⟨l, FiniteMap.contains_iff.mpr ⟨level, hl⟩, hname⟩
    · rintro ⟨l, hl, hname⟩
      obtain ⟨level, hlevel⟩ := FiniteMap.contains_iff.mp hl
      exact FiniteMap.contains_iff.mpr ⟨_, (hget id _).mpr ⟨l, level, hlevel, hname, rfl⟩⟩
  refine ⟨?_, fun l level hl => ?_, fun id hid => ?_⟩
  · have hkeys : read.keys = levels.keys.image packetLevelId := by
      ext id
      rw [Finset.mem_image, FiniteMap.mem_keys]
      simp only [FiniteMap.mem_keys]
      exact hcontains id
    rw [FiniteMap.size, hkeys, FiniteMap.size]
    apply Finset.card_image_of_injOn
    intro a ha b hb heq
    rw [Finset.mem_coe, FiniteMap.mem_keys] at ha hb
    exact packetLevelId_inj (hne ha) (hne hb) heq
  · refine ⟨_, (hget _ _).mpr ⟨l, level, hl, rfl, rfl⟩, ?_⟩
    exact UInt16.toNat_ofNat_of_lt' (Nat.lt_succ_of_le (hsize l level hl))
  · obtain ⟨l, hl, hname⟩ := (hcontains id).mp hid
    refine ⟨l, ⟨hl, hname⟩, ?_⟩
    rintro l' ⟨hl', hname'⟩
    exact packetLevelId_inj (hne hl') (hne hl) (hname'.trans hname.symm)

/-- The client decodes the bytes to a list of the levels. -/
structure DecodesTo (levels : FiniteMap Int32 LevelData) (bytes : List UInt8) : Prop where
  parsed : ∀ env w, bytes.length < 2 ^ 32 →
    ∃ read, Client.GameSocket.parsePacket env (.ofBytes bytes) w =
      (.ok (.levelListResponse read, ⟨bytes, bytes.length⟩), w) ∧ Lists read levels
  received : ∀ env (w : Client.World) source, bytes.length ≤ 65536 →
    ∃ read, Client.GameSocket.recvPacket env (some ⟨source, bytes⟩) w =
      (.ok (.levelListResponse read), w.heardFrom source) ∧ Lists read levels

section Reads

variable [Bytebuffer]

open Client.GameSocket

theorem decodesTo_levelListResponse {levels : FiniteMap Int32 LevelData} (h : WireFree levels)
    (hsize : ∀ l level, levels.get l = some level → level.size ≤ 65535) (o : IterOrder Int32) :
    DecodesTo levels (ServerPacket.levelListResponse levels o h).bytes := by
  have hparsed : ∀ env w, (ServerPacket.levelListResponse levels o h).bytes.length < 2 ^ 32 →
      ∃ read, parsePacket env (.ofBytes (ServerPacket.levelListResponse levels o h).bytes) w =
        (.ok (.levelListResponse read, ⟨(ServerPacket.levelListResponse levels o h).bytes,
          (ServerPacket.levelListResponse levels o h).bytes.length⟩), w) ∧ Lists read levels := by
    intro env w hlen
    have hcount : ((levels.entries o).map fun p =>
        (packetLevelId p.1, UInt16.ofNat p.2.size)).length < 2 ^ 32 := by
      rw [bytes_levelListResponse, List.length_cons, List.length_append,
        length_flatMap_levelEntryBytes] at hlen
      omega
    have hparses : Client.Parses env.target (parsePacket env) w _ _ w :=
      parses_packet (parses_levelListResponse hcount)
    rw [← bytes_levelListResponse levels o h] at hparses
    exact ⟨_, hparses.whole hlen, lists_of_get h hsize (get_readLevels h o)⟩
  refine ⟨hparsed, fun env w source hlen => ?_⟩
  obtain ⟨read, hread, hlists⟩ := hparsed env (w.heardFrom source)
    (Nat.lt_of_le_of_lt hlen (by decide))
  exact ⟨read, recvPacket_of_parsePacket (bytes_ne_nil _) hlen hread, hlists⟩

end Reads

/-! ## The handler of a LevelListRequest -/

section Handlers

variable [Bytebuffer] {settings : ServerSettings} {inputs : Input → Prop} {st : State} {c : Int32}
  {cd : ClientData} {bbuf rest : ByteReader} {x : Int32}

/-- One datagram is sent, a list of the levels. -/
theorem safe_onLevellistrequest (hne : st.NoEmptyLevel)
    (hcd : st.connectedClients.get c = some cd) {log : List (Event Action.Answer)}
    (hlog : sends log = [] ∧ ∀ e ∈ log, spawned e = []) :
    (onLevellistrequest c).Safe (server settings inputs).machine cleanup
      (AtEnd fun _ log' _ => (∀ e ∈ log', spawned e = []) ∧
        ∃ o, sends log' = [(cd.address, asBytes (levelListResponse (st.levelCounts o)))])
      log st := by
  apply safe_act
  intro st₁ h₁ o₁ _
  obtain rfl := h₁.2.2 hne
  apply safe_act
  intro st₂ h₂ o₂ _
  obtain rfl := h₂.2.2 hne
  have haddress : (st₂.connectedClients.get c).map (·.address) = some cd.address := by
    rw [hcd, Option.map_some]
  simp only [step, haddress]
  apply safe_act
  intro st₃ _ o₃ _
  apply safe_ended
  · change (if o₃.sent = true then pure () else .err .io : Task Unit).Ended
    split <;> trivial
  · intro _ _
    constructor
    · intro e he
      simp only [List.append_assoc, List.mem_append, List.mem_singleton] at he
      rcases he with he | rfl | rfl | rfl
      · exact hlog.2 e he
      · rfl
      · rfl
      · rfl
    · refine ⟨o₁.levelOrder, ?_⟩
      rw [sends_append, sends_append, sends_append, hlog.1]
      rfl

/-- Whether or not the send succeeds, one datagram is sent: a list of the levels. -/
theorem handle_levelListRequest {buf : List UInt8} {peer : SocketAddr}
    (hreach : Reachable settings st) (hcd : st.connectedClients.get c = some cd)
    (hheader : header buf = some (.levelListRequest, c, cd.secretKey, bbuf))
    {conf : Config Action Action.Answer Error State Request}
    (h : (server settings inputs).Handles st (.packet buf peer) conf) :
    ∃ o, sends (events conf) = [(cd.address, asBytes (levelListResponse (st.levelCounts o)))] := by
  obtain ⟨log, r, js, hjobs, -, ⟨hsilent, hsends⟩, -, hnil⟩ :=
    hreach.handles_dispatched hcd hheader (by decide)
      (safe_onLevellistrequest hreach.noEmptyLevel hcd ⟨rfl, by simp [spawned]⟩) h
  obtain rfl := hnil hsilent
  have hevents : events conf = log := by
    rw [events, hjobs]
    simp
  rwa [hevents]

/-! ## The handler of a UserLevelEntry -/

/-- The section puts the client on no other level. -/
def Action.EntersOnly (c l : Int32) : Action → Prop
  | insertIntoLevel clientId levelId => clientId = c → levelId = l
  | storePlayerData _ _ _ => False
  | _ => True

omit [Bytebuffer] in
theorem entry_of_step (o : Input) {a : Action} {l : Int32} (ha : a.EntersOnly c l) {l' : Int32}
    (h : ((step settings o a st).2.entry l' c).isSome = true) :
    l' = l ∨ (st.entry l' c).isSome = true := by
  have hlevels : ∀ {st' : State}, st'.levels = st.levels → (st'.entry l' c).isSome = true →
      l' = l ∨ (st.entry l' c).isSome = true := by
    intro st' heq hentry
    rw [State.entry_eq_of_levels heq] at hentry
    exact .inr hentry
  cases a with
  | addClient id address key =>
    exact hlevels (State.levels_addClient settings o.now id key address) h
  | insertIntoLevel id level =>
    rw [step, State.entry_insertIntoLevel] at h
    split at h
    · next heq =>
      obtain ⟨rfl, rfl⟩ := heq
      exact .inl (ha rfl)
    · exact .inr h
  | removeFromLevel id level =>
    rw [step, State.entry_removeFromLevel] at h
    split at h
    · cases h
    · exact .inr h
  | storePlayerData id level data => exact ha.elim
  | retainLevels =>
    rw [step, State.entry_retainLevels] at h
    exact .inr h
  | tickLevel level players => exact hlevels (State.levels_tickLevel o.order level players) h
  | _ => exact hlevels rfl h

omit [Bytebuffer] in
theorem Action.Sends.entersOnly {a : Action} (h : a.Sends) (l : Int32) : a.EntersOnly c l := by
  cases a <;> first | exact h.elim | trivial

theorem entersOnly_onUserlevelentry (hx : readI32 bbuf = some (x, rest)) :
    (onUserlevelentry c bbuf).Only (Action.EntersOnly c (levelIdOfPacket x)) := by
  constructor
  · trivial
  intro found
  cases found with
  | none => trivial
  | some found =>
    have hleave : (leaveLevel c found.2).Only (Action.EntersOnly c (levelIdOfPacket x)) := by
      apply (sweeps_leaveLevel c found.2).mono
      intro a ha
      cases a <;> first | exact ha.elim | trivial
    apply hleave.bind
    intro _
    simp only [read, hx, Proc.ret_bind]
    apply Proc.Only.bind
    · exact (only_broadcastMessage _ _ _).mono fun a ha => ha.entersOnly _
    · intro _
      refine ⟨fun _ => rfl, fun inserted => ?_⟩
      cases inserted
      · trivial
      · exact ⟨trivial, fun _ => trivial⟩

/-- Whether or not sends succeed, the client gets on no other level. -/
theorem handle_entry_nowhere_else {buf : List UInt8} {peer : SocketAddr}
    (hreach : Reachable settings st) (hcd : st.connectedClients.get c = some cd)
    (hheader : header buf = some (.userLevelEntry, c, cd.secretKey, bbuf))
    (hx : readI32 bbuf = some (x, rest))
    {conf : Config Action Action.Answer Error State Request}
    (h : (server settings inputs).Handles st (.packet buf peer) conf) {l : Int32}
    (hl : (conf.state.entry l c).isSome = true) :
    l = levelIdOfPacket x ∨ (st.entry l c).isSome = true := by
  let I : List (Event Action.Answer) → State → Prop := fun _ st' =>
    ∀ l, (st'.entry l c).isSome = true → l = levelIdOfPacket x ∨ (st.entry l c).isSome = true
  have hsafe : (onUserlevelentry c bbuf).Safe (server settings inputs).machine cleanup
      (AtEnd fun _ log st' => I log st') [⟨.verifySecretKey c cd.secretKey, .ok ()⟩] st := by
    refine (Proc.Safe.of_only (I := I) ?_ ?_ (entersOnly_onUserlevelentry hx) ?_).mono ?_
    · intro a o _ st' ha _ hI l hl
      exact (entry_of_step o ha hl).elim .inl (hI l)
    · intro _ st₁ st₂ hmoves hI l hl
      rw [hmoves.2.1] at hl
      exact hI l hl
    · exact fun _ => .inr
    · exact fun _ _ _ hok _ => hok.1
  obtain ⟨_, _, _, _, _, hend, _⟩ :=
    hreach.handles_dispatched hcd hheader (by decide) hsafe h
  exact hend l hl

/-- What holds of the levels and their names in a state that can be reached. -/
structure NamesLevels (settings : ServerSettings) (st : State) : Prop where
  wireFree : st.levels.contains (-1) = false ∧ st.levels.contains (-2) = false
  /-- What is sent for a LevelListRequest is decoded to a list of the levels. -/
  listed : ∀ c cd buf peer bbuf, st.connectedClients.get c = some cd →
    header buf = some (.levelListRequest, c, cd.secretKey, bbuf) →
    ∀ conf, (server settings anyInput).Handles st (.packet buf peer) conf →
      ∃ bytes, sends (events conf) = [(cd.address, bytes)] ∧ DecodesTo st.levels bytes
  /-- A UserLevelEntry with the name of a level leads to no other level, and to this level unless a
  send fails. -/
  leadsBack : ∀ l, st.levels.contains l = true → ∀ c cd buf peer bbuf rest,
    st.connectedClients.get c = some cd →
    header buf = some (.userLevelEntry, c, cd.secretKey, bbuf) →
    readI32 bbuf = some (packetLevelId l, rest) →
    (∀ conf, (server settings anyInput).Handles st (.packet buf peer) conf →
      ∀ l', (conf.state.entry l' c).isSome = true → l' = l ∨ (st.entry l' c).isSome = true) ∧
    ∀ conf, (server settings sendsSucceed).Handles st (.packet buf peer) conf →
      conf.state.connectedClients.get c = some { cd with levelId := l } ∧
        conf.state.entry l c = some .empty

/-- **The level list names every level once**, and each name leads back to its level. -/
theorem names_levels (h : Reachable settings st)
    (hsize : ∀ l level, st.levels.get l = some level → level.size ≤ 65535) :
    NamesLevels settings st where
  wireFree := h.wireFree.imp FiniteMap.contains_eq_false.mpr FiniteMap.contains_eq_false.mpr
  listed c cd buf peer bbuf hcd hheader conf hconf := by
    obtain ⟨o, hsends⟩ := handle_levelListRequest h hcd hheader hconf
    exact ⟨_, hsends, decodesTo_levelListResponse h.wireFree hsize o⟩
  leadsBack l hl c cd buf peer bbuf rest hcd hheader hx := by
    obtain ⟨level, hlevel⟩ := FiniteMap.contains_iff.mp hl
    have hback := levelIdOfPacket_packetLevelId (h.wireFree.ne hlevel)
    constructor
    · intro conf hconf l' hl'
      have helse := handle_entry_nowhere_else h hcd hheader hx hconf hl'
      rwa [hback] at helse
    · intro conf hconf
      obtain ⟨hclients, hentry⟩ := handle_entry h hcd hheader hx hconf
      rw [hback] at hclients hentry
      rw [hclients, FiniteMap.get_insert_self]
      exact ⟨rfl, hentry⟩

omit [Bytebuffer] in
/-- Where the two copies agree, a level has no more players than there are clients. -/
theorem State.Agrees.size_le (h : st.Agrees) {l : Int32} {level : LevelData}
    (hl : st.levels.get l = some level) : level.size ≤ st.connectedClients.size := by
  apply Finset.card_le_card
  intro c hc
  rw [FiniteMap.mem_keys] at hc ⊢
  have hentry : (st.entry l c).isSome = true := by
    rw [State.entry, hl, Option.bind_some]
    exact hc
  obtain ⟨-, cd, hcd, -⟩ := (h c l).mp hentry
  rw [hcd]
  rfl

omit [Bytebuffer] in
/-- With client 7 on level 5. -/
theorem names_levels_level_5 :
    letI := Bytebuffer.reference
    ∃ st, st.levels.contains 5 = true ∧ NamesLevels ⟨30, 0, false, 60⟩ st := by
  let := Bytebuffer.reference
  obtain ⟨st, cd, hreach, hclients, -, -, hentry⟩ :=
    exists_client_7_on_level_5 (fun _ h => h) wellFormed_checkIn7 (wellFormed_entry7 5)
  obtain ⟨level, hlevel, -⟩ := Option.bind_eq_some_iff.mp hentry
  have hsize : ∀ l level, st.levels.get l = some level → level.size ≤ 65535 := by
    intro l level hl
    have hle := hreach.agrees.size_le hl
    have hone : st.connectedClients.size = 1 := by
      rw [hclients]
      rfl
    omega
  refine ⟨st, FiniteMap.contains_iff.mpr ⟨level, hlevel⟩, names_levels (hreach.mono ?_ ?_) hsize⟩
  · exact fun _ _ => trivial
  · intro k hk
    cases k with
    | removeEmptyLevels => exact hk
    | _ => trivial

end Handlers

end Globed.Server
