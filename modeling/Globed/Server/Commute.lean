import Globed.Server.Authentication
import Globed.Server.Interleaving
import Globed.Server.Malformed

/-!
# Handlers of different clients

What the handler of a packet does to its client depends on nothing but the record and the entries of
that client (`effect`), and it does nothing to any other client. A state in which no level is empty
is determined by the records and entries of all clients. So handlers of different clients commute.
-/

namespace Globed.Server

open Concurrent Bytebuffer

/-! ## What determines a state -/

/-- Where every level has a player, the levels are determined by the entries. -/
theorem State.ext_of_views {st st' : State} (hne : st.NoEmptyLevel) (hne' : st'.NoEmptyLevel)
    (hview : ∀ c, st.view c = st'.view c) : st = st' := by
  have hclients : st.connectedClients = st'.connectedClients :=
    FiniteMap.ext fun c => congrArg Prod.fst (hview c)
  have hentry : ∀ l c, st.entry l c = st'.entry l c :=
    fun l c => congrFun (congrArg Prod.snd (hview c)) l
  -- a level that is in one state has a player, so it is in the other one
  have hnone : ∀ {st₁ st₂ : State}, st₁.NoEmptyLevel → (∀ l c, st₁.entry l c = st₂.entry l c) →
      ∀ l, st₂.levels.get l = none → st₁.levels.get l = none := by
    intro st₁ st₂ h₁ heq l hl
    cases hl₁ : st₁.levels.get l with
    | none => rfl
    | some level =>
      have hempty : level.isEmpty = true := by
        rw [FiniteMap.isEmpty_iff]
        intro c
        have hc := heq l c
        rwa [State.entry, State.entry, hl₁, hl, Option.bind_some, Option.bind_none] at hc
      rw [h₁ l level hl₁] at hempty
      cases hempty
  have hlevels : st.levels = st'.levels := by
    ext1 l
    cases hl : st.levels.get l with
    | none => rw [hnone hne' (fun l c => (hentry l c).symm) l hl]
    | some level =>
      cases hl' : st'.levels.get l with
      | none =>
        rw [hnone hne hentry l hl'] at hl
        cases hl
      | some level' =>
        have heq : level = level' := by
          ext1 c
          have hc := hentry l c
          rwa [State.entry, State.entry, hl, hl', Option.bind_some, Option.bind_some] at hc
        rw [heq]
  obtain ⟨levels, clients⟩ := st
  obtain ⟨levels', clients'⟩ := st'
  obtain rfl : levels = levels' := hlevels
  obtain rfl : clients = clients' := hclients
  rfl

theorem cleanup_view {st st' : State} (h : cleanup.moves st st') (c : Int32) :
    st'.view c = st.view c := by
  refine Prod.ext ?_ (funext fun l => h.2.1 l c)
  change st'.connectedClients.get c = _
  rw [h.1]
  rfl

/-! ## What a packet does to its client -/

theorem State.contains_of_entry {st : State} {l c : Int32} (h : (st.entry l c).isSome = true) :
    st.levels.contains l = true := by
  cases hl : st.levels.get l with
  | none =>
    rw [State.entry, hl] at h
    cases h
  | some level => exact FiniteMap.contains_iff.mpr ⟨level, hl⟩

section Effect

variable [Bytebuffer]

/-- The entries of a client that is taken off the level of its record. -/
def offLevel (cd : ClientData) (entries : Int32 → Option PlayerData) : Int32 → Option PlayerData :=
  if cd.levelId ≠ -1 then Function.update entries cd.levelId none else entries

/-- What a well-formed packet does to the record and the entries of its client. -/
def effect (now : SystemTime) (ptype : ClientPacketKind) (bbuf : ByteReader) (cd : ClientData)
    (entries : Int32 → Option PlayerData) : Option ClientData × (Int32 → Option PlayerData) :=
  match ptype with
  | .keepalive => (some { cd with lastKeepaliveTime := now }, entries)
  | .disconnect => (none, offLevel cd entries)
  | .userLevelEntry =>
    match readI32 bbuf with
    | some (x, _) =>
      (some { cd with levelId := levelIdOfPacket x },
        Function.update (offLevel cd entries) (levelIdOfPacket x) (some .empty))
    | none => (some cd, entries)
  | .userLevelExit => (some { cd with levelId := -1 }, Function.update entries cd.levelId none)
  | .userLevelData =>
    match PlayerData.decode bbuf with
    | some (data, _) =>
      (some cd,
        if cd.levelId ≠ -1 then Function.update entries cd.levelId (some data) else entries)
    | none => (some cd, entries)
  | _ => (some cd, entries)

variable {settings : ServerSettings} {inputs : Input → Prop} {st : State} {c : Int32}
  {cd : ClientData} {bbuf rest : ByteReader} {log : List (Event Action.Answer)}
  {v : Option ClientData × (Int32 → Option PlayerData)}

/-- The section changes nothing. -/
def Action.Reads : Action → Prop
  | sendTo _ _ | clientAddress _ | userRecipients _ | recipients _ | accountData _ | senderInfo _
  | levelIdOf _ | levelEntries _ | levelCounts => True
  | _ => False

omit [Bytebuffer] in
theorem Action.Reads.step {a : Action} (h : a.Reads) (o : Input) (st : State) :
    (Server.step settings o a st).2 = st := by
  cases a <;> first | exact h.elim | rfl

omit [Bytebuffer] in
theorem Action.Sends.reads {a : Action} (h : a.Sends) : a.Reads := by
  cases a <;> first | exact h.elim | trivial

theorem safe_of_reads {t : Task Unit} (ht : t.Only Action.Reads) (hv : st.view c = v) :
    t.Safe (server settings inputs).machine cleanup (AtEnd fun _ _ st' => st'.view c = v) log
      st := by
  let I : List (Event Action.Answer) → State → Prop := fun _ st' => st'.view c = v
  refine (Proc.Safe.of_only (I := I) ?_ ?_ ht hv).mono ?_
  · intro a o _ st' ha _ hI
    change (step settings o a st').2.view c = v
    rw [ha.step o st']
    exact hI
  · exact fun _ _ _ hst hI => (cleanup_view hst c).trans hI
  · exact fun _ _ _ hok _ => hok.1

omit [Bytebuffer] in
theorem view_eq {st' : State} {record : Option ClientData} {entries : Int32 → Option PlayerData}
    (h₁ : st'.connectedClients.get c = record) (h₂ : ∀ l, st'.entry l c = entries l) :
    st'.view c = (record, entries) :=
  Prod.ext h₁ (funext h₂)

omit [Bytebuffer] in
theorem entry_offLevel {st' : State} (h : ∀ l c', st'.entry l c' =
      if cd.levelId ≠ -1 ∧ l = cd.levelId ∧ c' = c then none else st.entry l c') (l : Int32) :
    st'.entry l c = offLevel cd (fun l => st.entry l c) l := by
  rw [h]
  unfold offLevel
  by_cases hoff : cd.levelId = -1
  · simp [hoff]
  · by_cases hl : l = cd.levelId <;> simp [hoff, hl]

theorem safe_onKeepalive {now : SystemTime} (hin : ∀ o, inputs o → o.now = now)
    (hcd : st.connectedClients.get c = some cd) :
    (onKeepalive c).Safe (server settings inputs).machine cleanup
      (AtEnd fun _ _ st' => st'.view c =
        (some { cd with lastKeepaliveTime := now }, fun l => st.entry l c)) log st := by
  apply safe_act
  intro st₁ h₁ o ho
  apply safe_of_reads ((only_sendTo c _).mono fun _ => Action.Sends.reads)
  apply view_eq
  · simp [step, State.keepalive, hin o ho, h₁.1, hcd]
  · exact fun l => h₁.2.1 l c

theorem safe_onDisconnect (hne : st.NoEmptyLevel) (hcd : st.connectedClients.get c = some cd) :
    (onDisconnect c).Safe (server settings inputs).machine cleanup
      (AtEnd fun _ _ st' => st'.view c = (none, offLevel cd fun l => st.entry l c)) log st := by
  apply safe_act
  intro st₁ h₁ o _
  obtain rfl := h₁.2.2 hne
  have hfound : (st₁.takeClient c).1 = some cd := hcd
  have hne' : (st₁.takeClient c).2.NoEmptyLevel := hne
  simp only [step, hfound]
  change ((leaveLevel c cd.levelId >>= fun _ => pure (some cd)) >>= fun _ => pure ()).Safe _ _ _ _ _
  rw [bind_assoc]
  apply safe_leaveLevel_bind hne'
  intro tail st₂ _ h₂ hentry _
  refine safe_ended trivial fun st₃ h₃ => (cleanup_view h₃ c).trans ?_
  apply view_eq
  · rw [h₂]
    exact (FiniteMap.get_erase _ _ _).trans (if_pos rfl)
  · exact entry_offLevel hentry

theorem safe_onUserlevelentry_view {x : Int32} (hne : st.NoEmptyLevel)
    (hcd : st.connectedClients.get c = some cd) (hx : readI32 bbuf = some (x, rest)) :
    (onUserlevelentry c bbuf).Safe (server settings sendsSucceed).machine cleanup
      (AtEnd fun _ _ st' => st'.view c = (some { cd with levelId := levelIdOfPacket x },
        Function.update (offLevel cd fun l => st.entry l c) (levelIdOfPacket x) (some .empty)))
      log st := by
  apply safe_onUserlevelentry_of_enter hne hcd hx
  intro log' st₂ h₂ hoff
  apply safe_enter.mono
  rintro t log st' hend ht
  obtain ⟨hclients, hentry⟩ := hend ht
  apply view_eq
  · rw [hclients, State.setLevelId, h₂]
    simp [hcd]
  · intro l
    rw [hentry, State.entry_insertIntoLevel, entry_offLevel hoff]
    by_cases hl : l = levelIdOfPacket x <;> simp [hl]

theorem safe_onUserlevelexit_view (hcd : st.connectedClients.get c = some cd) :
    (onUserlevelexit c).Safe (server settings sendsSucceed).machine cleanup
      (AtEnd fun _ _ st' => st'.view c = (some { cd with levelId := -1 },
        Function.update (fun l => st.entry l c) cd.levelId none)) log st := by
  apply safe_act
  intro st₁ h₁ o _
  have hfound : (st₁.exitLevel c).1 = some (cd.playerData.name, cd.levelId) := by
    change st₁.nameAndLevel c = _
    rw [State.nameAndLevel, h₁.1, hcd, Option.map_some]
  simp only [step, hfound]
  apply safe_broadcastMessage_bind
  intro _ st₂ h₂
  rw [← Proc.bind_ret (removeClientFromLevel c cd.levelId)]
  apply safe_removeClientFromLevel_bind
  intro tail st₃ _ h₃ hentry _
  refine safe_ended trivial fun st₄ h₄ => (cleanup_view h₄ c).trans ?_
  apply view_eq
  · rw [h₃, h₂.1]
    simp [State.exitLevel, State.setLevelId, h₁.1, hcd]
  · intro l
    rw [hentry, h₂.2.1]
    change (if l = cd.levelId ∧ c = c then none else st₁.entry l c) = _
    rw [h₁.2.1]
    by_cases hl : l = cd.levelId <;> simp [hl]

theorem reads_answerLevel (levelId : Int32) :
    (answerLevel settings c levelId).Only Action.Reads := by
  unfold answerLevel
  split
  · refine ⟨trivial, fun level => ?_⟩
    cases level with
    | none => trivial
    | some level => exact (only_sendTo c _).mono fun _ => Action.Sends.reads
  · trivial

/-- The level that a client's record names exists, so that its data is stored there. -/
theorem safe_onUpdatedata_view {data : PlayerData} (hplaced : st.Placed c)
    (hcd : st.connectedClients.get c = some cd)
    (hdata : PlayerData.decode bbuf = some (data, rest)) :
    (onUpdatedata settings c false bbuf).Safe (server settings inputs).machine cleanup
      (AtEnd fun _ _ st' => st'.view c = (some cd,
        if cd.levelId ≠ -1 then Function.update (fun l => st.entry l c) cd.levelId (some data)
        else fun l => st.entry l c)) log st := by
  apply safe_act
  intro st₁ h₁ o _
  have hfound : (st₁.connectedClients.get c).map (·.levelId) = some cd.levelId := by
    rw [h₁.1, hcd, Option.map_some]
  simp only [step, hfound]
  change (updateLevel c cd.levelId false bbuf >>= fun _ => answerLevel settings c cd.levelId).Safe
    _ _ _ _ _
  simp only [updateLevel, read, hdata, Bool.not_false, if_true, Proc.ret_bind]
  by_cases hoff : cd.levelId = -1
  · simp only [hoff, ne_eq, not_true_eq_false, if_false]
    apply safe_of_reads (reads_answerLevel _)
    apply view_eq
    · rw [h₁.1, hcd]
    · exact fun l => h₁.2.1 l c
  · simp only [hoff, ne_eq, not_false_eq_true, if_true]
    apply safe_act
    intro st₂ h₂ o₂ _
    have hentry : (st₂.entry cd.levelId c).isSome = true := by
      rw [h₂.2.1, h₁.2.1]
      exact (hplaced cd.levelId).mpr (by simp [State.levelOf, hcd, hoff])
    have hlevel : st₂.levels.contains cd.levelId = true := State.contains_of_entry hentry
    have hstored : (st₂.storePlayerData c cd.levelId data).1 = true := by
      obtain ⟨level, hget⟩ := FiniteMap.contains_iff.mp hlevel
      rw [State.storePlayerData, hget]
    simp only [step, hstored]
    apply safe_of_reads (reads_answerLevel _)
    apply view_eq
    · rw [State.connectedClients_storePlayerData, h₂.1, h₁.1, hcd]
    · intro l
      rw [State.entry_storePlayerData, h₂.2.1, h₁.2.1]
      by_cases hl : l = cd.levelId <;> simp [hl, hlevel]

theorem reads_sendTo (data : ByteBuffer) : (sendTo c data).Only Action.Reads :=
  (only_sendTo c data).mono fun _ => Action.Sends.reads

theorem reads_spectate : (onUpdatedata settings c true bbuf).Only Action.Reads := by
  refine ⟨trivial, fun levelId => ?_⟩
  cases levelId with
  | none => trivial
  | some levelId => exact reads_answerLevel levelId

theorem reads_onPlayeraccountdatarequest :
    (onPlayeraccountdatarequest c bbuf).Only Action.Reads := by
  apply (only_read _ bbuf).bind
  intro p
  refine ⟨trivial, fun icons => ?_⟩
  cases icons with
  | none => trivial
  | some icons => exact reads_sendTo _

theorem reads_onSendtextmessage : (onSendtextmessage c bbuf).Only Action.Reads := by
  unfold onSendtextmessage
  split
  · exact ⟨trivial, fun _ => (only_broadcastUserMessage c _).mono fun _ => Action.Sends.reads⟩
  · trivial

/-- All sends succeed, and the clock reads `now`. -/
def sendsSucceedAt (now : SystemTime) : Input → Prop := fun o => o.sent = true ∧ o.now = now

/-- **What a packet does to its client** is a function of what is kept about that client. -/
theorem handle_effect {now : SystemTime} {ptype : ClientPacketKind} {buf : List UInt8}
    {peer : SocketAddr} (hreach : ReachableBy settings sendsSucceed Request.WellFormed st)
    (hcd : st.connectedClients.get c = some cd)
    (hheader : header buf = some (ptype, c, cd.secretKey, bbuf)) (hp : ptype ≠ .checkIn)
    (hdecodes : payloadDecodes ptype bbuf = true)
    {conf : Config Action Action.Answer Error State Request}
    (h : (server settings (sendsSucceedAt now)).Handles st (.packet buf peer) conf) :
    conf.state.view c = effect now ptype bbuf cd fun l => st.entry l c := by
  have hne := hreach.noEmptyLevel
  have hends : ∀ {inputs : Input → Prop}, (server settings inputs).Handles st (.packet buf peer)
      conf → ∀ {v}, (dispatch settings ptype c bbuf).Safe (server settings inputs).machine cleanup
        (AtEnd fun _ _ st' => st'.view c = v) [⟨.verifySecretKey c cd.secretKey, .ok ()⟩] st →
      conf.state.view c = v := by
    intro inputs h' v hsafe
    obtain ⟨_, _, _, _, _, hend, _⟩ := hreach.handles_dispatched hcd hheader hp hsafe h'
    exact hend
  have hreads : (dispatch settings ptype c bbuf).Only Action.Reads →
      conf.state.view c = (some cd, fun l => st.entry l c) :=
    fun ht => hends h (safe_of_reads ht (view_eq hcd fun _ => rfl))
  have hsends : (server settings sendsSucceed).Handles st (.packet buf peer) conf :=
    ⟨reach_of_inputs (fun _ ho => ho.1) h.1, h.2⟩
  cases ptype with
  | keepalive => exact hends h (safe_onKeepalive (fun _ ho => ho.2) hcd)
  | disconnect => exact hends h (safe_onDisconnect hne hcd)
  | userLevelEntry =>
    obtain ⟨⟨x, rest⟩, hx⟩ := Option.isSome_iff_exists.mp hdecodes
    rw [effect, hx]
    exact hends hsends (safe_onUserlevelentry_view hne hcd hx)
  | userLevelExit => exact hends hsends (safe_onUserlevelexit_view hcd)
  | userLevelData =>
    obtain ⟨⟨data, rest⟩, hdata⟩ := Option.isSome_iff_exists.mp hdecodes
    rw [effect, hdata]
    have hplaced := State.agrees_iff.mp hreach.agrees c
    exact hends h (safe_onUpdatedata_view hplaced hcd hdata)
  | spectateNoData => exact hreads reads_spectate
  | playerAccountDataRequest => exact hreads reads_onPlayeraccountdatarequest
  | levelListRequest => exact hreads ⟨trivial, fun _ => reads_sendTo _⟩
  | sendTextMessage => exact hreads reads_onSendtextmessage
  | ping => exact absurd rfl (header_ne_ping hheader)
  | checkIn => exact absurd rfl hp

end Effect

/-! ## Two orders -/

section Commute

variable [Bytebuffer] {settings : ServerSettings} {inputs : Input → Prop} {st : State}

/-- A packet does nothing to any client but its own. -/
theorem handle_view_of_ne {ptype : ClientPacketKind} {c key x : Int32} {buf : List UInt8}
    {peer : SocketAddr} {bbuf : ByteReader} (hheader : header buf = some (ptype, c, key, bbuf))
    (hx : x ≠ c) {conf : Config Action Action.Answer Error State Request}
    (h : (server settings inputs).Handles st (.packet buf peer) conf) :
    conf.state.view x = st.view x := by
  apply handles_view _ h
  intro log
  rw [handlePacket_of_header hheader]
  exact leavesAlone_of_actsFor hx (actsFor_serve settings ptype key peer bbuf) log st

/-- A well-formed packet of a registered client, other than a CheckIn. -/
structure ClientPacket (st : State) (c : Int32) (buf : List UInt8) where
  ptype : ClientPacketKind
  cd : ClientData
  bbuf : ByteReader
  registered : st.connectedClients.get c = some cd
  header_eq : header buf = some (ptype, c, cd.secretKey, bbuf)
  ne_checkIn : ptype ≠ .checkIn
  decodes : payloadDecodes ptype bbuf = true

namespace ClientPacket

variable {c d : Int32} {buf buf' : List UInt8} {peer peer' : SocketAddr}
  {conf conf' : Config Action Action.Answer Error State Request} {now now' : SystemTime}

theorem wellFormed (p : ClientPacket st c buf) (peer : SocketAddr) :
    (Request.packet buf peer).WellFormed :=
  .inl ⟨p.ptype, c, p.cd.secretKey, p.bbuf, p.header_eq, p.decodes⟩

theorem handled (p : ClientPacket st c buf) {st₀ : State}
    (hreach : ReachableBy settings sendsSucceed Request.WellFormed st₀)
    (h : (server settings (sendsSucceedAt now)).Handles st₀ (.packet buf peer) conf) :
    ReachableBy settings sendsSucceed Request.WellFormed conf.state :=
  hreach.handle (p.wellFormed peer) ⟨reach_of_inputs (fun _ ho => ho.1) h.1, h.2⟩

/-- After a packet of another client the packet has the same effect as before. -/
theorem view_of_second (p : ClientPacket st c buf) (q : ClientPacket st d buf') (hne : c ≠ d)
    (hreach : ReachableBy settings sendsSucceed Request.WellFormed st)
    (h : (server settings (sendsSucceedAt now')).Handles st (.packet buf' peer') conf)
    (h' : (server settings (sendsSucceedAt now)).Handles conf.state (.packet buf peer) conf') :
    conf'.state.view c = effect now p.ptype p.bbuf p.cd fun l => st.entry l c := by
  have hview : conf.state.view c = st.view c := handle_view_of_ne q.header_eq hne h
  have hcd : conf.state.connectedClients.get c = some p.cd :=
    (congrArg Prod.fst hview).trans p.registered
  have hentry : (fun l => conf.state.entry l c) = fun l => st.entry l c := congrArg Prod.snd hview
  rw [← hentry]
  exact handle_effect (q.handled hreach h) hcd p.header_eq p.ne_checkIn p.decodes h'

end ClientPacket

/-- **Handlers of different clients commute**: well-formed packets of two registered clients,
handled in either order, each with its own reading of the clock and with the cleanups it spawned,
lead to the same state. -/
theorem handlers_commute {c d : Int32} {buf buf' : List UInt8} (p : ClientPacket st c buf)
    (q : ClientPacket st d buf') (hne : c ≠ d)
    (hreach : ReachableBy settings sendsSucceed Request.WellFormed st) {peer peer' : SocketAddr}
    {now now' : SystemTime}
    {conf₁ conf₁₂ conf₂ conf₂₁ : Config Action Action.Answer Error State Request}
    (h₁ : (server settings (sendsSucceedAt now)).Handles st (.packet buf peer) conf₁)
    (h₁₂ : (server settings (sendsSucceedAt now')).Handles conf₁.state (.packet buf' peer') conf₁₂)
    (h₂ : (server settings (sendsSucceedAt now')).Handles st (.packet buf' peer') conf₂)
    (h₂₁ : (server settings (sendsSucceedAt now)).Handles conf₂.state (.packet buf peer) conf₂₁) :
    conf₁₂.state = conf₂₁.state := by
  have hreach₁₂ := q.handled (p.handled hreach h₁) h₁₂
  have hreach₂₁ := p.handled (q.handled hreach h₂) h₂₁
  apply State.ext_of_views hreach₁₂.noEmptyLevel hreach₂₁.noEmptyLevel
  intro x
  by_cases hc : x = c
  · subst hc
    calc conf₁₂.state.view x
        = conf₁.state.view x := handle_view_of_ne q.header_eq hne h₁₂
      _ = effect now p.ptype p.bbuf p.cd fun l => st.entry l x :=
        handle_effect hreach p.registered p.header_eq p.ne_checkIn p.decodes h₁
      _ = conf₂₁.state.view x := (p.view_of_second q hne hreach h₂ h₂₁).symm
  by_cases hd : x = d
  · subst hd
    calc conf₁₂.state.view x
        = effect now' q.ptype q.bbuf q.cd fun l => st.entry l x :=
        q.view_of_second p hne.symm hreach h₁ h₁₂
      _ = conf₂.state.view x :=
        (handle_effect hreach q.registered q.header_eq q.ne_checkIn q.decodes h₂).symm
      _ = conf₂₁.state.view x := (handle_view_of_ne p.header_eq hne.symm h₂₁).symm
  · calc conf₁₂.state.view x
        = conf₁.state.view x := handle_view_of_ne q.header_eq hd h₁₂
      _ = st.view x := handle_view_of_ne p.header_eq hc h₁
      _ = conf₂.state.view x := (handle_view_of_ne q.header_eq hd h₂).symm
      _ = conf₂₁.state.view x := (handle_view_of_ne p.header_eq hc h₂₁).symm

omit [Bytebuffer] in
/-- Clients 7 and 8 enter level 5 in either order. -/
theorem handlers_commute_two_entries :
    letI := Bytebuffer.reference
    let sys := server ⟨30, 0, false, 60⟩ (sendsSucceedAt 1000)
    let entry8 : List UInt8 := [110, 0, 0, 0, 8, 0, 0, 0, 42, 0, 0, 0, 5]
    ∃ st conf₁ conf₁₂ conf₂ conf₂₁,
      st.connectedClients.contains 7 = true ∧ st.connectedClients.contains 8 = true ∧
      sys.Handles st (.packet (entry7 5) peer7) conf₁ ∧
      sys.Handles conf₁.state (.packet entry8 peer7) conf₁₂ ∧
      sys.Handles st (.packet entry8 peer7) conf₂ ∧
      sys.Handles conf₂.state (.packet (entry7 5) peer7) conf₂₁ ∧
      conf₁₂.state = conf₂₁.state := by
  let := Bytebuffer.reference
  intro sys entry8
  obtain ⟨st, now₁, now₂, hreach, hget7, hget8⟩ :=
    exists_clients_7_8_checkedIn wellFormed_checkIn7 wellFormed_checkIn8
  let p : ClientPacket st 7 (entry7 5) :=
    ⟨.userLevelEntry, _, ⟨[0, 0, 0, 5], 0⟩, hget7, rfl, by decide, rfl⟩
  let q : ClientPacket st 8 entry8 :=
    ⟨.userLevelEntry, _, ⟨[0, 0, 0, 5], 0⟩, hget8, rfl, by decide, rfl⟩
  have hin : ∃ o, sendsSucceedAt 1000 o := ⟨⟨1000, .any Int32, .any Int32, true⟩, rfl, rfl⟩
  obtain ⟨conf₁, h₁⟩ := server_handles hin ⟨30, 0, false, 60⟩ st (.packet (entry7 5) peer7)
  obtain ⟨conf₁₂, h₁₂⟩ := server_handles hin ⟨30, 0, false, 60⟩ conf₁.state (.packet entry8 peer7)
  obtain ⟨conf₂, h₂⟩ := server_handles hin ⟨30, 0, false, 60⟩ st (.packet entry8 peer7)
  obtain ⟨conf₂₁, h₂₁⟩ :=
    server_handles hin ⟨30, 0, false, 60⟩ conf₂.state (.packet (entry7 5) peer7)
  exact ⟨st, conf₁, conf₁₂, conf₂, conf₂₁, FiniteMap.contains_iff.mpr ⟨_, hget7⟩,
    FiniteMap.contains_iff.mpr ⟨_, hget8⟩, h₁, h₁₂, h₂, h₂₁,
    handlers_commute p q (by decide) hreach h₁ h₁₂ h₂ h₂₁⟩

end Commute

end Globed.Server
