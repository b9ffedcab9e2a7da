import Globed.Server.Commute
import Globed.Server.Fanout
import Globed.Server.Table

/-!
# The server refines its table

While sends succeed and requests are handled one at a time, the two maps of the server are one table
(`State.table`): a client has an entry in no level but the one of its record (`Housed`), so that the
levels are determined by the table, and every request, whatever its bytes, does to the table what
`Table.serve` says. A datagram may be malformed, so the record and the levels need not agree.
-/

namespace Globed.Server

open Concurrent Bytebuffer

/-! ## Clients are housed -/

/-- The client has an entry in no level but the one of its record. -/
def HousedView (v : Option ClientData × (Int32 → Option PlayerData)) : Prop :=
  ∀ l, (v.2 l).isSome = true → l ≠ -1 ∧ ∃ cd, v.1 = some cd ∧ cd.levelId = l

def State.Housed (st : State) : Prop := ∀ c, HousedView (st.view c)

section Housed

variable {st : State} {c : Int32} {cd : ClientData} {entries : Int32 → Option PlayerData}

theorem HousedView.entry_eq_none (h : HousedView (some cd, entries)) {l : Int32}
    (hl : l ≠ cd.levelId) : entries l = none := by
  rw [← Option.not_isSome_iff_eq_none]
  intro hsome
  obtain ⟨-, cd', hcd', rfl⟩ := h l hsome
  cases hcd'
  exact hl rfl

theorem HousedView.entry_none (h : HousedView (none, entries)) (l : Int32) : entries l = none := by
  rw [← Option.not_isSome_iff_eq_none]
  intro hsome
  obtain ⟨-, cd, hcd, -⟩ := h l hsome
  cases hcd

theorem HousedView.entry_off {v : Option ClientData × (Int32 → Option PlayerData)}
    (h : HousedView v) : v.2 (-1) = none := by
  rw [← Option.not_isSome_iff_eq_none]
  exact fun hsome => (h (-1) hsome).1 rfl

theorem housedView_nowhere (record : Option ClientData) (h : ∀ l, entries l = none) :
    HousedView (record, entries) := by
  intro l hsome
  change (entries l).isSome = true at hsome
  rw [h l] at hsome
  cases hsome

/-- A client that is entered nowhere but on one level. -/
theorem housedView_update (cd : ClientData) (h : ∀ l, entries l = none) (hl : cd.levelId ≠ -1)
    (data : Option PlayerData) :
    HousedView (some cd, Function.update entries cd.levelId data) := by
  intro l hsome
  change (Function.update entries cd.levelId data l).isSome = true at hsome
  by_cases heq : l = cd.levelId
  · subst heq
    exact ⟨hl, cd, rfl, rfl⟩
  · rw [Function.update_of_ne heq, h l] at hsome
    cases hsome

/-- After its level was left, a client is entered nowhere. -/
theorem HousedView.offLevel_eq_none (h : HousedView (some cd, entries)) (l : Int32) :
    offLevel cd entries l = none := by
  unfold offLevel
  by_cases hl : l = cd.levelId
  · subst hl
    by_cases hoff : cd.levelId = -1
    · rw [if_neg (not_not_intro hoff), hoff]
      exact h.entry_off
    · rw [if_pos hoff, Function.update_self]
  · split
    · rw [Function.update_of_ne hl]
      exact h.entry_eq_none hl
    · exact h.entry_eq_none hl

theorem State.Housed.occupied_iff (h : st.Housed) (hne : st.NoEmptyLevel) {l : Int32} :
    st.table.Occupied l ↔ st.levels.contains l = true := by
  rw [Table.occupied_iff]
  constructor
  · rintro ⟨c, s, hs, rfl, hseen⟩
    obtain ⟨cd, -, rfl⟩ := Option.map_eq_some_iff.mp hs
    exact State.contains_of_entry hseen
  · intro hl
    obtain ⟨level, hlevel⟩ := FiniteMap.contains_iff.mp hl
    have hempty := hne l level hlevel
    rw [← Bool.not_eq_true, FiniteMap.isEmpty_iff, not_forall] at hempty
    obtain ⟨c, hc⟩ := hempty
    have hentry : (st.entry l c).isSome = true := by
      rw [State.entry, hlevel, Option.bind_some]
      exact Option.isSome_iff_ne_none.mpr hc
    obtain ⟨-, cd, hcd, rfl⟩ := h c l hentry
    refine ⟨c, ⟨cd, st.entry cd.levelId c⟩, ?_, rfl, hentry⟩
    rw [State.table, FiniteMap.get_map, show st.connectedClients.get c = some cd from hcd]
    rfl

/-- The level of a table is that of the state. -/
theorem State.Housed.level_table (h : st.Housed) {l : Int32} {level : LevelData}
    (hl : st.levels.get l = some level) : st.table.level l = level := by
  ext1 c
  rw [Table.level, FiniteMap.get_filterMap, State.table, FiniteMap.get_map]
  have hentry : st.entry l c = level.get c := by
    rw [State.entry, hl, Option.bind_some]
  rw [← hentry]
  have hc := h c
  cases hcd : st.connectedClients.get c with
  | none =>
    rw [State.view, hcd] at hc
    exact (hc.entry_none l).symm
  | some cd =>
    rw [State.view, hcd] at hc
    by_cases heq : cd.levelId = l
    · subst heq
      simp
    · simpa [heq] using (hc.entry_eq_none (Ne.symm heq)).symm

/-- The two maps are those that the table stands for. -/
theorem State.Housed.state_table (h : st.Housed) (hne : st.NoEmptyLevel) :
    st.table.state = st := by
  have hlevels : st.table.levels = st.levels := by
    ext1 l
    change (if st.table.Occupied l then some (st.table.level l) else none) = _
    cases hl : st.levels.get l with
    | none =>
      rw [if_neg]
      rw [h.occupied_iff hne, FiniteMap.contains, hl]
      exact Bool.false_ne_true
    | some level =>
      rw [if_pos ((h.occupied_iff hne).mpr (FiniteMap.contains_iff.mpr ⟨level, hl⟩)),
        h.level_table hl]
  have hclients : st.table.map (fun _ s => s.client) = st.connectedClients := by
    ext1 c
    rw [FiniteMap.get_map, State.table, FiniteMap.get_map, Option.map_map]
    exact Option.map_id_apply
  rw [Table.state, hlevels, hclients]

end Housed

/-! ## Packets of a client -/

section Packets

variable [Bytebuffer] {settings : ServerSettings} {inputs : Input → Prop} {st : State}
  {c key : Int32} {cd : ClientData} {bbuf rest : ByteReader} {log : List (Event Action.Answer)}

theorem safe_onKeepalive_at (hcd : st.connectedClients.get c = some cd) :
    (onKeepalive c).Safe (server settings inputs).machine cleanup
      (AtEnd fun _ _ st' => ∃ now, st'.view c =
        (some { cd with lastKeepaliveTime := now }, fun l => st.entry l c)) log st := by
  apply safe_act
  intro st₁ h₁ o _
  have hview : (st₁.keepalive o.now c).2.view c =
      (some { cd with lastKeepaliveTime := o.now }, fun l => st.entry l c) := by
    apply view_eq
    · simp [State.keepalive, h₁.1, hcd]
    · exact fun l => h₁.2.1 l c
  refine (safe_of_reads (reads_sendTo _) hview).mono ?_
  exact fun _ _ _ hok hend => ⟨o.now, hok hend⟩

/-- A UserLevelEntry without a level id takes the client off its level. -/
theorem safe_onUserlevelentry_malformed (hne : st.NoEmptyLevel)
    (hcd : st.connectedClients.get c = some cd) (hx : readI32 bbuf = none) :
    (onUserlevelentry c bbuf).Safe (server settings inputs).machine cleanup
      (AtEnd fun _ _ st' => st'.view c = (some cd, offLevel cd fun l => st.entry l c)) log st := by
  apply safe_act
  intro st₁ h₁ o _
  obtain rfl := h₁.2.2 hne
  have hfound : st₁.nameAndLevel c = some (cd.playerData.name, cd.levelId) := by
    rw [State.nameAndLevel, hcd, Option.map_some]
  simp only [step, hfound]
  apply safe_leaveLevel_bind hne
  intro tail st₂ _ hclients hentry _
  simp only [read, hx]
  refine safe_ended trivial fun st₃ h₃ => (cleanup_view h₃ c).trans ?_
  apply view_eq
  · rw [hclients, hcd]
  · exact entry_offLevel hentry

/-- Data is stored if the level of the record exists, wherever the client is. -/
theorem safe_onUpdatedata_stored {data : PlayerData} (hne : st.NoEmptyLevel)
    (hcd : st.connectedClients.get c = some cd) (hlevel : st.levels.contains cd.levelId = true)
    (hoff : cd.levelId ≠ -1) (hdata : PlayerData.decode bbuf = some (data, rest)) :
    (onUpdatedata settings c false bbuf).Safe (server settings inputs).machine cleanup
      (AtEnd fun _ _ st' => st'.view c =
        (some cd, Function.update (fun l => st.entry l c) cd.levelId (some data))) log st := by
  apply safe_act
  intro st₁ h₁ o _
  obtain rfl := h₁.2.2 hne
  have hfound : (st₁.connectedClients.get c).map (·.levelId) = some cd.levelId := by
    rw [hcd, Option.map_some]
  simp only [step, hfound]
  change (updateLevel c cd.levelId false bbuf >>= fun _ => answerLevel settings c cd.levelId).Safe
    _ _ _ _ _
  simp only [updateLevel, read, hdata, Bool.not_false, if_true, Proc.ret_bind, ne_eq, hoff,
    not_false_eq_true]
  apply safe_act
  intro st₂ h₂ o₂ _
  obtain rfl := h₂.2.2 hne
  obtain ⟨level, hget⟩ := FiniteMap.contains_iff.mp hlevel
  have hstored : (st₂.storePlayerData c cd.levelId data).1 = true := by
    rw [State.storePlayerData, hget]
  simp only [step, hstored]
  apply safe_of_reads (reads_answerLevel _)
  apply view_eq
  · rw [State.connectedClients_storePlayerData, hcd]
  · intro l
    rw [State.entry_storePlayerData]
    by_cases hl : l = cd.levelId <;> simp [hl, hlevel]

/-- Data that is not stored changes nothing. -/
theorem safe_onUpdatedata_dropped (hne : st.NoEmptyLevel)
    (hcd : st.connectedClients.get c = some cd)
    (hnot : PlayerData.decode bbuf = none ∨ st.levels.contains cd.levelId = false) :
    (onUpdatedata settings c false bbuf).Safe (server settings inputs).machine cleanup
      (AtEnd fun _ _ st' => st'.view c = st.view c) log st := by
  apply safe_act
  intro st₁ h₁ o _
  obtain rfl := h₁.2.2 hne
  have hfound : (st₁.connectedClients.get c).map (·.levelId) = some cd.levelId := by
    rw [hcd, Option.map_some]
  simp only [step, hfound]
  change (updateLevel c cd.levelId false bbuf >>= fun _ => answerLevel settings c cd.levelId).Safe
    _ _ _ _ _
  cases hdata : PlayerData.decode bbuf with
  | none =>
    simp only [updateLevel, read, hdata, Bool.not_false, if_true]
    exact safe_ended trivial fun st₂ h₂ => cleanup_view h₂ c
  | some p =>
    obtain ⟨data, rest⟩ := p
    have hlevel := hnot.resolve_left (by rw [hdata]; exact Option.some_ne_none _)
    simp only [updateLevel, read, hdata, Bool.not_false, if_true, Proc.ret_bind]
    by_cases hoff : cd.levelId = -1
    · simp only [hoff, ne_eq, not_true_eq_false, if_false]
      exact safe_of_reads (reads_answerLevel _) rfl
    · simp only [hoff, ne_eq, not_false_eq_true, if_true]
      apply safe_act
      intro st₂ h₂ o₂ _
      obtain rfl := h₂.2.2 hne
      have hdropped : st₂.storePlayerData c cd.levelId data = (false, st₂) := by
        rw [State.storePlayerData, FiniteMap.contains_eq_false.mp hlevel]
      simp only [step, hdropped]
      exact safe_ended trivial fun st₃ h₃ => cleanup_view h₃ c

/-- What has become of the session of a client, which is housed. -/
def Becomes (s : Option Session) (v : Option ClientData × (Int32 → Option PlayerData)) : Prop :=
  HousedView v ∧ Session.ofView v = s

/-- The session of the client `c` ends up as `s`. -/
abbrev EndsAs (c : Int32) (s : Option Session) :
    Task Unit → List (Event Action.Answer) → State → Prop :=
  AtEnd fun _ _ st' => Becomes s (st'.view c)

theorem safe_becomes {t : Task Unit} {v : Option ClientData × (Int32 → Option PlayerData)}
    {s : Option Session}
    (h : t.Safe (server settings inputs).machine cleanup (AtEnd fun _ _ st' => st'.view c = v) log
      st) (hv : Becomes s v) :
    t.Safe (server settings inputs).machine cleanup (EndsAs c s) log st := by
  apply h.mono
  rintro t log st' hend ht
  rw [hend ht]
  exact hv

omit [Bytebuffer] in
theorem State.Housed.becomes_same (h : st.Housed) (c : Int32) :
    Becomes (st.table.get c) (st.view c) :=
  ⟨h c, rfl⟩

section Handlers

variable (hne : st.NoEmptyLevel) (hhoused : st.Housed) (hcd : st.connectedClients.get c = some cd)

include hhoused hcd

omit [Bytebuffer] in
theorem State.Housed.of_get : HousedView (some cd, fun l => st.entry l c) := by
  have hview : st.view c = (some cd, fun l => st.entry l c) := view_eq hcd fun _ => rfl
  exact hview ▸ hhoused c

theorem endsAs_onKeepalive :
    (onKeepalive c).Safe (server settings inputs).machine cleanup (AtEnd fun _ _ st' => ∃ now,
      Becomes ((st.table.obey now c ⟨cd, st.entry cd.levelId c⟩ bbuf .keepalive).get c)
        (st'.view c)) log st := by
  apply (safe_onKeepalive_at hcd).mono
  rintro t log st' hend ht
  obtain ⟨now, hview⟩ := hend ht
  refine ⟨now, ?_⟩
  rw [hview, Table.obey, FiniteMap.get_insert_self]
  refine ⟨fun l hl => ?_, rfl⟩
  obtain ⟨hoff, _, heq, rfl⟩ := hhoused.of_get hcd l hl
  cases heq
  exact ⟨hoff, _, rfl, rfl⟩

theorem endsAs_onUserlevelexit (now : SystemTime) :
    (onUserlevelexit c).Safe (server settings sendsSucceed).machine cleanup (EndsAs c
      ((st.table.obey now c ⟨cd, st.entry cd.levelId c⟩ bbuf .userLevelExit).get c)) log st := by
  apply safe_becomes (safe_onUserlevelexit_view hcd)
  rw [Table.obey, FiniteMap.get_insert_self]
  have hnowhere : ∀ l, Function.update (fun l => st.entry l c) cd.levelId none l = none := by
    intro l
    by_cases hl : l = cd.levelId
    · rw [hl, Function.update_self]
    · rw [Function.update_of_ne hl]
      exact (hhoused.of_get hcd).entry_eq_none hl
  refine ⟨housedView_nowhere _ hnowhere, ?_⟩
  rw [Session.ofView_some, hnowhere]

include hne

theorem endsAs_onDisconnect (now : SystemTime) :
    (onDisconnect c).Safe (server settings inputs).machine cleanup (EndsAs c
      ((st.table.obey now c ⟨cd, st.entry cd.levelId c⟩ bbuf .disconnect).get c)) log st := by
  apply safe_becomes (safe_onDisconnect hne hcd)
  rw [Table.obey, FiniteMap.get_erase, if_pos rfl]
  exact ⟨housedView_nowhere none (hhoused.of_get hcd).offLevel_eq_none, rfl⟩

theorem endsAs_onUserlevelentry (now : SystemTime) :
    (onUserlevelentry c bbuf).Safe (server settings sendsSucceed).machine cleanup (EndsAs c
      ((st.table.obey now c ⟨cd, st.entry cd.levelId c⟩ bbuf .userLevelEntry).get c)) log st := by
  have hnowhere := (hhoused.of_get hcd).offLevel_eq_none
  cases hx : readI32 bbuf with
  | none =>
    apply safe_becomes (safe_onUserlevelentry_malformed hne hcd hx)
    rw [Table.obey, hx, FiniteMap.get_insert_self]
    refine ⟨housedView_nowhere _ hnowhere, ?_⟩
    rw [Session.ofView_some, hnowhere]
  | some p =>
    obtain ⟨x, rest⟩ := p
    apply safe_becomes (safe_onUserlevelentry_view hne hcd hx)
    rw [Table.obey, hx, FiniteMap.get_insert_self]
    refine ⟨housedView_update _ hnowhere (levelIdOfPacket_ne x) _, ?_⟩
    simp

theorem endsAs_onUpdatedata (now : SystemTime) (hfree : st.levels.get (-1) = none) :
    (onUpdatedata settings c false bbuf).Safe (server settings inputs).machine cleanup (EndsAs c
      ((st.table.obey now c ⟨cd, st.entry cd.levelId c⟩ bbuf .userLevelData).get c)) log st := by
  have hsame := hhoused.becomes_same c
  cases hdata : PlayerData.decode bbuf with
  | none =>
    apply safe_becomes (safe_onUpdatedata_dropped hne hcd (.inl hdata))
    rwa [Table.obey, hdata]
  | some p =>
    obtain ⟨data, rest⟩ := p
    cases hlevel : st.levels.contains cd.levelId with
    | false =>
      apply safe_becomes (safe_onUpdatedata_dropped hne hcd (.inr hlevel))
      have hvacant : ¬st.table.Occupied cd.levelId := by
        rw [hhoused.occupied_iff hne, hlevel]
        exact Bool.false_ne_true
      rw [Table.obey, hdata]
      simpa only [if_neg hvacant] using hsame
    | true =>
      have hoff : cd.levelId ≠ -1 := by
        intro heq
        rw [heq, FiniteMap.contains, hfree] at hlevel
        cases hlevel
      apply safe_becomes (safe_onUpdatedata_stored hne hcd hlevel hoff hdata)
      have hoccupied : st.table.Occupied cd.levelId := (hhoused.occupied_iff hne).mpr hlevel
      rw [Table.obey, hdata]
      simp only [if_pos hoccupied, FiniteMap.get_insert_self]
      refine ⟨fun l hl => ?_, by simp⟩
      change (Function.update (fun l => st.entry l c) cd.levelId (some data) l).isSome = true at hl
      by_cases heq : l = cd.levelId
      · exact ⟨heq ▸ hoff, cd, rfl, heq.symm⟩
      · rw [Function.update_of_ne heq] at hl
        exact hhoused.of_get hcd l hl

end Handlers

/-- **What a packet does to its client**, in the table. -/
theorem becomes_obeyed (hreach : ReachableBy settings sendsSucceed Request.External st)
    (hhoused : st.Housed) {ptype : ClientPacketKind} {buf : List UInt8} {peer : SocketAddr}
    (hcd : st.connectedClients.get c = some cd)
    (hheader : header buf = some (ptype, c, cd.secretKey, bbuf)) (hp : ptype ≠ .checkIn)
    {conf : Config Action Action.Answer Error State Request}
    (h : (server settings sendsSucceed).Handles st (.packet buf peer) conf) :
    ∃ now, Becomes ((st.table.obey now c ⟨cd, st.entry cd.levelId c⟩ bbuf ptype).get c)
      (conf.state.view c) := by
  have hne := hreach.noEmptyLevel
  have hends : ∀ {Q : State → Prop},
      (dispatch settings ptype c bbuf).Safe (server settings sendsSucceed).machine cleanup
        (AtEnd fun _ _ st' => Q st') [⟨.verifySecretKey c cd.secretKey, .ok ()⟩] st →
      Q conf.state := by
    intro Q hsafe
    obtain ⟨_, _, _, _, _, hend, _⟩ := hreach.handles_dispatched hcd hheader hp hsafe h
    exact hend
  have hreads : (dispatch settings ptype c bbuf).Only Action.Reads →
      Becomes (st.table.get c) (conf.state.view c) := fun ht =>
    hends (safe_becomes (safe_of_reads ht rfl) (hhoused.becomes_same c))
  cases ptype with
  | keepalive => exact hends (endsAs_onKeepalive hhoused hcd)
  | disconnect => exact ⟨0, hends (endsAs_onDisconnect hne hhoused hcd 0)⟩
  | userLevelEntry => exact ⟨0, hends (endsAs_onUserlevelentry hne hhoused hcd 0)⟩
  | userLevelExit => exact ⟨0, hends (endsAs_onUserlevelexit hhoused hcd 0)⟩
  | userLevelData =>
    exact ⟨0, hends (endsAs_onUpdatedata hne hhoused hcd 0 hreach.wireFree.1)⟩
  | spectateNoData => exact ⟨0, hreads reads_spectate⟩
  | playerAccountDataRequest => exact ⟨0, hreads reads_onPlayeraccountdatarequest⟩
  | levelListRequest => exact ⟨0, hreads ⟨trivial, fun _ => reads_sendTo _⟩⟩
  | sendTextMessage => exact ⟨0, hreads reads_onSendtextmessage⟩
  | ping => exact absurd rfl (header_ne_ping hheader)
  | checkIn => exact absurd rfl hp

/-! ## All packets -/

/-- A packet for a client that is not registered is turned away. -/
theorem leavesAlone_of_unknown (ptype : ClientPacketKind) (hp : ptype ≠ .checkIn) (hid : c ≠ 0)
    (peer : SocketAddr) (hnone : st.connectedClients.get c = none) :
    (serve settings ptype c key peer bbuf).Safe (server settings inputs).machine
      (.keeps (State.view c)) (LeavesAlone settings c) log st := by
  rw [serve_verified peer bbuf hid hp]
  intro st' hst
  have hget : st'.connectedClients.get c = none := (congrArg Prod.fst hst).trans hnone
  have hstep : ∀ o, ∃ e, step settings o (.verifySecretKey c key) st' = (.error e, st') := by
    intro o
    simp [step, State.verifySecretKey, hget]
  refine ⟨?_, fun o _ => ?_⟩
  · rintro a k heq o
    cases heq
    obtain ⟨e, he⟩ := hstep o
    rw [he]
  · obtain ⟨e, he⟩ := hstep o
    simp only [server, he]
    exact leavesAlone_of_sends ((only_turnAway peer e).mono fun _ => .inl) _ st'

/-- The section does not touch the levels. -/
def Action.OffLevels : Action → Prop
  | insertIntoLevel _ _ | removeFromLevel _ _ | storePlayerData _ _ _ => False
  | _ => True

omit [Bytebuffer] in
theorem entry_step_of_offLevels (o : Input) {a : Action} (ha : a.OffLevels) (st : State)
    (l c : Int32) : (step settings o a st).2.entry l c = st.entry l c := by
  cases a with
  | insertIntoLevel id level => exact ha.elim
  | removeFromLevel id level => exact ha.elim
  | storePlayerData id level data => exact ha.elim
  | addClient id address key =>
    exact State.entry_eq_of_levels (State.levels_addClient settings o.now id key address) l c
  | tickLevel level players =>
    exact State.entry_eq_of_levels (State.levels_tickLevel o.order level players) l c
  | retainLevels => exact State.entry_retainLevels l c
  | _ => rfl

omit [Bytebuffer] in
theorem Action.Sends.offLevels {a : Action} (h : a.Sends) : a.OffLevels := by
  cases a <;> first | exact h.elim | trivial

theorem offLevels_handleCheckIn (peer : SocketAddr) :
    (handleCheckIn settings c key peer bbuf).Only Action.OffLevels := by
  have hsends : ∀ {α : Type} {t : Task α}, t.Only Action.Sends → t.Only Action.OffLevels :=
    fun h => h.mono fun _ => Action.Sends.offLevels
  refine ⟨trivial, fun r => ?_⟩
  cases r with
  | error e => exact hsends (only_sendBufTo peer _)
  | ok _ =>
    refine (only_read _ bbuf).bind fun p => ?_
    dsimp only
    split
    · exact (hsends (only_sendBufTo peer _)).bind fun _ => ⟨trivial, fun _ => trivial⟩
    · refine ⟨trivial, fun found => ?_⟩
      cases found
      · trivial
      · exact hsends (only_sendTo c _)

/-- **A CheckIn**, in the table. -/
theorem becomes_checkIn (hhoused : st.Housed) {buf : List UInt8} {peer : SocketAddr}
    (hheader : header buf = some (.checkIn, c, key, bbuf)) (hid : c ≠ 0)
    {conf : Config Action Action.Answer Error State Request}
    (h : (server settings sendsSucceed).Handles st (.packet buf peer) conf) :
    ∃ now, Becomes ((st.table.checkIn settings now c key peer bbuf).get c)
      (conf.state.view c) := by
  have htask : (Request.packet buf peer).task settings =
      handleCheckIn settings c key peer bbuf := by
    rw [Request.task, handlePacket_of_header hheader, serve, if_neg hid, if_pos rfl]
  have hentries : (fun l => conf.state.entry l c) = fun l => st.entry l c := by
    refine h.keeps (p := Action.OffLevels) (f := fun st l => st.entry l c) ?_ ?_ ?_
    · exact fun a o st ha => funext fun l => entry_step_of_offLevels o ha st l c
    · change ((Request.packet buf peer).task settings).Only _
      rw [htask]
      exact offLevels_handleCheckIn peer
    · intro e κ hκ
      obtain ⟨rfl, -⟩ := spawned_eq hκ
      exact ⟨trivial, fun _ => trivial⟩
  have hsame : conf.state.connectedClients = st.connectedClients →
      Becomes (st.table.get c) (conf.state.view c) := by
    intro hclients
    have hview : conf.state.view c = st.view c := by
      rw [State.view, hclients, hentries]
      rfl
    rw [hview]
    exact hhoused.becomes_same c
  have haccepted : ∀ {cd : ClientData}, cd.levelId = -1 →
      ¬(st.connectedClients.contains c = true ∨ st.Full settings) →
      conf.state.connectedClients = st.connectedClients.insert c cd →
      Becomes (some ⟨cd, none⟩) (conf.state.view c) := by
    intro cd hoff hnew hclients
    have hnone : st.connectedClients.get c = none := by
      rw [← FiniteMap.contains_eq_false]
      simpa using fun hc => hnew (.inl hc)
    have hnowhere : ∀ l, st.entry l c = none := fun l => by
      have hv : st.view c = (none, fun l => st.entry l c) := view_eq hnone fun _ => rfl
      exact (hv ▸ hhoused c : HousedView _).entry_none l
    have hview : conf.state.view c = (some cd, fun l => st.entry l c) := by
      rw [State.view, hclients, hentries, FiniteMap.get_insert_self]
    rw [hview]
    exact ⟨housedView_nowhere _ hnowhere, by rw [Session.ofView_some, hnowhere]⟩
  have hfull : (st.table.contains c = true ∨ st.table.Full settings) ↔
      (st.connectedClients.contains c = true ∨ st.Full settings) := by
    rw [State.table, FiniteMap.contains_map, Table.Full, FiniteMap.size_map, State.Full]
  cases handle_checkIn hheader hid h with
  | refused href hclients =>
    refine ⟨0, ?_⟩
    rw [Table.checkIn, if_pos (hfull.mpr href)]
    exact hsame hclients
  | undecoded hnew hdata now hclients =>
    refine ⟨now, ?_⟩
    rw [Table.checkIn, if_neg (mt hfull.mp hnew), hdata, FiniteMap.get_insert_self]
    exact haccepted rfl hnew hclients
  | invalid hnew data rest hdata hvalid hclients =>
    refine ⟨0, ?_⟩
    rw [Table.checkIn, if_neg (mt hfull.mp hnew), hdata]
    simpa only [hvalid, Bool.false_eq_true, if_false] using hsame hclients
  | signedIn hnew data rest hdata hvalid now hclients _ =>
    refine ⟨now, ?_⟩
    rw [Table.checkIn, if_neg (mt hfull.mp hnew), hdata]
    simpa only [hvalid, if_true, FiniteMap.get_insert_self] using haccepted rfl hnew hclients

/-- The steps of a packet touch nobody but the client of the packet. -/
theorem Table.get_obey_of_ne (t : Table) (now : SystemTime) {x : Int32} (hx : x ≠ c) (s : Session)
    (bbuf : ByteReader) (ptype : ClientPacketKind) :
    (t.obey now c s bbuf ptype).get x = t.get x := by
  cases ptype with
  | keepalive => exact t.get_insert_of_ne _ hx
  | disconnect => exact t.get_erase_of_ne hx
  | userLevelEntry =>
    rw [Table.obey]
    split <;> exact t.get_insert_of_ne _ hx
  | userLevelExit => exact t.get_insert_of_ne _ hx
  | userLevelData =>
    rw [Table.obey]
    split
    · split
      · exact t.get_insert_of_ne _ hx
      · rfl
    · rfl
  | _ => rfl

theorem Table.get_checkIn_of_ne (t : Table) (now : SystemTime) {x : Int32} (hx : x ≠ c)
    (key : Int32) (peer : SocketAddr) (bbuf : ByteReader) :
    (t.checkIn settings now c key peer bbuf).get x = t.get x := by
  unfold Table.checkIn
  split
  · rfl
  · split
    · exact t.get_insert_of_ne _ hx
    · split
      · exact t.get_insert_of_ne _ hx
      · rfl

omit [Bytebuffer] in
/-- From the client of a packet to the whole table. -/
theorem housed_table_of_becomes (hhoused : st.Housed) {st' : State} {t : Table}
    (hother : ∀ x, x ≠ c → st'.view x = st.view x ∧ t.get x = st.table.get x)
    (hbecomes : Becomes (t.get c) (st'.view c)) : st'.Housed ∧ st'.table = t := by
  constructor
  · intro x
    by_cases hx : x = c
    · rw [hx]
      exact hbecomes.1
    · rw [(hother x hx).1]
      exact hhoused x
  · ext1 x
    by_cases hx : x = c
    · rw [hx]
      exact hbecomes.2
    · rw [(hother x hx).2, State.get_table, (hother x hx).1, State.get_table]

omit [Bytebuffer] in
theorem housed_table_of_views (hhoused : st.Housed) {st' : State}
    (hviews : ∀ x, st'.view x = st.view x) : st'.Housed ∧ st'.table = st.table := by
  refine ⟨fun x => ?_, FiniteMap.ext fun x => ?_⟩
  · rw [hviews]
    exact hhoused x
  · rw [State.get_table, hviews, State.get_table]

/-- **Every packet is a step of the table.** -/
theorem handles_packet (hreach : ReachableBy settings sendsSucceed Request.External st)
    (hhoused : st.Housed) {buf : List UInt8} {peer : SocketAddr}
    {conf : Config Action Action.Answer Error State Request}
    (h : (server settings sendsSucceed).Handles st (.packet buf peer) conf) :
    conf.state.Housed ∧ ∃ now, conf.state.table = st.table.packet settings now buf peer := by
  rcases header_cases buf with ⟨ptype, c, key, bbuf, hheader, -, hserve⟩ | ⟨hheader, honly⟩
  · have hother : ∀ x, x ≠ c → conf.state.view x = st.view x :=
      fun x hx => handle_view_of_ne hheader hx h
    have hsame : conf.state.view c = st.view c →
        conf.state.Housed ∧ conf.state.table = st.table := fun hc =>
      housed_table_of_views hhoused fun x => by
        by_cases hx : x = c
        · rw [hx, hc]
        · exact hother x hx
    simp only [Table.packet, hheader]
    by_cases hid : c = 0
    · have hc : conf.state.view c = st.view c := by
        refine handles_view (fun log => ?_) h
        rw [hserve, serve, if_pos hid]
        exact leavesAlone_sendBufTo _ _ log st
      simpa only [if_pos hid, exists_const] using hsame hc
    by_cases hp : ptype = .checkIn
    · subst hp
      obtain ⟨now, hbecomes⟩ := becomes_checkIn hhoused hheader hid h
      obtain ⟨hhoused', htable⟩ := housed_table_of_becomes hhoused (fun x hx =>
        ⟨hother x hx, st.table.get_checkIn_of_ne now hx key peer bbuf⟩) hbecomes
      refine ⟨hhoused', now, ?_⟩
      rw [if_neg hid, if_pos rfl, htable]
    simp only [if_neg hid, if_neg hp]
    cases hcd : st.connectedClients.get c with
    | none =>
      have hget : st.table.get c = none := by
        rw [State.table, FiniteMap.get_map, hcd, Option.map_none]
      have hc : conf.state.view c = st.view c := by
        refine handles_view (fun log => ?_) h
        rw [hserve]
        exact leavesAlone_of_unknown ptype hp hid peer hcd
      simpa only [hget, exists_const] using hsame hc
    | some cd =>
      have hget : st.table.get c = some ⟨cd, st.entry cd.levelId c⟩ := by
        rw [State.table, FiniteMap.get_map, hcd, Option.map_some]
      by_cases hkey : cd.secretKey = key
      · subst hkey
        obtain ⟨now, hbecomes⟩ := becomes_obeyed hreach hhoused hcd hheader hp h
        obtain ⟨hhoused', htable⟩ := housed_table_of_becomes hhoused (fun x hx =>
          ⟨hother x hx, st.table.get_obey_of_ne now hx _ bbuf ptype⟩) hbecomes
        refine ⟨hhoused', now, ?_⟩
        simpa only [hget, if_true] using htable
      · have hc : conf.state.view c = st.view c := by
          refine handles_view (fun log => ?_) h
          rw [hserve]
          exact leavesAlone_of_wrong_key (Ne.symm hkey) ptype peer bbuf log hcd
        simpa only [hget, if_neg hkey, exists_const] using hsame hc
  · have hviews : ∀ x, conf.state.view x = st.view x := fun x =>
      handles_view (fun log => leavesAlone_of_sends (honly settings peer) log st) h
    simpa only [Table.packet, hheader, exists_const] using housed_table_of_views hhoused hviews

end Packets

/-! ## Sweeps -/

section Sweeps

variable [Bytebuffer] {settings : ServerSettings} {inputs : Input → Prop} {st : State}
  {log : List (Event Action.Answer)}
  {Q : Task Unit → List (Event Action.Answer) → State → Prop}

/-- What is kept of a client after it was removed. -/
def removedView (v : Option ClientData × (Int32 → Option PlayerData)) :
    Option ClientData × (Int32 → Option PlayerData) :=
  match v.1 with
  | none => v
  | some cd => (none, offLevel cd v.2)

omit [Bytebuffer] in
@[simp] theorem removedView_removedView (v : Option ClientData × (Int32 → Option PlayerData)) :
    removedView (removedView v) = removedView v := by
  obtain ⟨record, entries⟩ := v
  cases record <;> rfl

omit [Bytebuffer] in
theorem becomes_removedView {c : Int32} (h : st.Housed) :
    Becomes none (removedView (st.view c)) := by
  have hc := h c
  rcases hv : st.view c with ⟨record, entries⟩
  rw [hv] at hc
  cases record with
  | none => exact ⟨hc, rfl⟩
  | some cd => exact ⟨housedView_nowhere none hc.offLevel_eq_none, rfl⟩

/-- One removal. -/
theorem safe_removeClient_bind {id : Int32} {f : Option ClientData → Task Unit}
    (h : ∀ r log' st', (∀ x, st'.view x =
        if x = id then removedView (st.view x) else st.view x) →
      (f r).Safe (server settings inputs).machine cleanup (AtEnd Q) log' st') :
    (removeClient id >>= f).Safe (server settings inputs).machine cleanup (AtEnd Q) log st := by
  rw [removeClient_bind]
  apply safe_act
  intro st₁ h₁ o _
  have hview : ∀ x, st₁.view x = st.view x := cleanup_view h₁
  simp only [step, State.takeClient]
  cases hcd : st₁.connectedClients.get id with
  | none =>
    refine h none _ _ fun x => ?_
    have herase : (st₁.takeClient id).2 = st₁ := by
      rw [State.takeClient, FiniteMap.erase_of_get_none hcd]
    change (st₁.takeClient id).2.view x = _
    rw [herase, hview]
    by_cases hx : x = id
    · subst hx
      have hrecord : (st.view x).1 = none := by
        rw [← hview]
        exact hcd
      rw [if_pos rfl, removedView, hrecord]
    · rw [if_neg hx]
  | some cd =>
    have hrecord : (st.view id).1 = some cd := by
      rw [← hview]
      exact hcd
    have hdone : ∀ {log' st'}, st'.connectedClients = st₁.connectedClients.erase id →
        (∀ l c', st'.entry l c' =
          if cd.levelId ≠ -1 ∧ l = cd.levelId ∧ c' = id then none else st₁.entry l c') →
        (f (some cd)).Safe (server settings inputs).machine cleanup (AtEnd Q) log' st' := by
      intro log' st' hclients hentry
      refine h (some cd) log' st' fun x => ?_
      by_cases hx : x = id
      · subst hx
        rw [if_pos rfl, removedView, hrecord]
        apply view_eq
        · rw [hclients, FiniteMap.get_erase, if_pos rfl]
        · intro l
          rw [entry_offLevel hentry l]
          exact congrArg (fun entries => offLevel cd entries l)
            (congrArg Prod.snd (hview x))
      · rw [if_neg hx, ← hview]
        apply view_eq
        · rw [hclients, FiniteMap.get_erase, if_neg hx]
        · intro l
          rw [hentry, if_neg fun hc => hx hc.2.2]
    dsimp only
    unfold leaveLevel
    split
    · next hoff =>
      apply safe_removeClientFromLevel_bind
      intro tail st₂ _ hclients hentry _
      refine hdone hclients fun l c' => ?_
      rw [hentry]
      simp only [hoff, ne_eq, not_false_eq_true, true_and]
      rfl
    · next hoff =>
      refine hdone rfl fun l c' => ?_
      rw [if_neg fun hc => hoff hc.1]
      rfl

/-- The removals of a sweep. -/
theorem safe_removeAll {ids : List Int32} (h : ∀ log' st', (∀ x, st'.view x =
      if x ∈ ids then removedView (st.view x) else st.view x) → Q (.ret ()) log' st') :
    (ids.forM fun id => do
      let _ ← removeClient id).Safe (server settings inputs).machine cleanup (AtEnd Q) log st := by
  induction ids generalizing log st with
  | nil =>
    refine safe_ended trivial fun st' hst => h log st' fun x => ?_
    rw [cleanup_view hst, if_neg List.not_mem_nil]
  | cons id ids ih =>
    rw [Proc.forM_cons, bind_assoc]
    refine safe_removeClient_bind fun _ log₁ st₁ h₁ => ih fun log₂ st₂ h₂ => h log₂ st₂ fun x => ?_
    rw [h₂, h₁]
    by_cases hx : x = id <;> by_cases hids : x ∈ ids <;> simp [hx, hids]

omit [Bytebuffer] in
theorem State.mem_deadClients (o : IterOrder Int32) (now : SystemTime) {id : Int32} :
    id ∈ st.deadClients settings o now ↔
      ∃ cd, st.connectedClients.get id = some cd ∧ Table.Dead settings now cd := by
  unfold State.deadClients
  rw [List.mem_filterMap]
  constructor
  · rintro ⟨⟨id', cd⟩, hmem, hsome⟩
    dsimp only at hsome
    split at hsome
    · next hdead =>
      cases hsome
      exact ⟨cd, FiniteMap.mem_entries.mp hmem, hdead⟩
    · cases hsome
  · rintro ⟨cd, hcd, hdead⟩
    exact ⟨(id, cd), FiniteMap.mem_entries.mpr hcd, if_pos hdead⟩

/-- **A sweep is a step of the table.** -/
theorem handles_sweep (hhoused : st.Housed)
    {conf : Config Action Action.Answer Error State Request}
    (h : (server settings inputs).Handles st .sweep conf) :
    conf.state.Housed ∧ ∃ now, conf.state.table = st.table.sweep settings now := by
  have hsafe : (Request.sweep.task settings).Safe (server settings inputs).machine cleanup
      (AtEnd fun _ _ st' => ∃ now, ∀ x, st'.view x =
        if ∃ cd, st.connectedClients.get x = some cd ∧ Table.Dead settings now cd
        then removedView (st.view x) else st.view x) [] st := by
    apply safe_act
    intro st₁ h₁ o₁ _
    apply safe_act
    intro st₂ h₂ o₂ _
    apply safe_removeAll
    intro log' st' hviews
    refine ⟨o₁.now, fun x => ?_⟩
    have hview : st₂.view x = st.view x := (cleanup_view h₂ x).trans (cleanup_view h₁ x)
    have hclients : st₂.connectedClients = st.connectedClients := h₂.1.trans h₁.1
    have hmem : x ∈ st₂.deadClients settings o₂.order o₁.now ↔ _ :=
      State.mem_deadClients o₂.order o₁.now
    rw [hclients] at hmem
    rw [hviews]
    change (if x ∈ st₂.deadClients settings o₂.order o₁.now then removedView (st₂.view x)
      else st₂.view x) = _
    rw [hview]
    exact if_congr hmem rfl rfl
  obtain ⟨_, _, _, _, _, ⟨now, hviews⟩, _⟩ := handles_safe h hsafe
  have hbecomes : ∀ x, Becomes ((st.table.sweep settings now).get x) (conf.state.view x) := by
    intro x
    rw [hviews, Table.sweep, FiniteMap.get_retain, State.get_table]
    cases hcd : st.connectedClients.get x with
    | none =>
      have hv : st.view x = (none, fun l => st.entry l x) := view_eq hcd fun _ => rfl
      have hc := hhoused x
      rw [hv] at hc ⊢
      have hnot : ¬∃ cd, none = some cd ∧ Table.Dead settings now cd := by
        rintro ⟨_, heq, -⟩
        cases heq
      rw [if_neg hnot]
      exact ⟨hc, rfl⟩
    | some cd =>
      have hv : st.view x = (some cd, fun l => st.entry l x) := view_eq hcd fun _ => rfl
      by_cases hdead : Table.Dead settings now cd
      · rw [if_pos ⟨cd, rfl, hdead⟩, hv, Session.ofView_some, ← hv]
        simpa [Option.filter, hdead, hv] using becomes_removedView (c := x) hhoused
      · have hnot : ¬∃ cd', some cd = some cd' ∧ Table.Dead settings now cd' := by
          rintro ⟨_, heq, hd⟩
          cases heq
          exact hdead hd
        have hc := hhoused x
        rw [if_neg hnot]
        rw [hv] at hc ⊢
        refine ⟨hc, ?_⟩
        simp [Option.filter, hdead]
  exact ⟨fun x => (hbecomes x).1, now, FiniteMap.ext fun x => (hbecomes x).2⟩

end Sweeps

/-! ## Ticks -/

section Ticks

variable [Bytebuffer] {settings : ServerSettings} {inputs : Input → Prop} {st : State}
  {log : List (Event Action.Answer)}
  {Q : Task Unit → List (Event Action.Answer) → State → Prop}

/-- What is kept of a client that is on no level any more. -/
def resetView (v : Option ClientData × (Int32 → Option PlayerData)) :
    Option ClientData × (Int32 → Option PlayerData) :=
  (v.1.map ({ · with levelId := -1 }), v.2)

omit [Bytebuffer] in
@[simp] theorem resetView_resetView (v : Option ClientData × (Int32 → Option PlayerData)) :
    resetView (resetView v) = resetView v := by
  obtain ⟨record, entries⟩ := v
  cases record <;> rfl

omit [Bytebuffer] in
theorem view_tickLevel (o : IterOrder Int32) (level : Int32) (players : List Int32) (c : Int32) :
    (st.tickLevel o level players).2.view c =
      if st.levels.get level = none ∧ c ∈ players then resetView (st.view c) else st.view c := by
  have hentries : (fun l => (st.tickLevel o level players).2.entry l c) = fun l => st.entry l c :=
    funext fun l => State.entry_eq_of_levels (State.levels_tickLevel o level players) l c
  rw [State.view, State.get_tickLevel, hentries]
  split <;> rfl

omit [Bytebuffer] in
theorem noEmptyLevel_of_levels {st' : State} (h : st.NoEmptyLevel) (hl : st'.levels = st.levels) :
    st'.NoEmptyLevel := by
  unfold State.NoEmptyLevel
  rw [hl]
  exact h

/-- The sends of a tick change nothing. -/
theorem safe_sendEach_bind (hne : st.NoEmptyLevel) (players : List (Int32 × PlayerData))
    (buf : ByteBuffer) {f : Unit → Task Unit}
    (h : ∀ log', (f ()).Safe (server settings inputs).machine cleanup (AtEnd Q) log' st) :
    ((players.forM fun (playerId, _) => do
      let _ ← ((sendTo playerId buf).attempt : Task (Except Error Unit))) >>= f).Safe
      (server settings inputs).machine cleanup (AtEnd Q) log st := by
  induction players generalizing log with
  | nil => exact h log
  | cons player players ih =>
    rw [Proc.forM_cons, bind_assoc]
    have hone := attempt_sendTo player.1 buf
    change (((sendTo player.1 buf).attempt >>= fun (_ : Except Error Unit) =>
      (.ret () : Task Unit)) >>= _).Safe _ _ _ _ _
    rw [hone, Proc.act_bind]
    apply safe_act
    intro st₁ h₁ o _
    obtain rfl := h₁.2.2 hne
    simp only [step]
    cases st₁.connectedClients.get player.1 with
    | none => exact ih
    | some cd =>
      apply safe_act
      intro st₂ h₂ o₂ _
      obtain rfl := h₂.2.2 hne
      exact ih

/-- One level of a tick. -/
theorem safe_tickGroup_bind (hne : st.NoEmptyLevel) {group : Int32 × List Int32}
    {f : Unit → Task Unit}
    (h : ∀ log' st', st'.levels = st.levels → (∀ x, st'.view x =
        if st.levels.get group.1 = none ∧ x ∈ group.2 then resetView (st.view x)
        else st.view x) →
      (f ()).Safe (server settings inputs).machine cleanup (AtEnd Q) log' st') :
    (tickGroup group >>= f).Safe (server settings inputs).machine cleanup (AtEnd Q) log st := by
  apply safe_act
  intro st₁ h₁ o _
  obtain rfl := h₁.2.2 hne
  have hlevels := st₁.levels_tickLevel o.order group.1 group.2
  have hdone : ∀ log', (f ()).Safe (server settings inputs).machine cleanup (AtEnd Q) log'
      (st₁.tickLevel o.order group.1 group.2).2 := fun log' =>
    h log' _ hlevels fun x => view_tickLevel o.order group.1 group.2 x
  simp only [step]
  cases (st₁.tickLevel o.order group.1 group.2).1 with
  | none => exact hdone _
  | some level => exact safe_sendEach_bind (noEmptyLevel_of_levels hne hlevels) level _ hdone

theorem safe_tickGroups (hne : st.NoEmptyLevel) {groups : List (Int32 × List Int32)}
    (h : ∀ log' st', (∀ x, st'.view x =
        if ∃ group ∈ groups, st.levels.get group.1 = none ∧ x ∈ group.2 then resetView (st.view x)
        else st.view x) → Q (.ret ()) log' st') :
    (groups.forM tickGroup).Safe (server settings inputs).machine cleanup (AtEnd Q) log st := by
  induction groups generalizing log st with
  | nil =>
    refine safe_ended trivial fun st' hst => h log st' fun x => ?_
    rw [cleanup_view hst]
    simp
  | cons group groups ih =>
    rw [Proc.forM_cons]
    apply safe_tickGroup_bind hne
    intro log₁ st₁ hlevels h₁
    apply ih (noEmptyLevel_of_levels hne hlevels)
    intro log₂ st₂ h₂
    refine h log₂ st₂ fun x => ?_
    rw [h₂, h₁, hlevels]
    simp only [List.mem_cons, exists_eq_or_imp]
    by_cases hfirst : st.levels.get group.1 = none ∧ x ∈ group.2
    · simp [hfirst]
    · simp only [hfirst, false_or, if_false]

omit [Bytebuffer] in
/-- The first loop of a tick, from the groups `m` on. -/
theorem mem_get_groups (l x : Int32) (es : List (Int32 × ClientData))
    (m : FiniteMap Int32 (List Int32)) :
    (x ∈ ((es.foldl (fun m e =>
        if e.2.levelId ≠ -1 then m.insert e.2.levelId ((m.get e.2.levelId).getD [] ++ [e.1])
        else m) m).get l).getD []) ↔
      x ∈ (m.get l).getD [] ∨ l ≠ -1 ∧ ∃ cd, (x, cd) ∈ es ∧ cd.levelId = l := by
  induction es generalizing m with
  | nil => simp
  | cons e es ih =>
    obtain ⟨id, cd⟩ := e
    rw [List.foldl_cons, ih]
    by_cases hl : cd.levelId = l
    · subst hl
      by_cases hone : cd.levelId = -1
      · simp [hone]
      · simp only [hone, ne_eq, not_false_eq_true, if_true, FiniteMap.get_insert_self,
          Option.getD_some, List.mem_append, List.mem_cons, List.not_mem_nil, or_false,
          Prod.mk.injEq, true_and]
        constructor
        · rintro ((hx | rfl) | ⟨cd', hmem, heq⟩)
          · exact .inl hx
          · exact .inr ⟨cd, .inl ⟨rfl, rfl⟩, rfl⟩
          · exact .inr ⟨cd', .inr hmem, heq⟩
        · rintro (hx | ⟨cd', ⟨rfl, -⟩ | hmem, heq⟩)
          · exact .inl (.inl hx)
          · exact .inl (.inr rfl)
          · exact .inr ⟨cd', hmem, heq⟩
    · have hget : ((if cd.levelId ≠ -1 then
          m.insert cd.levelId ((m.get cd.levelId).getD [] ++ [id]) else m).get l) = m.get l := by
        split
        · exact m.get_insert_of_ne _ (Ne.symm hl)
        · rfl
      rw [hget]
      refine or_congr_right (and_congr_right fun _ => exists_congr fun cd' => ?_)
      rw [List.mem_cons, Prod.mk.injEq]
      constructor
      · rintro ⟨hmem, heq⟩
        exact ⟨.inr hmem, heq⟩
      · rintro ⟨⟨-, rfl⟩ | hmem, heq⟩
        · exact absurd heq hl
        · exact ⟨hmem, heq⟩

omit [Bytebuffer] in
/-- A client is in a group of a level that is gone exactly if its record names such a level. -/
theorem exists_mem_groups (o o' : IterOrder Int32) (x : Int32) :
    (∃ group ∈ (st.levelToPlayers o).entries o', st.levels.get group.1 = none ∧ x ∈ group.2) ↔
      ∃ cd, st.connectedClients.get x = some cd ∧ cd.levelId ≠ -1 ∧
        st.levels.get cd.levelId = none := by
  have hgroups := fun l => mem_get_groups l x (st.connectedClients.entries o) .empty
  constructor
  · rintro ⟨⟨l, players⟩, hmem, hnone, hx⟩
    have hget : (st.levelToPlayers o).get l = some players := FiniteMap.mem_entries.mp hmem
    have hin : x ∈ ((st.levelToPlayers o).get l).getD [] := by
      rw [hget]
      exact hx
    rcases (hgroups l).mp hin with hx' | ⟨hl, cd, hcd, rfl⟩
    · simp at hx'
    · exact ⟨cd, FiniteMap.mem_entries.mp hcd, hl, hnone⟩
  · rintro ⟨cd, hcd, hl, hnone⟩
    have hin := (hgroups cd.levelId).mpr (.inr ⟨hl, cd, FiniteMap.mem_entries.mpr hcd, rfl⟩)
    change x ∈ ((st.levelToPlayers o).get cd.levelId).getD [] at hin
    cases hget : (st.levelToPlayers o).get cd.levelId with
    | none =>
      rw [hget] at hin
      cases hin
    | some players =>
      rw [hget] at hin
      exact ⟨(cd.levelId, players), FiniteMap.mem_entries.mpr hget, hnone, hin⟩

/-- **A tick is a step of the table.** -/
theorem handles_tick (hne : st.NoEmptyLevel) (hhoused : st.Housed)
    {conf : Config Action Action.Answer Error State Request}
    (h : (server settings inputs).Handles st .tick conf) :
    conf.state.Housed ∧ conf.state.table = st.table.tick := by
  have hsafe : (Request.tick.task settings).Safe (server settings inputs).machine cleanup
      (AtEnd fun _ _ st' => ∀ x, st'.view x =
        if ∃ cd, st.connectedClients.get x = some cd ∧ cd.levelId ≠ -1 ∧
          st.levels.get cd.levelId = none
        then resetView (st.view x) else st.view x) [] st := by
    change tick.Safe _ _ _ _ _
    rw [tick_eq]
    apply safe_act
    intro st₁ h₁ o _
    obtain rfl := h₁.2.2 hne
    apply safe_tickGroups hne
    intro log' st' hviews x
    rw [hviews]
    exact if_congr (exists_mem_groups o.order o.levelOrder x) rfl rfl
  obtain ⟨_, _, _, _, _, hviews, _⟩ := handles_safe h hsafe
  have hbecomes : ∀ x, Becomes (st.table.tick.get x) (conf.state.view x) := by
    intro x
    rw [hviews, Table.tick, FiniteMap.get_map, State.get_table]
    have hc := hhoused x
    cases hcd : st.connectedClients.get x with
    | none =>
      have hv : st.view x = (none, fun l => st.entry l x) := view_eq hcd fun _ => rfl
      rw [if_neg (by simp), hv]
      rw [hv] at hc
      exact ⟨hc, rfl⟩
    | some cd =>
      have hv : st.view x = (some cd, fun l => st.entry l x) := view_eq hcd fun _ => rfl
      rw [hv] at hc ⊢
      have hgone : st.levels.get cd.levelId = none ↔ ¬st.table.Occupied cd.levelId := by
        rw [hhoused.occupied_iff hne, FiniteMap.contains, Option.isSome_iff_ne_none, not_not]
      by_cases hlost : cd.levelId ≠ -1 ∧ ¬st.table.Occupied cd.levelId
      · have hnowhere : ∀ l, st.entry l x = none := by
          intro l
          by_cases hl : l = cd.levelId
          · rw [hl, State.entry, hgone.mpr hlost.2, Option.bind_none]
          · exact hc.entry_eq_none hl
        rw [if_pos ⟨cd, rfl, hlost.1, hgone.mpr hlost.2⟩]
        refine ⟨housedView_nowhere _ hnowhere, ?_⟩
        simp only [resetView, Option.map_some, Session.ofView_some, if_pos hlost, hnowhere]
      · rw [if_neg]
        · refine ⟨hc, ?_⟩
          simp only [Session.ofView_some, Option.map_some, if_neg hlost]
        · rintro ⟨_, heq, hoff, hnone⟩
          cases heq
          exact hlost ⟨hoff, hgone.mp hnone⟩
  exact ⟨fun x => (hbecomes x).1, FiniteMap.ext fun x => (hbecomes x).2⟩

end Ticks

/-! ## Runs -/

section Runs

variable [Bytebuffer] {settings : ServerSettings} {st : State}

/-- One request, from a state in which clients are housed. -/
theorem handles_table (hreach : ReachableBy settings sendsSucceed Request.External st)
    (hhoused : st.Housed) {k : Request} (hk : k.External)
    {conf : Config Action Action.Answer Error State Request}
    (h : (server settings sendsSucceed).Handles st k conf) :
    conf.state.Housed ∧ ∃ now, conf.state.table = st.table.serve settings now k := by
  cases k with
  | packet buf peer => exact handles_packet hreach hhoused h
  | sweep => exact handles_sweep hhoused h
  | tick =>
    obtain ⟨hhoused', htable⟩ := handles_tick hreach.noEmptyLevel hhoused h
    exact ⟨hhoused', 0, htable⟩
  | removeEmptyLevels => exact hk.elim

/-- Requests that are handled in turn run the table. -/
theorem inTurn_table {ks : List Request} (h : (server settings sendsSucceed).InTurn .new ks st)
    (hks : ∀ k ∈ ks, k.External) :
    ReachableBy settings sendsSucceed Request.External st ∧ st.Housed ∧
      ∃ times : List SystemTime, times.length = ks.length ∧
        st.table = Table.run .empty settings (ks.zip times) := by
  induction h with
  | nil =>
    refine ⟨.new, fun c => housedView_nowhere none fun _ => rfl, [], rfl, ?_⟩
    exact State.table_new
  | @snoc ks st k conf _ hconf ih =>
    obtain ⟨hreach, hhoused, times, hlen, htable⟩ :=
      ih fun κ hκ => hks κ (List.mem_append_left _ hκ)
    have hk : k.External := hks k (List.mem_append_right _ List.mem_cons_self)
    obtain ⟨hhoused', now, htable'⟩ := handles_table hreach hhoused hk hconf
    refine ⟨hreach.handle hk hconf, hhoused', times ++ [now], by simp [hlen], ?_⟩
    rw [List.zip_append hlen.symm, Table.run_append, ← htable, htable']
    rfl

theorem ReachableBy.housed (h : ReachableBy settings sendsSucceed Request.External st) :
    st.Housed := by
  obtain ⟨jobs, hreach, hq⟩ := h
  obtain ⟨ks, hturn, hks⟩ := hreach.exists_inTurn hq
  exact (inTurn_table hturn hks).2.1

/-- **The server refines its table**: while sends succeed and requests of any kind and any bytes are
handled one after another, the two maps are the table that the same requests lead to, each of them
with a reading of the clock. -/
theorem server_refines_table {ks : List Request}
    (h : (server settings sendsSucceed).InTurn .new ks st) (hks : ∀ k ∈ ks, k.External) :
    ∃ times : List SystemTime, times.length = ks.length ∧
      st.table = Table.run .empty settings (ks.zip times) :=
  (inTurn_table h hks).2.2

/-- **The levels say nothing that the table does not**: while sends succeed and requests of any kind
and any bytes are handled one after another, the two maps are those that the table stands for. -/
theorem state_of_table (h : ReachableBy settings sendsSucceed Request.External st) :
    st.table.state = st :=
  h.housed.state_table h.noEmptyLevel

/-- Any requests can be handled in turn. -/
theorem exists_inTurn (settings : ServerSettings) (ks : List Request) :
    ∃ st, (server settings sendsSucceed).InTurn .new ks st := by
  induction ks using List.reverseRecOn with
  | nil => exact ⟨.new, .nil⟩
  | append_singleton ks k ih =>
    obtain ⟨st, h⟩ := ih
    obtain ⟨conf, hconf⟩ := server_handles exists_sendsSucceed settings st k
    exact ⟨conf.state, .snoc h hconf⟩

omit [Bytebuffer] in
/-- Client 7 checks in and sends a UserLevelEntry for level 5. -/
theorem server_refines_table_level_5 :
    letI := Bytebuffer.reference
    let settings : ServerSettings := ⟨30, 0, false, 60⟩
    let ks : List Request := [.packet checkIn7 peer7, .packet (entry7 5) peer7]
    ∃ st, (server settings sendsSucceed).InTurn .new ks st ∧
      (st.table.get 7).map (fun s => (s.client.levelId, s.seen)) = some (5, some .empty) := by
  let := Bytebuffer.reference
  intro settings ks
  obtain ⟨st, hturn⟩ := exists_inTurn settings ks
  have hks : ∀ k ∈ ks, k.External := by
    simp [ks, Request.External]
  obtain ⟨times, hlen, htable⟩ := server_refines_table hturn hks
  refine ⟨st, hturn, ?_⟩
  obtain ⟨hheader, hdata, hvalid⟩ := decode_checkIn7
  match times, hlen with
  | [now, now'], _ =>
    have hfull : ¬((FiniteMap.empty : Table).contains 7 = true ∨
        Table.Full .empty settings) := by
      rintro (h | h)
      · cases h
      · exact h.1 rfl
    have hcheckIn : Table.packet .empty settings now checkIn7 peer7 =
        FiniteMap.insert .empty 7 ⟨.checkedIn peer7 42 now data7, none⟩ := by
      simp only [Table.packet, hheader, Table.checkIn, if_neg hfull, hdata, hvalid, if_true]
      rfl
    rw [htable]
    change ((Table.packet (Table.packet .empty settings now checkIn7 peer7) settings now'
      (entry7 5) peer7).get 7).map _ = _
    rw [hcheckIn, Table.packet, decode_entry7]
    rfl

omit [Bytebuffer] in
/-- Client 7 is on level 5. -/
theorem state_of_table_level_5 :
    letI := Bytebuffer.reference
    ∃ st, ReachableBy ⟨30, 0, false, 60⟩ sendsSucceed Request.External st ∧
      st.entry 5 7 = some .empty ∧ st.table.state = st := by
  let := Bytebuffer.reference
  obtain ⟨st, -, hreach, -, -, -, hentry⟩ := @exists_client_7_on_level_5 sendsSucceed
    Request.External (fun _ h => h) trivial trivial
  exact ⟨st, hreach, hentry, state_of_table hreach⟩

end Runs

end Globed.Server
