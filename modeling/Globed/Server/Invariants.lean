import Globed.Server.Alone

/-!
# Invariants of every run

Two facts that hold whatever the tasks are and however they interleave. No client has the id 0. And
no level is empty once all tasks have ended: whenever a task takes a client off a level, it goes on
by spawning the cleanup of empty levels.
-/

namespace Globed.Server

open Concurrent Bytebuffer

/-- Wherever the task takes a client off a level that exists, it goes on by spawning a cleanup. -/
def Tidy {α : Type} : Task α → Prop
  | .act (.removeFromLevel _ _) k =>
    (∃ k', k true = .act .spawnRemoveEmptyLevels k') ∧ ∀ r, Tidy (k r)
  | .act _ k => ∀ r, Tidy (k r)
  | _ => True

theorem Tidy.next {α : Type} {a : Action} {k : a.Answer → Task α} (h : Tidy (.act a k))
    (r : a.Answer) : Tidy (k r) := by
  cases a <;> first | exact h r | exact h.2 r

theorem tidy_of_staysFor {α : Type} {c : Int32} {t : Task α} (h : t.Only (Action.StaysFor c)) :
    Tidy t := by
  induction t with
  | act a k ih =>
    cases a with
    | removeFromLevel _ _ => exact h.1.elim
    | _ => exact fun r => ih r (h.2 r)
  | _ => trivial

theorem Tidy.bind {α β : Type} {t : Task α} {f : α → Task β} (ht : Tidy t)
    (hf : ∀ x, Tidy (f x)) : Tidy (t >>= f) := by
  induction t with
  | ret x => exact hf x
  | err e => trivial
  | panic => trivial
  | act a k ih =>
    cases a with
    | removeFromLevel c l =>
      obtain ⟨k', hk'⟩ := ht.1
      refine ⟨⟨fun r => k' r >>= f, ?_⟩, fun r => ih r (ht.2 r)⟩
      change k true >>= f = _
      rw [hk']
      rfl
    | _ => exact fun r => ih r (ht r)

theorem tidy_forM {γ : Type} {f : γ → Task PUnit} (hf : ∀ x, Tidy (f x)) :
    ∀ xs : List γ, Tidy (xs.forM f)
  | [] => trivial
  | x :: xs => (hf x).bind fun _ => tidy_forM hf xs

/-! ## All tasks are tidy -/

section Tasks

variable {clientId : Int32}

theorem tidy_removeClientFromLevel (levelId : Int32) :
    Tidy (removeClientFromLevel clientId levelId) :=
  ⟨⟨_, rfl⟩, fun found => by cases found <;> first | trivial | exact fun _ => trivial⟩

theorem tidy_leaveLevel (levelId : Int32) : Tidy (leaveLevel clientId levelId) := by
  unfold leaveLevel
  split
  · exact tidy_removeClientFromLevel levelId
  · trivial

theorem tidy_removeClient : Tidy (removeClient clientId) := by
  intro client
  cases client with
  | none => trivial
  | some client => exact (tidy_leaveLevel client.levelId).bind fun _ => trivial

theorem tidy_removeDeadClients : Tidy removeDeadClients := by
  intro _ toRemove
  refine tidy_forM (fun id => ?_) toRemove
  exact tidy_removeClient.bind fun _ => trivial

theorem tidy_of_sends {α : Type} {t : Task α} (h : t.Only Action.Sends) : Tidy t :=
  tidy_of_staysFor (c := 0) (h.mono fun _ => Action.Sends.staysFor)

variable [Bytebuffer]

theorem tidy_read {α : Type} (d : Decoder ByteReader α) (r : ByteReader) : Tidy (read d r) :=
  tidy_of_sends (only_read d r)

theorem tidy_onUserlevelentry (bbuf : ByteReader) : Tidy (onUserlevelentry clientId bbuf) := by
  intro found
  cases found with
  | none => trivial
  | some found =>
    refine (tidy_leaveLevel found.2).bind fun _ => (tidy_read _ bbuf).bind fun p => ?_
    refine (tidy_of_sends (only_broadcastMessage _ _ _)).bind fun _ => ?_
    exact tidy_of_staysFor (staysFor_addClientToLevel _)

theorem tidy_onUserlevelexit : Tidy (onUserlevelexit clientId) := by
  intro found
  cases found with
  | none => trivial
  | some found =>
    refine (tidy_of_sends (only_broadcastMessage _ _ _)).bind fun _ => ?_
    exact tidy_removeClientFromLevel _

theorem tidy_dispatch (settings : ServerSettings) (ptype : ClientPacketKind) (bbuf : ByteReader) :
    Tidy (dispatch settings ptype clientId bbuf) := by
  cases ptype with
  | disconnect => exact tidy_removeClient.bind fun _ => trivial
  | userLevelEntry => exact tidy_onUserlevelentry bbuf
  | userLevelExit => exact tidy_onUserlevelexit
  | _ => exact tidy_of_staysFor (staysFor_dispatch settings id bbuf)

theorem tidy_serve (settings : ServerSettings) (ptype : ClientPacketKind) (key : Int32)
    (peer : SocketAddr) (bbuf : ByteReader) :
    Tidy (serve settings ptype clientId key peer bbuf) := by
  by_cases hid : clientId = 0
  · rw [serve, if_pos hid]
    exact tidy_of_sends (only_sendBufTo _ _)
  by_cases hp : ptype = .checkIn
  · rw [serve, if_neg hid, if_pos hp]
    exact tidy_of_staysFor (staysFor_handleCheckIn settings key peer bbuf)
  · rw [serve_verified peer bbuf hid hp]
    intro verified
    cases verified with
    | ok _ => exact tidy_dispatch settings ptype bbuf
    | error err => exact tidy_of_sends (only_turnAway peer err)

theorem tidy_handlePacket (settings : ServerSettings) (buf : List UInt8) (peer : SocketAddr) :
    Tidy (handlePacket settings buf peer) := by
  rcases header_cases buf with ⟨ptype, id, key, bbuf, -, -, hs⟩ | ⟨-, hs⟩
  · rw [hs]
    exact tidy_serve settings ptype key peer bbuf
  · refine tidy_of_staysFor (c := 0) ((hs settings peer).mono fun a ha => ?_)
    rcases ha with ha | rfl
    · exact ha.staysFor
    · exact fun _ hc => nomatch hc

theorem tidy_tick : Tidy tick := by
  intro levelToPlayers
  refine tidy_forM (fun group => ?_) levelToPlayers
  intro level
  cases level with
  | none => trivial
  | some level =>
    refine tidy_forM (fun player => ?_) level
    exact (tidy_of_sends (only_sendTo _ _).attempt).bind fun _ => trivial

theorem tidy_task (settings : ServerSettings) (k : Request) : Tidy (k.task settings) := by
  cases k with
  | packet buf peer => exact tidy_handlePacket settings buf peer
  | sweep => exact tidy_removeDeadClients
  | tick => exact tidy_tick
  | removeEmptyLevels => exact fun _ => trivial

end Tasks

/-! ## Empty levels -/

theorem noEmptyLevel_insert {st : State} (h : st.NoEmptyLevel) {levelId : Int32} {level : LevelData}
    (hl : FiniteMap.isEmpty level = false) :
    (⟨st.levels.insert levelId level, st.connectedClients⟩ : State).NoEmptyLevel := by
  intro l level' hl'
  rw [FiniteMap.get_insert] at hl'
  split at hl'
  · cases hl'
    exact hl
  · exact h l level' hl'

theorem isEmpty_insert (level : LevelData) (c : Int32) (data : PlayerData) :
    FiniteMap.isEmpty (level.insert c data) = false :=
  FiniteMap.isEmpty_eq_false_of_get (level.get_insert_self c data)

/-- Only a section that takes a client off a level can leave a level empty. -/
theorem noEmptyLevel_step (settings : ServerSettings) (o : Input) {a : Action}
    (ha : ∀ c l, a ≠ .removeFromLevel c l) {st : State} (h : st.NoEmptyLevel) :
    (step settings o a st).2.NoEmptyLevel := by
  have hlevels : ∀ {st' : State}, st'.levels = st.levels → st'.NoEmptyLevel := by
    intro st' heq l level hl
    exact h l level (heq ▸ hl)
  cases a with
  | addClient id address key => exact hlevels (State.levels_addClient settings o.now id key address)
  | insertIntoLevel id level =>
    change (st.insertIntoLevel id level).2.NoEmptyLevel
    rw [State.insertIntoLevel_eq]
    exact noEmptyLevel_insert h (isEmpty_insert _ id .empty)
  | removeFromLevel id level => exact absurd rfl (ha id level)
  | storePlayerData id level data =>
    change (st.storePlayerData id level data).2.NoEmptyLevel
    unfold State.storePlayerData
    split
    · exact noEmptyLevel_insert h (isEmpty_insert _ id data)
    · exact h
  | retainLevels =>
    change st.retainLevels.NoEmptyLevel
    rwa [State.retainLevels_of_noEmptyLevel h]
  | tickLevel level players => exact hlevels (State.levels_tickLevel o.order level players)
  | _ => exact hlevels rfl

theorem noEmptyLevel_retainLevels (st : State) : st.retainLevels.NoEmptyLevel := by
  intro l level hl
  have hfilter : (st.levels.get l).filter (fun level => !level.isEmpty) = some level := hl
  rw [Option.filter_eq_some_iff] at hfilter
  simpa using hfilter.2

theorem State.removeFromLevel_false {st : State} {c l : Int32}
    (h : (st.removeFromLevel c l).1 = false) : (st.removeFromLevel c l).2 = st := by
  unfold State.removeFromLevel at h ⊢
  split
  · simp_all
  · rfl

/-- The job will clean up. -/
def CleansUp (j : Job Action Action.Answer Error Request) : Prop :=
  (∃ k, j.task = .act .spawnRemoveEmptyLevels k) ∨ ∃ k, j.task = .act .retainLevels k

theorem not_ended_of_cleansUp {j : Job Action Action.Answer Error Request} (h : CleansUp j) :
    ¬j.task.Ended := by
  rcases h with ⟨k, hk⟩ | ⟨k, hk⟩ <;> (rw [hk]; exact id)

/-- All tasks are tidy, and a level is empty only while a job is about to clean up. -/
structure CleanConfig (conf : Config Action Action.Answer Error State Request) : Prop where
  tidy : ∀ j ∈ conf.jobs, Tidy j.task
  clean : conf.state.NoEmptyLevel ∨ ∃ j ∈ conf.jobs, CleansUp j

section Runs

variable [Bytebuffer] {settings : ServerSettings} {inputs : Input → Prop}
  {sched : Schedule Action Action.Answer Error State Request}

theorem CleanConfig.step {conf conf' : Config Action Action.Answer Error State Request}
    (h : CleanConfig conf) (hs : (server settings inputs).Step sched conf conf') :
    CleanConfig conf' := by
  obtain ⟨htidy, hclean⟩ := h
  cases hs with
  | @start st js k _ =>
    refine ⟨fun j hj => ?_, hclean.imp_right ?_⟩
    · rcases System.mem_started.mp hj with hj | rfl
      · exact htidy j hj
      · exact tidy_task settings k
    · rintro ⟨j, hj, hjc⟩
      exact ⟨j, List.mem_append_left _ hj, hjc⟩
  | @act st pre j post a k o hj ho _ =>
    have hjt : Tidy (.act a k) := hj ▸ htidy j (System.mem_before.mpr (.inr rfl))
    refine ⟨fun j' hj' => ?_, ?_⟩
    · rcases System.mem_jobsAfter.mp hj' with hj' | rfl | ⟨κ, -, rfl⟩
      · exact htidy j' (System.mem_before.mpr (.inl hj'))
      · exact hjt.next _
      · exact tidy_task settings κ
    · by_cases hspawn : a = .spawnRemoveEmptyLevels
      · -- the spawned job will clean up
        subst hspawn
        right
        refine ⟨(server settings inputs).start .removeEmptyLevels, ?_, .inr ⟨_, rfl⟩⟩
        exact List.mem_append_right _ List.mem_cons_self
      by_cases hretain : a = .retainLevels
      · subst hretain
        exact .inl (noEmptyLevel_retainLevels st)
      -- any other section of a job leaves a job that will clean up where it is
      have hother : (∃ j' ∈ pre ++ j :: post, CleansUp j') →
          ∃ j' ∈ (server settings inputs).jobsAfter o st pre j post a k, CleansUp j' := by
        rintro ⟨j', hj', hc⟩
        have hne : j' ≠ j := by
          rintro rfl
          rcases hc with ⟨k', hk'⟩ | ⟨k', hk'⟩
          · rw [hj] at hk'
            cases hk'
            exact hspawn rfl
          · rw [hj] at hk'
            cases hk'
            exact hretain rfl
        refine ⟨j', ?_, hc⟩
        have hj'' := (System.mem_before.mp hj').resolve_right hne
        exact System.mem_jobsAfter.mpr (.inl hj'')
      by_cases hremove : ∃ c l, a = .removeFromLevel c l
      · obtain ⟨c, l, rfl⟩ := hremove
        cases hfound : (st.removeFromLevel c l).1 with
        | true =>
          -- the job itself goes on by spawning a cleanup
          obtain ⟨k', hk'⟩ := hjt.1
          right
          refine ⟨_, List.mem_append_left _ (List.mem_append_right _ List.mem_cons_self),
            .inl ⟨k', ?_⟩⟩
          change k (st.removeFromLevel c l).1 = _
          rw [hfound, hk']
        | false =>
          refine hclean.imp (fun hne => ?_) hother
          change (st.removeFromLevel c l).2.NoEmptyLevel
          rwa [State.removeFromLevel_false hfound]
      · exact hclean.imp (noEmptyLevel_step settings o fun c l h => hremove ⟨c, l, h⟩) hother

theorem cleanConfig_of_reach {conf : Config Action Action.Answer Error State Request}
    (h : (server settings inputs).Reach sched ⟨.new, []⟩ conf) : CleanConfig conf := by
  induction h with
  | refl => exact ⟨by simp, .inl fun l level hl => by cases hl⟩
  | tail _ hs ih => exact ih.step hs

/-- **No level stays empty**: in every run, when no task is in progress every level has a player. -/
theorem noEmptyLevel_of_quiet {conf : Config Action Action.Answer Error State Request}
    (h : (server settings inputs).Reach sched ⟨.new, []⟩ conf) (hq : conf.Quiet) :
    conf.state.NoEmptyLevel := by
  apply (cleanConfig_of_reach h).clean.resolve_right
  rintro ⟨j, hj, hc⟩
  exact not_ended_of_cleansUp hc (hq j hj)

theorem ReachableBy.noEmptyLevel {arrives : Request → Prop} {st : State}
    (h : ReachableBy settings inputs arrives st) : st.NoEmptyLevel := by
  obtain ⟨jobs, hreach, hq⟩ := h
  exact noEmptyLevel_of_quiet hreach hq

end Runs

/-! ## No client has the id 0 -/

/-- The section does not register the client 0. -/
def Action.NotZero : Action → Prop
  | addClient clientId _ _ => clientId ≠ 0
  | _ => True

theorem get_zero_step (settings : ServerSettings) (o : Input) {a : Action} (ha : a.NotZero)
    {st : State}
    (h : st.connectedClients.get 0 = none) :
    (step settings o a st).2.connectedClients.get 0 = none := by
  cases a with
  | addClient id address key =>
    exact (st.get_addClient_of_ne settings o.now address (Ne.symm ha)).trans h
  | takeClient id => simp [step, State.takeClient, h]
  | setLevelId id levelId => simp [step, State.setLevelId, h]
  | setPlayerData id data => simp [step, State.setPlayerData, h]
  | keepalive id => simp [step, State.keepalive, h]
  | exitLevel id => simp [step, State.exitLevel, State.setLevelId, h]
  | insertIntoLevel id level => simpa [step] using h
  | removeFromLevel id level => simpa [step] using h
  | storePlayerData id level data => simpa [step] using h
  | tickLevel level players =>
    change (st.tickLevel o.order level players).2.connectedClients.get 0 = none
    unfold State.tickLevel
    split
    · rw [State.get_foldl_setLevelId, h]
      split <;> rfl
    · exact h
  | _ => exact h

section Runs

variable [Bytebuffer] {settings : ServerSettings} {inputs : Input → Prop}
  {sched : Schedule Action Action.Answer Error State Request}

theorem notZero_handlePacket (buf : List UInt8) (peer : SocketAddr) :
    (handlePacket settings buf peer).Only Action.NotZero := by
  rcases header_cases buf with ⟨ptype, id, key, bbuf, -, -, hs⟩ | ⟨-, hs⟩
  · rw [hs]
    by_cases hid : id = 0
    · rw [serve, if_pos hid]
      refine (only_sendBufTo _ _).mono fun a ha => ?_
      cases a <;> first | exact ha.elim | trivial
    · refine (actsFor_serve settings ptype key peer bbuf).mono fun a ha => ?_
      cases a with
      | addClient c address k =>
        rintro rfl
        exact hid (ha 0 rfl).symm
      | _ => trivial
  · refine (hs settings peer).mono fun a ha => ?_
    rcases ha with ha | rfl
    · cases a <;> first | exact ha.elim | trivial
    · trivial

theorem notZero_task (k : Request) : (k.task settings).Only Action.NotZero := by
  cases k with
  | packet buf peer => exact notZero_handlePacket buf peer
  | sweep =>
    refine sweeps_removeDeadClients.mono fun a ha => ?_
    cases a <;> first | exact ha.elim | trivial
  | tick =>
    refine ticks_tick.mono fun a ha => ?_
    cases a <;> first | exact ha.elim | trivial
  | removeEmptyLevels => exact ⟨trivial, fun _ => trivial⟩

/-- **No client has the id 0**, in every state of every run. -/
theorem get_zero_of_reach {conf : Config Action Action.Answer Error State Request}
    (h : (server settings inputs).Reach sched ⟨.new, []⟩ conf) :
    conf.state.connectedClients.get 0 = none :=
  System.Reach.invariant_of_only
    (I := fun st : State => st.connectedClients.get 0 = none)
    (fun _ o _ ha _ hst => get_zero_step settings o ha hst) notZero_task h rfl

theorem ReachableBy.ne_zero {arrives : Request → Prop} {st : State}
    (h : ReachableBy settings inputs arrives st) {c : Int32} {cd : ClientData}
    (hc : st.connectedClients.get c = some cd) : c ≠ 0 := by
  rintro rfl
  obtain ⟨jobs, hreach, -⟩ := h
  have hzero := get_zero_of_reach hreach
  rw [hc] at hzero
  cases hzero

/-- **Packets of a client**: what is said of the handler of a packet that carries the credentials of
a registered client holds when the packet was handled alone. -/
theorem ReachableBy.handles_dispatched {inputs' : Input → Prop} {arrives : Request → Prop}
    {st : State} (hreach : ReachableBy settings inputs arrives st) {c : Int32} {cd : ClientData}
    (hcd : st.connectedClients.get c = some cd) {buf : List UInt8} {peer : SocketAddr}
    {ptype : ClientPacketKind} {bbuf : ByteReader}
    (hheader : header buf = some (ptype, c, cd.secretKey, bbuf)) (hp : ptype ≠ .checkIn)
    {Q : Task Unit → List (Event Action.Answer) → State → Prop}
    (hQ : (dispatch settings ptype c bbuf).Safe (server settings inputs').machine cleanup (AtEnd Q)
      [⟨.verifySecretKey c cd.secretKey, .ok ()⟩] st)
    {conf : Config Action Action.Answer Error State Request}
    (h : (server settings inputs').Handles st (.packet buf peer) conf) :
    ∃ log r js, conf.jobs = ⟨.packet buf peer, log, r⟩ :: js ∧ r.Ended ∧ Q r log conf.state ∧
      (∀ j ∈ js, ∀ e ∈ j.log, e.1 = .retainLevels) ∧ ((∀ e ∈ log, spawned e = []) → js = []) := by
  have hsafe : ((Request.packet buf peer).task settings).Safe (server settings inputs').machine
      cleanup (AtEnd Q) [] st := by
    rw [Request.task, handlePacket_of_header hheader]
    apply safe_serve_verified hcd (hreach.ne_zero hcd) hp
    intro st' hst
    exact hQ.of_moves hst
  exact handles_safe h hsafe

end Runs

/-! ## No level has an id that stands for another one in packets -/

/-- In packets -1 and -2 stand for other levels. -/
def WireFree (levels : FiniteMap Int32 LevelData) : Prop :=
  levels.get (-1) = none ∧ levels.get (-2) = none

theorem wireFree_insert {levels : FiniteMap Int32 LevelData} (h : WireFree levels) {levelId : Int32}
    (h₁ : levelId ≠ -1) (h₂ : levelId ≠ -2) (level : LevelData) :
    WireFree (levels.insert levelId level) :=
  ⟨(levels.get_insert_of_ne level h₁.symm).trans h.1,
    (levels.get_insert_of_ne level h₂.symm).trans h.2⟩

theorem WireFree.ne {levels : FiniteMap Int32 LevelData} (h : WireFree levels) {levelId : Int32}
    {level : LevelData} (hget : levels.get levelId = some level) : levelId ≠ -1 ∧ levelId ≠ -2 := by
  constructor
  · rintro rfl
    rw [h.1] at hget
    cases hget
  · rintro rfl
    rw [h.2] at hget
    cases hget

theorem wireFree_insert_of_get {levels : FiniteMap Int32 LevelData} (h : WireFree levels)
    {levelId : Int32} {old : LevelData} (hget : levels.get levelId = some old)
    (level : LevelData) : WireFree (levels.insert levelId level) :=
  wireFree_insert h (h.ne hget).1 (h.ne hget).2 level

/-- The section puts nobody on the level -1 or -2. -/
def Action.WireFree : Action → Prop
  | insertIntoLevel _ levelId => levelId ≠ -1 ∧ levelId ≠ -2
  | _ => True

theorem wireFree_step (settings : ServerSettings) (o : Input) {a : Action} (ha : a.WireFree)
    {st : State} (h : Server.WireFree st.levels) :
    Server.WireFree (step settings o a st).2.levels := by
  cases a with
  | addClient id address key =>
    change Server.WireFree (st.addClient settings o.now id address key).2.levels
    rwa [State.levels_addClient]
  | insertIntoLevel id levelId =>
    change Server.WireFree (st.insertIntoLevel id levelId).2.levels
    rw [State.insertIntoLevel_eq]
    exact wireFree_insert h ha.1 ha.2 _
  | removeFromLevel id levelId =>
    change Server.WireFree (st.removeFromLevel id levelId).2.levels
    unfold State.removeFromLevel
    split
    · next hget => exact wireFree_insert_of_get h hget _
    · exact h
  | storePlayerData id levelId data =>
    change Server.WireFree (st.storePlayerData id levelId data).2.levels
    unfold State.storePlayerData
    split
    · next hget => exact wireFree_insert_of_get h hget _
    · exact h
  | retainLevels =>
    exact ⟨by simp [step, State.retainLevels, h.1], by simp [step, State.retainLevels, h.2]⟩
  | tickLevel levelId players =>
    change Server.WireFree (st.tickLevel o.order levelId players).2.levels
    rwa [State.levels_tickLevel]
  | _ => exact h

theorem Action.Sends.wireFree {a : Action} (h : a.Sends) : a.WireFree := by
  cases a <;> first | exact h.elim | trivial

theorem Action.Sweeps.wireFree {a : Action} (h : a.Sweeps) : a.WireFree := by
  cases a <;> first | exact h.elim | trivial

theorem levelIdOfPacket_wireFree (x : Int32) : levelIdOfPacket x ≠ -1 ∧ levelIdOfPacket x ≠ -2 := by
  unfold levelIdOfPacket
  split
  · decide
  · split
    · decide
    · exact ⟨‹_›, ‹_›⟩

section WireFree

variable [Bytebuffer] {settings : ServerSettings} {inputs : Input → Prop}
  {sched : Schedule Action Action.Answer Error State Request} {clientId : Int32}

omit [Bytebuffer] in
theorem wireFree_of_sends {α : Type} {t : Task α} (h : t.Only Action.Sends) :
    t.Only Action.WireFree :=
  h.mono fun _ => Action.Sends.wireFree

omit [Bytebuffer] in
theorem wireFree_leaveLevel (levelId : Int32) :
    (leaveLevel clientId levelId).Only Action.WireFree :=
  (sweeps_leaveLevel clientId levelId).mono fun _ => Action.Sweeps.wireFree

theorem wireFree_onUserlevelentry (bbuf : Bytebuffer.ByteReader) :
    (onUserlevelentry clientId bbuf).Only Action.WireFree := by
  refine ⟨trivial, fun found => ?_⟩
  cases found with
  | none => trivial
  | some found =>
    refine (wireFree_leaveLevel found.2).bind fun _ => (only_read _ bbuf).bind fun p => ?_
    refine (wireFree_of_sends (only_broadcastMessage _ _ _)).bind fun _ => ?_
    refine ⟨levelIdOfPacket_wireFree p.1, fun found => ?_⟩
    cases found
    · trivial
    · exact ⟨trivial, fun _ => trivial⟩

theorem wireFree_onUserlevelexit : (onUserlevelexit clientId).Only Action.WireFree := by
  refine ⟨trivial, fun found => ?_⟩
  cases found with
  | none => trivial
  | some found =>
    refine (wireFree_of_sends (only_broadcastMessage _ _ _)).bind fun _ => ?_
    refine ⟨trivial, fun removed => ?_⟩
    cases removed
    · trivial
    · exact ⟨trivial, fun _ => trivial⟩

theorem wireFree_updateLevel (levelId : Int32) (spectating : Bool)
    (bbuf : Bytebuffer.ByteReader) :
    (updateLevel clientId levelId spectating bbuf).Only Action.WireFree := by
  unfold updateLevel
  split
  · refine (only_read _ bbuf).bind fun p => ?_
    dsimp only
    split
    · refine ⟨trivial, fun found => ?_⟩
      cases found <;> trivial
    · trivial
  · trivial

theorem wireFree_answerLevel (levelId : Int32) :
    (answerLevel settings clientId levelId).Only Action.WireFree := by
  unfold answerLevel
  split
  · refine ⟨trivial, fun level => ?_⟩
    cases level with
    | none => trivial
    | some level => exact wireFree_of_sends (only_sendTo _ _)
  · trivial

theorem wireFree_onUpdatedata (spectating : Bool) (bbuf : Bytebuffer.ByteReader) :
    (onUpdatedata settings clientId spectating bbuf).Only Action.WireFree := by
  refine ⟨trivial, fun levelId => ?_⟩
  cases levelId with
  | none => trivial
  | some levelId =>
    exact (wireFree_updateLevel levelId spectating bbuf).bind fun _ => wireFree_answerLevel levelId

theorem wireFree_handleCheckIn (secretKey : Int32) (peer : SocketAddr)
    (bbuf : Bytebuffer.ByteReader) :
    (handleCheckIn settings clientId secretKey peer bbuf).Only Action.WireFree := by
  refine ⟨trivial, fun added => ?_⟩
  cases added with
  | error e => exact wireFree_of_sends (only_sendBufTo _ _)
  | ok _ =>
    refine (only_read _ bbuf).bind fun p => ?_
    dsimp only
    split
    · exact (wireFree_of_sends (only_sendBufTo _ _)).bind fun _ => ⟨trivial, fun _ => trivial⟩
    · refine ⟨trivial, fun found => ?_⟩
      cases found
      · trivial
      · exact wireFree_of_sends (only_sendTo _ _)

theorem wireFree_dispatch (ptype : ClientPacketKind) (bbuf : Bytebuffer.ByteReader) :
    (dispatch settings ptype clientId bbuf).Only Action.WireFree := by
  cases ptype with
  | keepalive => exact ⟨trivial, fun _ => wireFree_of_sends (only_sendTo _ _)⟩
  | disconnect =>
    have h : (removeClient clientId).Only Action.WireFree :=
      (sweeps_removeClient clientId).mono fun _ => Action.Sweeps.wireFree
    exact h.bind fun _ => trivial
  | userLevelEntry => exact wireFree_onUserlevelentry bbuf
  | userLevelExit => exact wireFree_onUserlevelexit
  | userLevelData => exact wireFree_onUpdatedata false bbuf
  | spectateNoData => exact wireFree_onUpdatedata true bbuf
  | playerAccountDataRequest =>
    refine (only_read _ bbuf).bind fun p => ⟨trivial, fun icons => ?_⟩
    cases icons with
    | none => trivial
    | some icons => exact wireFree_of_sends (only_sendTo _ _)
  | levelListRequest => exact ⟨trivial, fun _ => wireFree_of_sends (only_sendTo _ _)⟩
  | sendTextMessage =>
    change (onSendtextmessage clientId bbuf).Only _
    unfold onSendtextmessage
    split
    · exact ⟨trivial, fun _ => wireFree_of_sends (only_broadcastUserMessage _ _)⟩
    · trivial
  | ping => trivial
  | checkIn => trivial

theorem wireFree_task (k : Request) : (k.task settings).Only Action.WireFree := by
  cases k with
  | packet buf peer =>
    rcases header_cases buf with ⟨ptype, id, key, bbuf, -, -, hs⟩ | ⟨-, hs⟩
    · change (handlePacket settings buf peer).Only _
      rw [hs]
      unfold serve
      split
      · exact wireFree_of_sends (only_sendBufTo _ _)
      · split
        · exact wireFree_handleCheckIn key peer bbuf
        · refine .bind ⟨trivial, fun verified => ?_⟩ fun _ => wireFree_dispatch ptype bbuf
          cases verified with
          | ok _ => trivial
          | error e => exact (wireFree_of_sends (only_sendBufTo _ _)).bind fun _ => trivial
    · refine (hs settings peer).mono fun a ha => ?_
      rcases ha with ha | rfl
      · exact ha.wireFree
      · trivial
  | sweep => exact sweeps_removeDeadClients.mono fun _ => Action.Sweeps.wireFree
  | tick =>
    refine ticks_tick.mono fun a ha => ?_
    cases a <;> first | exact ha.elim | trivial
  | removeEmptyLevels => exact ⟨trivial, fun _ => trivial⟩

/-- **No level is -1 or -2**, in every state of every run. -/
theorem wireFree_of_reach {conf : Config Action Action.Answer Error State Request}
    (h : (server settings inputs).Reach sched ⟨.new, []⟩ conf) :
    Server.WireFree conf.state.levels :=
  System.Reach.invariant_of_only (I := fun st : State => Server.WireFree st.levels)
    (fun _ o _ ha _ hst => wireFree_step settings o ha hst) wireFree_task h ⟨rfl, rfl⟩

theorem ReachableBy.wireFree {arrives : Request → Prop} {st : State}
    (h : ReachableBy settings inputs arrives st) : Server.WireFree st.levels := by
  obtain ⟨jobs, hreach, -⟩ := h
  exact wireFree_of_reach hreach

end WireFree

end Globed.Server
