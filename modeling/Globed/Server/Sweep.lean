import Globed.Server.CheckIn

/-!
# The sweep for dead clients

A sweep samples the time, collects the ids of the clients that seem dead, and removes them one by
one. In between, keepalives and check-ins go on. What a sweep removes was last heard of more than
the timeout before the sampled time, or at the sampled time or later: in the second case the client
is alive.
-/

namespace Globed.Server

open Concurrent Bytebuffer

/-! ## Sessions -/

/-- What others do to the sessions: a session is still the one that was there or was heard of
since. -/
def sessions : Rely (State × SystemTime) where
  moves s s' := s.2 ≤ s'.2 ∧ ∀ id cd', s'.1.connectedClients.get id = some cd' →
    (∃ cd, s.1.connectedClients.get id = some cd ∧ cd.lastKeepaliveTime = cd'.lastKeepaliveTime) ∨
      s.2 ≤ cd'.lastKeepaliveTime
  refl s := ⟨le_refl _, fun id cd' h => .inl ⟨cd', h, rfl⟩⟩
  trans := by
    intro s s' s'' h h'
    refine ⟨h.1.trans h'.1, fun id cd'' hcd'' => ?_⟩
    rcases h'.2 id cd'' hcd'' with ⟨cd', hcd', heq⟩ | hle
    · rcases h.2 id cd' hcd' with ⟨cd, hcd, heq'⟩ | hle
      · exact .inl ⟨cd, hcd, heq'.trans heq⟩
      · exact .inr (heq ▸ hle)
    · exact .inr (h.1.trans hle)

variable {settings : ServerSettings}

/-- After a section, every session was last heard of when it was before, or just now. -/
theorem lastKeepaliveTime_step (o : Input) (a : Action) {st : State} {id : Int32} {cd' : ClientData}
    (h : (step settings o a st).2.connectedClients.get id = some cd') :
    (∃ cd, st.connectedClients.get id = some cd ∧
      cd.lastKeepaliveTime = cd'.lastKeepaliveTime) ∨ cd'.lastKeepaliveTime = o.now := by
  rcases client_step settings o a h with ⟨cd, hcd, hchanges⟩ | ⟨address, key, -, -, rfl⟩
  · cases hchanges with
    | same => exact .inl ⟨_, hcd, rfl⟩
    | levelId levelId => exact .inl ⟨cd, hcd, rfl⟩
    | playerData playerData => exact .inl ⟨cd, hcd, rfl⟩
    | keepalive => exact .inr rfl
  · exact .inr rfl

/-! ## What a sweep may remove -/

/-- A session that a sweep which sampled `now` removes: it has timed out, or it was heard of at
`now` or later. -/
def Removable (settings : ServerSettings) (now : SystemTime) (cd : ClientData) : Prop :=
  cd.lastKeepaliveTime + settings.kickDuration < now ∨ now ≤ cd.lastKeepaliveTime

/-- The sweep has sampled `now`, and all sessions under the ids may be removed. -/
structure Collected (settings : ServerSettings) (now : SystemTime) (ids : List Int32)
    (log : List (Event Action.Answer)) (s : State × SystemTime) : Prop where
  log : ∃ rest, log = ⟨.now, now⟩ :: rest
  clock : now ≤ s.2
  removable : ∀ id ∈ ids, ∀ cd, s.1.connectedClients.get id = some cd → Removable settings now cd

theorem Collected.of_moves {now : SystemTime} {ids : List Int32} {log : List (Event Action.Answer)}
    {s s' : State × SystemTime} (hs : sessions.moves s s')
    (h : Collected settings now ids log s) : Collected settings now ids log s' := by
  refine ⟨h.log, h.clock.trans hs.1, fun id hid cd' hcd' => ?_⟩
  rcases hs.2 id cd' hcd' with ⟨cd, hcd, heq⟩ | hle
  · have hr := h.removable id hid cd hcd
    rwa [Removable, heq] at hr
  · exact .inr (h.clock.trans hle)

/-- The clients that a sweep collects. -/
theorem removable_of_mem_deadClients {st : State} {o : IterOrder Int32} {now : SystemTime}
    {id : Int32} (hid : id ∈ st.deadClients settings o now) {cd : ClientData}
    (hcd : st.connectedClients.get id = some cd) : Removable settings now cd := by
  unfold State.deadClients at hid
  obtain ⟨⟨id', cd'⟩, hmem, hsome⟩ := List.mem_filterMap.mp hid
  have hget := FiniteMap.mem_entries.mp hmem
  dsimp only at hsome
  split at hsome
  · next hdead =>
    cases hsome
    rw [hcd] at hget
    cases hget
    unfold SystemTime.durationSince at hdead
    split at hdead
    · next hle =>
      rw [Option.getD_some] at hdead
      left
      rw [Nat.add_comm]
      exact Nat.add_lt_of_lt_sub hdead
    · next hlt => exact .inr (Nat.le_of_not_le hlt)
  · cases hsome

theorem takes_leaveLevel (clientId levelId id : Int32) :
    (leaveLevel clientId levelId).Only fun a => ∀ j, a = .takeClient j → j = id := by
  unfold leaveLevel
  split
  · refine ⟨fun j hj => (nomatch hj), fun found => ?_⟩
    cases found
    · trivial
    · exact ⟨fun j hj => (nomatch hj), fun _ => trivial⟩
  · trivial

theorem takes_removeClient (id : Int32) :
    (removeClient id).Only fun a => ∀ j, a = .takeClient j → j = id := by
  refine ⟨fun j hj => by cases hj; rfl, fun client => ?_⟩
  cases client with
  | none => trivial
  | some client => exact (takes_leaveLevel id client.levelId id).bind fun _ => trivial

/-! ## Sweeps among other tasks -/

/-- The server with the last reading of a clock that never goes back. -/
def clocked [Bytebuffer] (settings : ServerSettings) :
    System Action Action.Answer Error (State × SystemTime) Input Request where
  machine :=
    { step := fun o a s => ((step settings o a s.1).1, ((step settings o a s.1).2, o.now))
      inputs := fun s o => s.2 ≤ o.now }
  task := Request.task settings
  spawned := spawned

variable [Bytebuffer]

theorem sessions_step (o : Input) (a : Action) {s : State × SystemTime} (ho : s.2 ≤ o.now) :
    sessions.moves s ((clocked settings).machine.step o a s).2 := by
  refine ⟨ho, fun id cd' h => ?_⟩
  rcases lastKeepaliveTime_step o a h with hcd | hnow
  · exact .inl hcd
  · exact .inr (hnow ▸ ho)

theorem Collected.step {now : SystemTime} {ids : List Int32} (o : Input) (a : Action)
    {log : List (Event Action.Answer)} {s : State × SystemTime} (ho : s.2 ≤ o.now)
    (h : Collected settings now ids log s) :
    Collected settings now ids
      (log ++ [⟨a, ((clocked settings).machine.step o a s).1⟩])
      ((clocked settings).machine.step o a s).2 := by
  obtain ⟨⟨rest, rfl⟩, h₂, h₃⟩ := h.of_moves (sessions_step o a ho)
  exact ⟨⟨_, rfl⟩, h₂, h₃⟩

/-- The sweep is about to remove a session only if it may. -/
def SweepOk (settings : ServerSettings) : Request → Task Unit → List (Event Action.Answer) →
    State × SystemTime → Prop
  | .sweep, t, log, s => ∀ id k now rest cd, t = .act (.takeClient id) k →
      log = ⟨.now, now⟩ :: rest → s.1.connectedClients.get id = some cd →
      Removable settings now cd
  | _, _, _, _ => True

theorem sweepOk_of_collected {now : SystemTime} {ids : List Int32} {t : Task Unit}
    {log : List (Event Action.Answer)} {s : State × SystemTime}
    (h : Collected settings now ids log s)
    (ht : t.Only fun a => ∀ id, a = .takeClient id → id ∈ ids) :
    t.Safe (clocked settings).machine sessions (SweepOk settings .sweep) log s := by
  refine (Proc.Safe.of_only (I := Collected settings now ids) ?_ ?_ ht h).mono ?_
  · exact fun a o log s _ ho h => h.step o a ho
  · exact fun log s s' hs h => h.of_moves hs
  · rintro t log s ⟨⟨⟨rest, rfl⟩, -, hrem⟩, ht⟩ id k now' rest' cd rfl hlog hcd
    cases hlog
    exact hrem id (ht.1 id rfl) cd hcd

theorem sweepOk_removeDeadClients (s : State × SystemTime) :
    removeDeadClients.Safe (clocked settings).machine sessions (SweepOk settings .sweep) [] s := by
  intro s₁ _
  refine ⟨fun id k now rest cd ht => (nomatch ht), fun o ho s₂ h₂ => ?_⟩
  refine ⟨fun id k now rest cd ht => (nomatch ht), fun o' ho' => ?_⟩
  have hcollected : Collected settings o.now (s₂.1.deadClients settings o'.order o.now)
      ([⟨.now, o.now⟩] ++ [⟨.deadClients o.now, s₂.1.deadClients settings o'.order o.now⟩])
      (s₂.1, o'.now) :=
    ⟨⟨_, rfl⟩, Nat.le_trans h₂.1 ho', fun id hid cd hcd => removable_of_mem_deadClients hid hcd⟩
  refine sweepOk_of_collected hcollected (Proc.Only.forM _ fun id hid => ?_)
  refine ((takes_removeClient id).mono fun a ha j hj => ?_).bind fun _ => trivial
  exact ha j hj ▸ hid

theorem safe_trivial (k : Request) (s : State × SystemTime) (hk : k ≠ .sweep) :
    (k.task settings).Safe (clocked settings).machine sessions (SweepOk settings k) [] s := by
  have honly : (k.task settings).Only fun _ => True := by
    generalize k.task settings = t
    induction t with
    | act a k ih => exact ⟨trivial, ih⟩
    | _ => trivial
  refine (Proc.Safe.of_only (I := fun _ _ => True) (fun _ _ _ _ _ _ _ => trivial)
    (fun _ _ _ _ _ => trivial) honly trivial).mono fun t log s _ => ?_
  cases k with
  | sweep => exact absurd rfl hk
  | _ => trivial

theorem sweepOk_task (k : Request) (s : State × SystemTime) :
    (k.task settings).Safe (clocked settings).machine sessions (SweepOk settings k) [] s := by
  by_cases hk : k = .sweep
  · subst hk
    exact sweepOk_removeDeadClients s
  · exact safe_trivial k s hk

/-- The next section of a sweep that sampled `now` removes the session `cd`. -/
structure SweepRemoves (conf : Config Action Action.Answer Error (State × SystemTime) Request)
    (now : SystemTime) (cd : ClientData) : Prop where
  job : ∃ j ∈ conf.jobs, j.kind = .sweep ∧ (∃ rest, j.log = ⟨.now, now⟩ :: rest) ∧
    ∃ id k, j.task = .act (.takeClient id) k ∧ conf.state.1.connectedClients.get id = some cd

/-- **A sweep removes timed-out sessions only**, exactly as far as the sessions that it removes were
last heard of before the time it sampled: in every run, however its sections and those of all other
tasks interleave. -/
theorem sweep_removes_dead_iff {t₀ : SystemTime}
    {conf : Config Action Action.Answer Error (State × SystemTime) Request}
    (h : (clocked settings).Reach (.anyOrder Request.External) ⟨(.new, t₀), []⟩ conf)
    {now : SystemTime} {cd : ClientData} (hremoves : SweepRemoves conf now cd) :
    cd.lastKeepaliveTime + settings.kickDuration < now ↔ cd.lastKeepaliveTime < now := by
  have hsafe : (clocked settings).AllSafe sessions (SweepOk settings) conf :=
    (System.Reach.safe (fun _ a _ _ o _ _ ho => sessions_step o a ho)
      (fun s _ k _ => sweepOk_task k s) (fun _ s k _ => sweepOk_task k s) h
      (fun j hj => nomatch hj)).1
  obtain ⟨j, hj, hkind, ⟨rest, hlog⟩, id, k, htask, hcd⟩ := hremoves.job
  have hok := (hsafe j hj).now
  rw [hkind] at hok
  have hrem := hok id k now rest cd htask hlog hcd
  constructor
  · exact fun hlt => Nat.lt_of_le_of_lt (Nat.le_add_right _ _) hlt
  · intro hlt
    exact hrem.resolve_right (Nat.not_le_of_lt hlt)

omit [Bytebuffer] in
/-- A sweep samples the time of 1000 s. Client 7 checks in a nanosecond later, and is about to be
removed. -/
theorem exists_sweepRemoves_alive :
    letI := Bytebuffer.reference
    ∃ conf cd,
      (clocked ⟨30, 0, false, 60⟩).Reach (.anyOrder Request.External) ⟨(.new, 0), []⟩ conf ∧
      SweepRemoves conf 1000000000000 cd ∧ cd.lastKeepaliveTime = 1000000000001 := by
  let := Bytebuffer.reference
  let settings : ServerSettings := ⟨30, 0, false, 60⟩
  let sys := clocked settings
  let sched : Schedule Action Action.Answer Error (State × SystemTime) Request :=
    .anyOrder Request.External
  let peer : SocketAddr := .v4 0x7f000001 4000
  let input (now : SystemTime) : Input := ⟨now, .any Int32, .any Int32, true⟩
  let checkIn : Request := .packet [100, 0, 0, 0, 7, 0, 0, 0, 42] peer
  let cd : ClientData := .checkedIn peer 42 1000000000001 .empty
  let st : State := ⟨.empty, FiniteMap.empty.insert 7 cd⟩
  let removeAll (ids : List Int32) : Task Unit := ids.forM fun id => do
    let _ ← removeClient id
  let sweep := sys.start .sweep
  let sweep₁ : Job Action Action.Answer Error Request :=
    ⟨.sweep, [⟨.now, 1000000000000⟩], .act (.deadClients 1000000000000) removeAll⟩
  let sweep₂ : Job Action Action.Answer Error Request :=
    ⟨.sweep, [⟨.now, 1000000000000⟩, ⟨.deadClients 1000000000000, [7]⟩], removeAll [7]⟩
  have h₁ : sys.Step sched ⟨(.new, 0), []⟩ ⟨(.new, 0), [sweep]⟩ := .start trivial
  have h₂ : sys.Step sched ⟨(.new, 0), [sweep]⟩ ⟨(.new, 1000000000000), [sweep₁]⟩ := by
    have hs : sys.Step sched ⟨(.new, 0), [] ++ sweep :: []⟩ _ :=
      .act (input 1000000000000) rfl (Nat.zero_le _) trivial
    exact hs
  have h₃ : sys.Step sched ⟨(.new, 1000000000000), [sweep₁]⟩
      ⟨(.new, 1000000000000), [sweep₁, sys.start checkIn]⟩ := .start trivial
  have hheader : header [100, 0, 0, 0, 7, 0, 0, 0, 42] =
      some (.checkIn, 7, 42, (⟨[], 0⟩ : Bytes.BitReader)) := rfl
  have hadd : State.new.addClient settings 1000000000001 7 peer 42 = (.ok (), st) :=
    State.new.addClient_accepted (by simp [State.new]) (fun h => h.1 rfl) 1000000000001 peer 42
  have h₄ : ∃ packet, sys.Step sched ⟨(.new, 1000000000000), [sweep₁, sys.start checkIn]⟩
      ⟨(st, 1000000000001), [sweep₁, packet]⟩ := by
    have htask : (sys.start checkIn).task = .act (.addClient 7 peer 42) _ :=
      handlePacket_of_header hheader settings peer
    have hs : sys.Step sched ⟨(.new, 1000000000000), [sweep₁] ++ sys.start checkIn :: []⟩ _ :=
      .act (input 1000000000001) htask (Nat.le_succ 1000000000000) trivial
    have hstate : (sys.machine.step (input 1000000000001) (.addClient 7 peer 42)
        (.new, 1000000000000)).2 = (st, 1000000000001) :=
      congrArg (·.2, 1000000000001) hadd
    rw [hstate] at hs
    exact ⟨_, hs⟩
  obtain ⟨packet, h₄⟩ := h₄
  have hdead : st.deadClients settings (.any Int32) 1000000000000 = [7] := by
    rw [State.deadClients, FiniteMap.entries_singleton]
    simp [SystemTime.durationSince, cd, ClientData.checkedIn, Duration.fromSecs]
  have h₅ : sys.Step sched ⟨(st, 1000000000001), [sweep₁, packet]⟩
      ⟨(st, 1000000000001), [sweep₂, packet]⟩ := by
    have hs : sys.Step sched ⟨(st, 1000000000001), [] ++ sweep₁ :: [packet]⟩ _ :=
      .act (input 1000000000001) rfl (le_refl _) trivial
    have hstep : (sys.machine.step (input 1000000000001) (.deadClients 1000000000000)
        (st, 1000000000001)).1 = [7] := hdead
    simp only [System.advance, hstep] at hs
    exact hs
  refine ⟨_, cd, .tail (.tail (.tail (.tail (.tail .refl h₁) h₂) h₃) h₄) h₅, ⟨⟨sweep₂, ?_⟩⟩, rfl⟩
  exact ⟨List.mem_cons_self, rfl, ⟨_, rfl⟩, 7, _, rfl, FiniteMap.get_insert_self _ 7 cd⟩

omit [Bytebuffer] in
/-- For the session of client 7. -/
theorem sweep_removes_dead_iff_alive :
    letI := Bytebuffer.reference
    ∃ conf cd, SweepRemoves conf 1000000000000 cd ∧
      (cd.lastKeepaliveTime + (⟨30, 0, false, 60⟩ : ServerSettings).kickDuration <
        1000000000000 ↔ cd.lastKeepaliveTime < 1000000000000) := by
  let := Bytebuffer.reference
  obtain ⟨conf, cd, hreach, hremoves, -⟩ := exists_sweepRemoves_alive
  exact ⟨conf, cd, hremoves, sweep_removes_dead_iff hreach hremoves⟩

omit [Bytebuffer] in
/-- A session that checked in after the sampled time is removed. -/
theorem sweep_removes_alive :
    letI := Bytebuffer.reference
    ∃ conf cd,
      (clocked ⟨30, 0, false, 60⟩).Reach (.anyOrder Request.External) ⟨(.new, 0), []⟩ conf ∧
      SweepRemoves conf 1000000000000 cd ∧
      ¬cd.lastKeepaliveTime + (⟨30, 0, false, 60⟩ : ServerSettings).kickDuration <
        1000000000000 := by
  let := Bytebuffer.reference
  obtain ⟨conf, cd, hreach, hremoves, hlast⟩ := exists_sweepRemoves_alive
  refine ⟨conf, cd, hreach, hremoves, ?_⟩
  rw [hlast]
  decide

end Globed.Server
