import Globed.Server.Membership

/-!
# Level membership under interleaving

The record of a client and the levels agree whenever all tasks have ended, in every run in which no
task looks at the place of a client while another one is moving it. Tasks are not kept apart by the
server: each of them reads one copy of the place, releases the lock, and writes the other copy
later. Two UserLevelEntry packets of one client leave it on two levels.
-/

namespace Globed.Server

open Concurrent Bytebuffer

/-- A level has an entry for a client exactly if the client is registered on that level. The level
id -1 stands for no level. -/
def State.Agrees (st : State) : Prop :=
  ∀ c level, (st.entry level c).isSome = true ↔
    level ≠ -1 ∧ ∃ cd, st.connectedClients.get c = some cd ∧ cd.levelId = level

theorem State.agrees_iff {st : State} : st.Agrees ↔ ∀ c, st.Placed c := by
  refine forall_congr' fun c => forall_congr' fun level => iff_congr Iff.rfl ?_
  rw [State.levelOf, Option.filter_eq_some_iff, Option.map_eq_some_iff, and_comm]
  apply and_congr Iff.rfl
  simp

/-- Well-formed requests arrive at any time. A section that looks at the place of a client waits
until no other task is moving that client, and a tick takes clients off a level that is gone only if
they are not on another one. -/
def keptApart [Bytebuffer] : Schedule Action Action.Answer Error State Request where
  starts _ _ k := k.WellFormed
  acts st js _ a :=
    (∀ c, a.Places c → ∀ j ∈ js, ¬j.InMiddle (Action.Places c)) ∧ a.ResetsOnly st

section Runs

variable [Bytebuffer] {settings : ServerSettings} {inputs : Input → Prop}
  {conf : Config Action Action.Answer Error State Request}

/-- **Isolation of clients**: if tasks that move a client are kept apart, every client is in its
place, unless a send has stranded one. -/
theorem agrees_of_keptApart (h : (server settings inputs).Reach keptApart ⟨.new, []⟩ conf)
    (hq : conf.Quiet) (hfine : ∀ j ∈ conf.jobs, ¬Stranded j.log) : conf.state.Agrees := by
  rw [State.agrees_iff]
  intro c
  refine System.Reach.consistent (ρ := place c) ?_ ?_ ?_ ?_ ?_ h hfine ?_
  · intro st js j a o hacts ha _
    exact undisturbed_step settings o ha hacts.2
  · intro st js j a hacts ha
    exact hacts.1 c ha
  · intro st js k hk st' hs
    exact owes_task hk hs
  · intro e k hk st' hs
    obtain ⟨rfl, -⟩ := spawned_eq hk
    exact owes_of_not_places ⟨id, fun _ => trivial⟩ hs
  · intro l
    exact iff_of_false Bool.false_ne_true nofun
  · intro j hj
    exact Job.not_inMiddle_of_ended (hq j hj)

/-- No send fails. -/
theorem not_sendFailed {sched : Schedule Action Action.Answer Error State Request}
    (h : (server settings sendsSucceed).Reach sched ⟨.new, []⟩ conf) :
    ∀ j ∈ conf.jobs, ∀ e ∈ j.log, ¬SendFailed e := by
  refine System.Reach.logs ?_ h fun j hj => nomatch hj
  intro a o st ho hfailed
  cases a with
  | sendTo addr buf =>
    have hsent : o.sent = true := ho
    have hnot : o.sent = false := hfailed
    rw [hsent] at hnot
    cases hnot
  | _ => exact hfailed

theorem not_stranded {sched : Schedule Action Action.Answer Error State Request}
    (h : (server settings sendsSucceed).Reach sched ⟨.new, []⟩ conf) :
    ∀ j ∈ conf.jobs, ¬Stranded j.log := by
  rintro j hj ⟨e₁, e₂, hsub, -, hfailed⟩
  exact not_sendFailed h j hj e₂ (hsub.subset (by simp)) hfailed

omit [Bytebuffer] in
theorem wellFormed_checkIn7 :
    letI := Bytebuffer.reference
    (Request.packet checkIn7 peer7).WellFormed := by
  let := Bytebuffer.reference
  obtain ⟨hheader, hdata, -⟩ := decode_checkIn7
  refine .inl ⟨_, _, _, _, hheader, ?_⟩
  rw [payloadDecodes, hdata]
  rfl

omit [Bytebuffer] in
theorem wellFormed_entry7 (level : UInt8) :
    letI := Bytebuffer.reference
    (Request.packet (entry7 level) peer7).WellFormed := by
  let := Bytebuffer.reference
  exact .inl ⟨_, _, _, _, decode_entry7 level, rfl⟩

omit [Bytebuffer] in
theorem wellFormed_checkIn8 :
    letI := Bytebuffer.reference
    (Request.packet checkIn8 peer7).WellFormed := by
  let := Bytebuffer.reference
  obtain ⟨-, hdata, -⟩ := decode_checkIn7
  refine .inl ⟨_, _, _, _, decode_checkIn8, ?_⟩
  rw [payloadDecodes, hdata]
  rfl

omit [Bytebuffer] in
theorem wellFormed_entry8 (level : UInt8) :
    letI := Bytebuffer.reference
    (Request.packet (entry8 level) peer7).WellFormed := by
  let := Bytebuffer.reference
  exact .inl ⟨_, _, _, _, decode_entry8 level, rfl⟩

/-! ## Requests that are handled one at a time -/

/-- The next section of the task takes clients off a level only if they are on no other one. -/
def ResetsNext (t : Task Unit) (_ : List (Event Action.Answer)) (st : State) : Prop :=
  ∀ a k, t = .act a k → a.ResetsOnly st

/-- The players of the groups are on the level of their group, or on none. -/
def Grouped (groups : List (Int32 × List Int32)) (st : State) : Prop :=
  ∀ level players, (level, players) ∈ groups → ∀ c ∈ players,
    st.levelOf c = none ∨ st.levelOf c = some level

omit [Bytebuffer] in
/-- The first loop of `tick` puts every client into the group of its level. -/
theorem levelOf_of_mem_group {st : State} (es : List (Int32 × ClientData))
    (hes : ∀ e ∈ es, st.connectedClients.get e.1 = some e.2) (m : FiniteMap Int32 (List Int32))
    (hm : ∀ level players, m.get level = some players → ∀ c ∈ players, st.levelOf c = some level) :
    ∀ level players, (es.foldl
        (fun m (id, clientData) =>
          if clientData.levelId ≠ -1 then
            m.insert clientData.levelId ((m.get clientData.levelId).getD [] ++ [id])
          else m) m).get level = some players →
      ∀ c ∈ players, st.levelOf c = some level := by
  induction es generalizing m with
  | nil => exact hm
  | cons e es ih =>
    obtain ⟨id, cd⟩ := e
    have hid : st.connectedClients.get id = some cd := hes _ List.mem_cons_self
    apply ih fun e he => hes e (List.mem_cons_of_mem _ he)
    dsimp only
    split
    · next hne =>
      intro level players hget c hc
      rw [FiniteMap.get_insert] at hget
      split at hget
      · next heq =>
        subst heq
        cases hget
        rcases List.mem_append.mp hc with hc | hc
        · cases hold : m.get cd.levelId with
          | none =>
            rw [hold] at hc
            cases hc
          | some old =>
            rw [hold] at hc
            exact hm _ old hold c hc
        · obtain rfl := List.mem_singleton.mp hc
          exact State.levelOf_of_get hid hne
      · exact hm level players hget c hc
    · exact hm

omit [Bytebuffer] in
theorem grouped_levelToPlayers (st : State) (o : Input) :
    Grouped ((st.levelToPlayers o.order).entries o.levelOrder) st := by
  intro level players hmem c hc
  rw [FiniteMap.mem_entries] at hmem
  right
  refine levelOf_of_mem_group _ ?_ .empty nofun level players hmem c hc
  rintro ⟨id, cd⟩ he
  exact FiniteMap.mem_entries.mp he

/-- An action of `tick` once it has its groups. -/
def Action.TicksOn (groups : List (Int32 × List Int32)) (a : Action) : Prop :=
  a.Sends ∨ ∃ level players, a = .tickLevel level players ∧ (level, players) ∈ groups

omit [Bytebuffer] in
theorem Grouped.step {groups : List (Int32 × List Int32)} {st : State} (h : Grouped groups st)
    (o : Input) {a : Action} (ha : a.TicksOn groups) :
    Grouped groups (Server.step settings o a st).2 := by
  rcases ha with ha | ⟨l, ps, rfl, -⟩
  · cases a <;> first | exact ha.elim | exact h
  · intro level players hmem c hc
    change (st.tickLevel o.order l ps).2.levelOf c = none ∨
      (st.tickLevel o.order l ps).2.levelOf c = some level
    rcases State.levelOf_tickLevel o.order l ps c with heq | ⟨-, -, hnone⟩
    · rw [heq]
      exact h level players hmem c hc
    · exact .inl hnone

omit [Bytebuffer] in
theorem Grouped.resetsOnly {groups : List (Int32 × List Int32)} {st : State}
    (h : Grouped groups st) {a : Action} (ha : a.TicksOn groups) : a.ResetsOnly st := by
  rcases ha with ha | ⟨level, players, rfl, hmem⟩
  · cases a <;> first | exact ha.elim | trivial
  · exact fun _ => h level players hmem

theorem resetsNext_tick (st : State) :
    tick.Safe (server settings inputs).machine (Rely.keeps State.connectedClients) ResetsNext []
      st := by
  intro st₁ _
  refine ⟨?_, fun o _ => ?_⟩
  · rintro _ _ ⟨⟩
    trivial
  let groups := (st₁.levelToPlayers o.order).entries o.levelOrder
  have hgrouped : Grouped groups st₁ := grouped_levelToPlayers st₁ o
  refine Proc.Safe.mono (.of_only (p := Action.TicksOn groups) (I := fun _ st => Grouped groups st)
    ?_ ?_ ?_ hgrouped) ?_
  · intro a o _ st ha _ hgrouped
    exact hgrouped.step o ha
  · intro _ st st' hst hgrouped level players hmem c hc
    have hclients : st'.connectedClients = st.connectedClients := hst
    rw [State.levelOf_of_clients hclients]
    exact hgrouped level players hmem c hc
  · refine .forM _ fun group hmem => ⟨.inr ⟨group.1, group.2, rfl, hmem⟩, fun level => ?_⟩
    cases level with
    | none => trivial
    | some level =>
      refine .forM level fun player _ => .bind (.attempt ?_) fun _ => trivial
      exact (only_sendTo _ _).mono fun _ ha => .inl ha
  · rintro t log st ⟨hgrouped, honly⟩ a k rfl
    exact hgrouped.resetsOnly honly.1

/-- Only `tick` takes clients off levels that are gone. -/
theorem resetsNext_of_only {t : Task Unit} (ht : t.Only fun a => ∀ l ps, a ≠ .tickLevel l ps)
    (st : State) : t.Safe (server settings inputs).machine (Rely.keeps State.connectedClients)
      ResetsNext [] st := by
  refine (Proc.Safe.of_only (I := fun _ _ => True) (fun _ _ _ _ _ _ _ => trivial)
    (fun _ _ _ _ _ => trivial) ht trivial).mono ?_
  rintro t log st ⟨-, honly⟩ a k rfl
  cases a with
  | tickLevel l ps => exact absurd rfl (honly.1 l ps)
  | _ => trivial

theorem resetsNext_task (k : Request) (st : State) :
    (k.task settings).Safe (server settings inputs).machine (Rely.keeps State.connectedClients)
      ResetsNext [] st := by
  cases k with
  | tick => exact resetsNext_tick st
  | packet buf peer =>
    apply resetsNext_of_only
    change (handlePacket settings buf peer).Only _
    rcases header_cases buf with ⟨ptype, id, key, bbuf, -, -, hs⟩ | ⟨-, hs⟩
    · rw [hs]
      exact (actsFor_serve settings ptype key peer bbuf).mono fun _ ha => ha.not_tick
    · refine (hs settings peer).mono fun a ha => ?_
      rintro l ps rfl
      rcases ha with ha | ha
      · exact ha
      · cases ha
  | sweep =>
    apply resetsNext_of_only
    refine sweeps_removeDeadClients.mono fun a ha => ?_
    rintro l ps rfl
    exact ha
  | removeEmptyLevels =>
    apply resetsNext_of_only
    exact ⟨nofun, fun _ => trivial⟩

/-- A run that handles one request after another keeps them apart. -/
theorem keptApart_of_serial
    (h : (server settings inputs).Reach (.serial Request.WellFormed) ⟨.new, []⟩ conf) :
    (server settings inputs).Reach keptApart ⟨.new, []⟩ conf := by
  have hinv : ∀ {conf},
      (server settings inputs).Reach (.serial Request.WellFormed) ⟨.new, []⟩ conf →
      (server settings inputs).OneAtWork (Rely.keeps State.connectedClients)
        (fun _ => ResetsNext) (· = .retainLevels) conf := by
    intro conf h
    refine System.Reach.oneAtWork ?_ ?_ ?_ h
    · rintro a o st rfl _
      exact st.connectedClients_retainLevels
    · intro e κ hκ
      obtain ⟨rfl, -⟩ := spawned_eq hκ
      exact ⟨rfl, fun _ => trivial⟩
    · exact fun k st _ => resetsNext_task k st
  induction h with
  | refl => exact .refl
  | tail hbefore hs ih =>
    apply ih.tail
    cases hs with
    | start h => exact .start h.2
    | @act st pre j post a k o hj ho _ =>
      refine .act o hj ho ?_
      have hinv := hinv hbefore
      by_cases hidle : System.Idle (· = .retainLevels) j
      · rcases hidle with hended | ⟨honly, -⟩
        · rw [hj] at hended
          exact hended.elim
        · rw [hj] at honly
          obtain rfl : a = .retainLevels := honly.1
          exact ⟨fun c hc => hc.elim, trivial⟩
      · have hothers := hinv.others hidle
        have hsafe := (hinv.safe j (by simp)).resolve_left hidle
        refine ⟨fun c hc j' hj' hmid => ?_, hsafe.now a k hj⟩
        rcases hothers j' hj' with hended | ⟨-, hlog⟩
        · exact Job.not_inMiddle_of_ended hended hmid
        · obtain ⟨e, he, hplaces⟩ := hmid.1
          rw [hlog e he] at hplaces
          exact hplaces

/-- Well-formed requests that are handled one at a time while all sends succeed leave every client
in its place. -/
theorem ReachableBy.agrees {st : State}
    (h : ReachableBy settings sendsSucceed Request.WellFormed st) : st.Agrees := by
  obtain ⟨jobs, hreach, hq⟩ := h
  exact agrees_of_keptApart (keptApart_of_serial hreach) hq (not_stranded hreach)

/-! ## Level membership under interleaving -/

/-- **Level membership under interleaving**: while all sends succeed, whatever the order in which
the tasks go on, if no task looks at the place of a client while another one is moving it, the
copies of every client's place agree whenever no task is in progress. -/
theorem membership_of_keptApart
    (h : (server settings sendsSucceed).Reach keptApart ⟨.new, []⟩ conf) (hq : conf.Quiet) :
    conf.state.Agrees :=
  agrees_of_keptApart h hq (not_stranded h)

/-! ### Two clients at once -/

variable (settings) in
/-- A UserLevelEntry of a client that is on no level comes to the point where it has read the
client's level. -/
theorem runs_entry_found (hin : ∃ o, inputs o) {st : State} {c : Int32} {cd : ClientData}
    {buf : List UInt8} (peer : SocketAddr) {bbuf rest : ByteReader} {x : Int32}
    (hcd : st.connectedClients.get c = some cd) (hc : c ≠ 0) (hoff : cd.levelId = -1)
    (hheader : header buf = some (.userLevelEntry, c, cd.secretKey, bbuf))
    (hx : readI32 bbuf = some (x, rest)) :
    ∃ message color, Proc.Runs (server settings inputs).machine
      ((Request.packet buf peer).task settings) st
      (broadcastMessage message color (some (levelIdOfPacket x)) >>= fun _ =>
        addClientToLevel c (levelIdOfPacket x)) st
      [⟨.verifySecretKey c cd.secretKey, .ok ()⟩,
        ⟨.nameAndLevel c, some (cd.playerData.name, cd.levelId)⟩] := by
  obtain ⟨o, ho⟩ := hin
  have hverified : st.verifySecretKey c cd.secretKey = .ok () := by
    simp [State.verifySecretKey, hcd]
  have hfound : st.nameAndLevel c = some (cd.playerData.name, cd.levelId) := by
    rw [State.nameAndLevel, hcd, Option.map_some]
  have hleave : leaveLevel c cd.levelId = pure () := if_neg (not_not.mpr hoff)
  refine ⟨s!"{cd.playerData.name} joined", (30, 200, 30), ?_⟩
  rw [Request.task, handlePacket_of_header hheader, serve_verified peer bbuf hc (by decide)]
  refine .step o ho (congrArg (·, st) hverified) (.step o ho (congrArg (·, st) hfound) ?_)
  simp only [hleave, read, hx, Proc.bind]
  exact .refl

/-- The second half of a UserLevelEntry works for its client, and spawns nothing. -/
theorem only_enter (c l : Int32) (message : String) (color : UInt8 × UInt8 × UInt8)
    (level : Option Int32) :
    (broadcastMessage message color level >>= fun _ => addClientToLevel c l).Only fun a =>
      a.ActsFor c ∧ a ≠ .spawnRemoveEmptyLevels := by
  refine .bind ((only_broadcastMessage _ _ _).mono ?_) fun _ => ?_
  · intro a ha
    refine ⟨ha.staysFor.actsFor, ?_⟩
    rintro rfl
    exact ha
  · refine ⟨⟨fun d hd => (Option.some.inj hd).symm, nofun⟩, fun found => ?_⟩
    cases found with
    | true => exact ⟨⟨fun d hd => (Option.some.inj hd).symm, nofun⟩, fun _ => trivial⟩
    | false => trivial

/-- A UserLevelEntry for the level `l`, between its two sections. -/
def entering (k : Request) (c : Int32) (cd : ClientData) (l : Int32) (message : String)
    (color : UInt8 × UInt8 × UInt8) : Job Action Action.Answer Error Request where
  kind := k
  log := [⟨.verifySecretKey c cd.secretKey, .ok ()⟩,
    ⟨.nameAndLevel c, some (cd.playerData.name, cd.levelId)⟩]
  task := broadcastMessage message color (some l) >>= fun _ => addClientToLevel c l

section Entering

variable {k : Request} {c l : Int32} {cd : ClientData} {message : String}
  {color : UInt8 × UInt8 × UInt8}

theorem actsFor_entering : ∀ e ∈ (entering k c cd l message color).log,
    e.1.ActsFor c ∧ e.1 ≠ .spawnRemoveEmptyLevels := by
  intro e he
  simp only [entering, List.mem_cons, List.not_mem_nil, or_false] at he
  rcases he with rfl | rfl
  · exact ⟨nofun, nofun⟩
  · exact ⟨fun _ h => (Option.some.inj h).symm, nofun⟩

/-- It is in the middle of moving its client. -/
theorem inMiddle_entering : (entering k c cd l message color).InMiddle (Action.Places c) := by
  refine ⟨⟨_, List.mem_cons_of_mem _ List.mem_cons_self, rfl⟩, fun honly => ?_⟩
  -- nobody is told
  exact (honly.2 []).1 rfl

/-- It comes to its end, and then its client is on the level. -/
theorem exists_entered (settings : ServerSettings) (k : Request) (c : Int32) (cd : ClientData)
    (l : Int32) (message : String) (color : UInt8 × UInt8 × UInt8) (st : State) :
    ∃ t st' log, Proc.Runs (server settings sendsSucceed).machine
        (entering k c cd l message color).task st t st' log ∧ t.Ended ∧
      (∀ e ∈ log, e.1.ActsFor c ∧ e.1 ≠ .spawnRemoveEmptyLevels) ∧
      st'.connectedClients = (st.setLevelId c l).connectedClients := by
  obtain ⟨t, st', log, hruns, hended⟩ := Proc.exists_runs
    (m := (server settings sendsSucceed).machine) (fun _ => exists_sendsSucceed)
    (entering k c cd l message color).task st
  refine ⟨t, st', log, hruns, hended, hruns.of_only (only_enter c l message color _), ?_⟩
  exact (hruns.of_safe (safe_enter : Proc.Safe _ _ _ _ [] _) hended).1

end Entering

/-- A section that works for one client may run beside jobs that have ended or work for another
one. -/
theorem keptApart_acts {st : State} {others : List (Job Action Action.Answer Error Request)}
    (j : Job Action Action.Answer Error Request) {a : Action} {c : Int32} (ha : a.ActsFor c)
    (hothers : ∀ j ∈ others, j.task.Ended ∨ ∃ d ≠ c, ∀ e ∈ j.log, e.1.ActsFor d) :
    keptApart.acts st others j a := by
  constructor
  · intro c' hplaces j' hj' hmid
    have hsame : c' = c := by
      by_contra hne
      exact ha.not_places hne hplaces
    subst hsame
    rcases hothers j' hj' with hended | ⟨d, hne, hlog⟩
    · exact Job.not_inMiddle_of_ended hended hmid
    · obtain ⟨e, he, htouch⟩ := hmid.1
      exact (hlog e he).not_places hne.symm htouch
  · cases a with
    | tickLevel l players => exact (ha.not_tick l players rfl).elim
    | _ => trivial

/-- A part of a task that works for one client runs beside such jobs. -/
theorem runs_keptApart {t r : Task Unit} {s s' : State} {l : List (Event Action.Answer)}
    {pre post : List (Job Action Action.Answer Error Request)} {c : Int32}
    (h : Proc.Runs (server settings inputs).machine t s r s' l) (k : Request)
    (log : List (Event Action.Answer))
    (hl : ∀ e ∈ l, e.1.ActsFor c ∧ e.1 ≠ .spawnRemoveEmptyLevels)
    (hothers : ∀ j ∈ pre ++ post, j.task.Ended ∨ ∃ d ≠ c, ∀ e ∈ j.log, e.1.ActsFor d) :
    (server settings inputs).Reach keptApart ⟨s, pre ++ ⟨k, log, t⟩ :: post⟩
      ⟨s', pre ++ ⟨k, log ++ l, r⟩ :: post⟩ :=
  System.reach_of_runs_beside h k log pre post
    (fun e he _ j => keptApart_acts j (hl e he).1 hothers) fun e he => spawned_nil (hl e he).2

/-- **Two clients at once**: two clients that are on no level enter one each, and each task is
between its two sections when the other one goes on. -/
theorem exists_entries_interleaved {st : State} {c d : Int32} {cd dd : ClientData}
    {peer : SocketAddr} {buf₁ buf₂ : List UInt8} {r₁ r₁' r₂ r₂' : ByteReader} {x₁ x₂ : Int32}
    (hreach : ReachableBy settings sendsSucceed Request.WellFormed st) (hne : c ≠ d)
    (hcd : st.connectedClients.get c = some cd) (hoff : cd.levelId = -1)
    (hdd : st.connectedClients.get d = some dd) (hoff' : dd.levelId = -1)
    (ha₁ : (Request.packet buf₁ peer).WellFormed) (ha₂ : (Request.packet buf₂ peer).WellFormed)
    (h₁ : header buf₁ = some (.userLevelEntry, c, cd.secretKey, r₁))
    (hx₁ : readI32 r₁ = some (x₁, r₁'))
    (h₂ : header buf₂ = some (.userLevelEntry, d, dd.secretKey, r₂))
    (hx₂ : readI32 r₂ = some (x₂, r₂')) :
    let sys := server settings sendsSucceed
    ∃ mid conf, sys.Reach keptApart ⟨.new, []⟩ mid ∧
      (∃ j ∈ mid.jobs, j.InMiddle (Action.Places c)) ∧
      (∃ j ∈ mid.jobs, j.InMiddle (Action.Places d)) ∧
      sys.Reach keptApart mid conf ∧ conf.Quiet ∧
      conf.state.connectedClients.get c = some { cd with levelId := levelIdOfPacket x₁ } ∧
      conf.state.connectedClients.get d = some { dd with levelId := levelIdOfPacket x₂ } := by
  intro sys
  -- both tasks have found their clients
  obtain ⟨message₁, color₁, hfound₁⟩ := runs_entry_found settings
    exists_sendsSucceed peer hcd (hreach.ne_zero hcd) hoff h₁ hx₁
  obtain ⟨message₂, color₂, hfound₂⟩ := runs_entry_found settings
    exists_sendsSucceed peer hdd (hreach.ne_zero hdd) hoff' h₂ hx₂
  let j₁ := entering (.packet buf₁ peer) c cd (levelIdOfPacket x₁) message₁ color₁
  let j₂ := entering (.packet buf₂ peer) d dd (levelIdOfPacket x₂) message₂ color₂
  -- and both go on to their end
  obtain ⟨t₁, st₁, l₁, hruns₁, hended₁, hl₁, hclients₁⟩ := exists_entered settings
    (.packet buf₁ peer) c cd (levelIdOfPacket x₁) message₁ color₁ st
  obtain ⟨t₂, st₂, l₂, hruns₂, hended₂, hl₂, hclients₂⟩ := exists_entered settings
    (.packet buf₂ peer) d dd (levelIdOfPacket x₂) message₂ color₂ st₁
  obtain ⟨jobs, hserial, hq⟩ := hreach
  have hlog₁ : ∀ e ∈ j₁.log, e.1.ActsFor c ∧ e.1 ≠ .spawnRemoveEmptyLevels := actsFor_entering
  have hlog₂ : ∀ e ∈ j₂.log, e.1.ActsFor d ∧ e.1 ≠ .spawnRemoveEmptyLevels := actsFor_entering
  let j₁' : Job Action Action.Answer Error Request := ⟨.packet buf₁ peer, j₁.log ++ l₁, t₁⟩
  let j₂' : Job Action Action.Answer Error Request := ⟨.packet buf₂ peer, j₂.log ++ l₂, t₂⟩
  have hmid₁ : sys.Reach keptApart ⟨.new, []⟩ ⟨st, jobs ++ [j₁]⟩ := by
    have hstart : sys.Step keptApart ⟨st, jobs⟩ ⟨st, jobs ++ [sys.start (.packet buf₁ peer)]⟩ :=
      .start ha₁
    refine ((keptApart_of_serial hserial).tail hstart).trans ?_
    refine runs_keptApart hfound₁ _ [] hlog₁ fun j hj => .inl (hq j ?_)
    rwa [List.append_nil] at hj
  have hmid₂ : sys.Reach keptApart ⟨st, jobs ++ [j₁]⟩ ⟨st, (jobs ++ [j₁]) ++ [j₂]⟩ := by
    have hstart : sys.Step keptApart ⟨st, jobs ++ [j₁]⟩
        ⟨st, (jobs ++ [j₁]) ++ [sys.start (.packet buf₂ peer)]⟩ := .start ha₂
    refine .head hstart ?_
    refine runs_keptApart hfound₂ _ [] hlog₂ fun j hj => ?_
    rw [List.append_nil, List.mem_append, List.mem_singleton] at hj
    rcases hj with hj | rfl
    · exact .inl (hq j hj)
    · exact .inr ⟨c, hne, fun e he => (hlog₁ e he).1⟩
  have hend₁ : sys.Reach keptApart ⟨st, (jobs ++ [j₁]) ++ [j₂]⟩ ⟨st₁, (jobs ++ [j₁']) ++ [j₂]⟩ := by
    rw [List.append_assoc, List.append_assoc]
    refine runs_keptApart hruns₁ _ j₁.log hl₁ fun j hj => ?_
    rcases List.mem_append.mp hj with hj | hj
    · exact .inl (hq j hj)
    · obtain rfl := List.mem_singleton.mp hj
      exact .inr ⟨d, hne.symm, fun e he => (hlog₂ e he).1⟩
  have hquiet : ∀ j ∈ jobs ++ [j₁'], j.task.Ended := by
    intro j hj
    rw [List.mem_append, List.mem_singleton] at hj
    rcases hj with hj | rfl
    · exact hq j hj
    · exact hended₁
  have hend₂ : sys.Reach keptApart ⟨st₁, (jobs ++ [j₁']) ++ [j₂]⟩
      ⟨st₂, (jobs ++ [j₁']) ++ [j₂']⟩ := by
    refine runs_keptApart hruns₂ _ j₂.log hl₂ fun j hj => .inl (hquiet j ?_)
    rwa [List.append_nil] at hj
  refine ⟨_, _, hmid₁.trans hmid₂, ⟨j₁, by simp, inMiddle_entering⟩,
    ⟨j₂, by simp, inMiddle_entering⟩, hend₁.trans hend₂, ?_, ?_, ?_⟩
  · intro j hj
    rw [List.mem_append, List.mem_singleton] at hj
    rcases hj with hj | rfl
    · exact hquiet j hj
    · exact hended₂
  · rw [hclients₂, State.setLevelId, FiniteMap.get_modify, if_neg hne, hclients₁, State.setLevelId,
      FiniteMap.get_modify, if_pos rfl, hcd, Option.map_some]
  · rw [hclients₂, State.setLevelId, FiniteMap.get_modify, if_pos rfl, hclients₁, State.setLevelId,
      FiniteMap.get_modify, if_neg hne.symm, hdd, Option.map_some]

omit [Bytebuffer] in
/-- Clients 7 and 8 enter the levels 5 and 6 at the same time. -/
theorem membership_of_keptApart_clients_7_8 :
    letI := Bytebuffer.reference
    let sys := server ⟨30, 0, false, 60⟩ sendsSucceed
    ∃ mid conf, sys.Reach keptApart ⟨.new, []⟩ mid ∧
      (∃ j ∈ mid.jobs, j.InMiddle (Action.Places 7)) ∧
      (∃ j ∈ mid.jobs, j.InMiddle (Action.Places 8)) ∧
      sys.Reach keptApart mid conf ∧ conf.Quiet ∧
      conf.state.levelOf 7 = some 5 ∧ conf.state.levelOf 8 = some 6 ∧ conf.state.Agrees := by
  let := Bytebuffer.reference
  intro sys
  obtain ⟨st, now₇, now₈, hreach, hget₇, hget₈⟩ :=
    exists_clients_7_8_checkedIn wellFormed_checkIn7 wellFormed_checkIn8
  have hx₁ : Bytebuffer.readI32 (⟨[0, 0, 0, 5], 0⟩ : Bytes.BitReader) =
      some (5, (⟨[], 0⟩ : Bytes.BitReader)) := rfl
  have hx₂ : Bytebuffer.readI32 (⟨[0, 0, 0, 6], 0⟩ : Bytes.BitReader) =
      some (6, (⟨[], 0⟩ : Bytes.BitReader)) := rfl
  obtain ⟨mid, conf, hmid, h₇, h₈, hend, hq, hlevel₇, hlevel₈⟩ := exists_entries_interleaved hreach
    (by decide) hget₇ rfl hget₈ rfl (wellFormed_entry7 5) (wellFormed_entry8 6)
    (decode_entry7 5) hx₁ (decode_entry8 6) hx₂
  exact ⟨mid, conf, hmid, h₇, h₈, hend, hq, State.levelOf_of_get hlevel₇ (levelIdOfPacket_ne 5),
    State.levelOf_of_get hlevel₈ (levelIdOfPacket_ne 6),
    membership_of_keptApart (hmid.trans hend) hq⟩

/-! ## Two entries at once -/

/-- **Two entries of one client**: if the second one is handled while the first one is between its
two sections, the client is on both levels when both have ended. -/
theorem exists_on_two_levels {arrives : Request → Prop} {st : State} {c : Int32} {cd : ClientData}
    {peer : SocketAddr} {buf₁ buf₂ : List UInt8} {r₁ r₁' r₂ r₂' : ByteReader} {x₁ x₂ : Int32}
    (hreach : ReachableBy settings sendsSucceed arrives st)
    (hcd : st.connectedClients.get c = some cd) (hoff : cd.levelId = -1)
    (ha₁ : arrives (.packet buf₁ peer)) (ha₂ : arrives (.packet buf₂ peer))
    (h₁ : header buf₁ = some (.userLevelEntry, c, cd.secretKey, r₁))
    (hx₁ : readI32 r₁ = some (x₁, r₁'))
    (h₂ : header buf₂ = some (.userLevelEntry, c, cd.secretKey, r₂))
    (hx₂ : readI32 r₂ = some (x₂, r₂')) :
    ∃ conf, (server settings sendsSucceed).Reach (.anyOrder arrives) ⟨.new, []⟩ conf ∧ conf.Quiet ∧
      conf.state.connectedClients.get c = some { cd with levelId := levelIdOfPacket x₁ } ∧
      (conf.state.entry (levelIdOfPacket x₁) c).isSome = true ∧
      (conf.state.entry (levelIdOfPacket x₂) c).isSome = true := by
  have hc := hreach.ne_zero hcd
  have hac : ∀ st js j a, (Schedule.anyOrder arrives : Schedule Action Action.Answer Error State
      Request).acts st js j a := fun _ _ _ _ => trivial
  -- the first entry has read the level
  obtain ⟨message, color, hfound⟩ :=
    runs_entry_found settings exists_sendsSucceed peer hcd hc hoff h₁ hx₁
  -- the second one is handled
  obtain ⟨conf₂, hconf₂⟩ := server_handles exists_sendsSucceed settings st (.packet buf₂ peer)
  obtain ⟨hclients₂, hentry₂⟩ := handle_entry hreach hcd h₂ hx₂ hconf₂
  -- the first one goes on
  obtain ⟨r, st₃, l, hruns, hended⟩ := Proc.exists_runs
    (m := (server settings sendsSucceed).machine) (fun _ => exists_sendsSucceed)
    (broadcastMessage message color (some (levelIdOfPacket x₁)) >>= fun _ =>
      addClientToLevel c (levelIdOfPacket x₁)) conf₂.state
  obtain ⟨hclients, hentries⟩ := hruns.of_safe (safe_enter : Proc.Safe _ _ _ _ [] _) hended
  have hspawn : l.flatMap spawned = [] := by
    rw [List.flatMap_eq_nil_iff]
    intro e he
    exact spawned_nil (hruns.of_only (only_enter c (levelIdOfPacket x₁) message color _) e he).2
  have hget : st₃.connectedClients.get c = some { cd with levelId := levelIdOfPacket x₁ } := by
    rw [hclients, State.setLevelId, FiniteMap.get_modify, if_pos rfl, hclients₂,
      FiniteMap.get_insert_self, Option.map_some]
  have hentry₁ : (st₃.entry (levelIdOfPacket x₁) c).isSome = true := by
    rw [hentries, State.entry_insertIntoLevel, if_pos ⟨rfl, rfl⟩]
    rfl
  have hentry₂' : (st₃.entry (levelIdOfPacket x₂) c).isSome = true := by
    rw [hentries, State.entry_insertIntoLevel]
    split
    · rfl
    · rw [hentry₂]
      rfl
  obtain ⟨jobs, hreach, hq⟩ := hreach
  obtain ⟨conf, hconf, hquiet, hstate⟩ :=
    System.Reach.interrupted (System.Reach.of_serial hreach) hq
    ha₁ ha₂ hfound hconf₂ hruns hended rfl hspawn
  rw [← hstate] at hget hentry₁ hentry₂'
  exact ⟨conf, hconf, hquiet, hget, hentry₁, hentry₂'⟩

omit [Bytebuffer] in
/-- Client 7 is on no level, and two of its UserLevelEntry packets, which carry its key 42, are
handled at the same time. -/
theorem membership_torn_by_two_entries :
    letI := Bytebuffer.reference
    let arrives : List Request :=
      [.packet checkIn7 peer7, .packet (entry7 1) peer7, .packet (entry7 2) peer7]
    (∀ k ∈ arrives, k.WellFormed) ∧
      ∃ conf cd, (server ⟨30, 0, false, 60⟩ sendsSucceed).Reach (.anyOrder (· ∈ arrives))
        ⟨.new, []⟩ conf ∧ conf.Quiet ∧
        conf.state.connectedClients.get 7 = some cd ∧ cd.secretKey = 42 ∧ cd.levelId = 1 ∧
        (conf.state.entry 1 7).isSome = true ∧ (conf.state.entry 2 7).isSome = true ∧
        ¬conf.state.Agrees := by
  let := Bytebuffer.reference
  intro arrives
  constructor
  · intro k hk
    simp only [arrives, List.mem_cons, List.not_mem_nil, or_false] at hk
    rcases hk with rfl | rfl | rfl
    · exact wellFormed_checkIn7
    · exact wellFormed_entry7 1
    · exact wellFormed_entry7 2
  · have hx₁ : Bytebuffer.readI32 (⟨[0, 0, 0, 1], 0⟩ : Bytes.BitReader) =
        some (1, (⟨[], 0⟩ : Bytes.BitReader)) := rfl
    have hx₂ : Bytebuffer.readI32 (⟨[0, 0, 0, 2], 0⟩ : Bytes.BitReader) =
        some (2, (⟨[], 0⟩ : Bytes.BitReader)) := rfl
    obtain ⟨st, now, hreach, hclients⟩ :=
      @exists_client_7_checkedIn sendsSucceed (· ∈ arrives) (fun _ h => h) List.mem_cons_self
    have hcd : st.connectedClients.get 7 = some (.checkedIn peer7 42 now data7) := by
      rw [hclients, FiniteMap.get_insert_self]
    have hmem₁ : Request.packet (entry7 1) peer7 ∈ arrives := by simp [arrives]
    have hmem₂ : Request.packet (entry7 2) peer7 ∈ arrives := by simp [arrives]
    obtain ⟨conf, hconf, hq, hget, h₁, h₂⟩ := exists_on_two_levels hreach hcd rfl hmem₁ hmem₂
      (decode_entry7 1) hx₁ (decode_entry7 2) hx₂
    refine ⟨conf, _, hconf, hq, hget, rfl, rfl, h₁, h₂, fun hagrees => ?_⟩
    obtain ⟨-, cd, hcd₂, hlevel⟩ := (hagrees 7 _).mp h₂
    rw [hget] at hcd₂
    cases hcd₂
    have hne : levelIdOfPacket 1 ≠ levelIdOfPacket 2 := by decide
    exact hne hlevel

end Runs

end Globed.Server
