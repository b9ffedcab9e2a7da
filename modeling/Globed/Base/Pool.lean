import Globed.Base.Proc
import Mathlib.Logic.Relation

/-!
# Interleavings of tasks

A `System` is a machine with the tasks it may be asked to run and the tasks that an action spawns.
Its configurations are the shared state with the jobs that have been started; a step starts a job or
lets one job perform its next action. A `Schedule` says which steps are allowed, so that one step
relation covers all interleavings of any number of jobs, jobs that run one after another, and jobs
that are kept apart from each other.

Two rules take a step to a run: an invariant of the shared state (`Reach.invariant`), and
rely-guarantee reasoning (`Reach.safe`): if every job, at each of its actions, moves the state along
a `Rely` under which all jobs are safe, they stay safe together.
-/

namespace Concurrent

open Proc

variable {A : Type} {R : A → Type} {E S O K : Type}

/-- A started task: what it is, what it has done, and what is left of it. -/
structure Job (A : Type) (R : A → Type) (E K : Type) where
  kind : K
  log : List (Event R)
  task : Proc A R E Unit

/-- The tasks of a machine. `spawned` are the tasks that an action starts. -/
structure System (A : Type) (R : A → Type) (E S O K : Type) where
  machine : Machine A R S O
  task : K → Proc A R E Unit
  spawned : Event R → List K

/-- The shared state and the started jobs. -/
structure Config (A : Type) (R : A → Type) (E S K : Type) where
  state : S
  jobs : List (Job A R E K)

/-- All jobs have ended. -/
def Config.Quiet (c : Config A R E S K) : Prop := ∀ j ∈ c.jobs, j.task.Ended

/-- Which task may be started beside the given jobs, and which job may perform its next action
beside the given others. -/
structure Schedule (A : Type) (R : A → Type) (E S K : Type) where
  starts : S → List (Job A R E K) → K → Prop
  acts : S → List (Job A R E K) → Job A R E K → A → Prop

namespace Schedule

/-- Tasks arrive at any time and go on in any order. -/
def anyOrder (arrives : K → Prop) : Schedule A R E S K where
  starts _ _ k := arrives k
  acts _ _ _ _ := True

/-- A task arrives when all that came before, and what they spawned, have ended. -/
def serial (arrives : K → Prop) : Schedule A R E S K where
  starts _ js k := (∀ j ∈ js, j.task.Ended) ∧ arrives k
  acts _ _ _ _ := True

/-- No task arrives any more. -/
def closed : Schedule A R E S K where
  starts _ _ _ := False
  acts _ _ _ _ := True

end Schedule

namespace System

open Schedule

variable (sys : System A R E S O K)

def start (k : K) : Job A R E K := ⟨k, [], sys.task k⟩

/-- What is left of a job after it performed the action `a` with the rest `k`. -/
def advance (o : O) (s : S) (j : Job A R E K) (a : A) (k : R a → Proc A R E Unit) :
    Job A R E K :=
  { j with log := j.log ++ [⟨a, (sys.machine.step o a s).1⟩], task := k (sys.machine.step o a s).1 }

inductive Step (sched : Schedule A R E S K) : Config A R E S K → Config A R E S K → Prop
  | start {s js k} (h : sched.starts s js k) : Step sched ⟨s, js⟩ ⟨s, js ++ [sys.start k]⟩
  | act {s pre j post a k} (o : O) (hj : j.task = .act a k) (ho : sys.machine.inputs s o)
      (ha : sched.acts s (pre ++ post) j a) :
      Step sched ⟨s, pre ++ j :: post⟩
        ⟨(sys.machine.step o a s).2, pre ++ sys.advance o s j a k :: post ++
          (sys.spawned ⟨a, (sys.machine.step o a s).1⟩).map sys.start⟩

/-- Any number of steps. -/
abbrev Reach (sched : Schedule A R E S K) : Config A R E S K → Config A R E S K → Prop :=
  Relation.ReflTransGen (sys.Step sched)

variable {sys} {sched : Schedule A R E S K}

/-! ### The jobs after a step -/

section Jobs

variable {s : S} {js pre post : List (Job A R E K)} {j x : Job A R E K} {a : A}
  {k : R a → Proc A R E Unit} {o : O}

theorem mem_started {κ : K} : x ∈ js ++ [sys.start κ] ↔ x ∈ js ∨ x = sys.start κ := by
  rw [List.mem_append, List.mem_singleton]

/-- The jobs after `j` performed the action `a`. -/
abbrev jobsAfter (sys : System A R E S O K) (o : O) (s : S) (pre : List (Job A R E K))
    (j : Job A R E K) (post : List (Job A R E K)) (a : A) (k : R a → Proc A R E Unit) :
    List (Job A R E K) :=
  pre ++ sys.advance o s j a k :: post ++
    (sys.spawned ⟨a, (sys.machine.step o a s).1⟩).map sys.start

theorem mem_before : x ∈ pre ++ j :: post ↔ x ∈ pre ++ post ∨ x = j := by
  simp [or_left_comm, or_comm]

theorem mem_jobsAfter :
    x ∈ sys.jobsAfter o s pre j post a k ↔ x ∈ pre ++ post ∨ x = sys.advance o s j a k ∨
      ∃ κ ∈ sys.spawned ⟨a, (sys.machine.step o a s).1⟩, x = sys.start κ := by
  rw [jobsAfter, List.mem_append, mem_before, or_assoc, List.mem_map]
  simp only [eq_comm]

theorem advance_mem_jobsAfter :
    sys.advance o s j a k ∈ sys.jobsAfter o s pre j post a k :=
  mem_jobsAfter.mpr (.inr (.inl rfl))

end Jobs

/-- **State invariants**: what every action keeps, a run keeps. -/
theorem Reach.invariant {I : S → Prop}
    (hI : ∀ a o s, sys.machine.inputs s o → I s → I (sys.machine.step o a s).2)
    {c c' : Config A R E S K} (h : sys.Reach sched c c') (hc : I c.state) : I c'.state := by
  induction h with
  | refl => exact hc
  | tail _ hs ih =>
    cases hs with
    | start _ => exact ih
    | act o _ ho _ => exact hI _ o _ ho ih

/-- **Events**: what every action answers, the logs of all jobs record. -/
theorem Reach.logs {P : Event R → Prop}
    (hP : ∀ a o s, sys.machine.inputs s o → P ⟨a, (sys.machine.step o a s).1⟩)
    {c c' : Config A R E S K} (h : sys.Reach sched c c')
    (hc : ∀ j ∈ c.jobs, ∀ e ∈ j.log, P e) : ∀ j ∈ c'.jobs, ∀ e ∈ j.log, P e := by
  induction h with
  | refl => exact hc
  | tail _ hs ih =>
    intro j' hj' e he
    cases hs with
    | start _ =>
      rcases mem_started.mp hj' with hj' | rfl
      · exact ih j' hj' e he
      · cases he
    | @act s pre j post a k o _ ho _ =>
      rcases mem_jobsAfter.mp hj' with hj' | rfl | ⟨κ, -, rfl⟩
      · exact ih j' (mem_before.mpr (.inl hj')) e he
      · rcases List.mem_append.mp he with he | he
        · exact ih j (mem_before.mpr (.inr rfl)) e he
        · obtain rfl := List.mem_singleton.mp he
          exact hP a o s ho
      · cases he

/-- What every action of a task satisfies, every action that is left of its job satisfies. -/
theorem Reach.only {p : K → A → Prop} (hp : ∀ k, (sys.task k).Only (p k)) {s : S}
    {c : Config A R E S K} (h : sys.Reach sched ⟨s, []⟩ c) :
    ∀ j ∈ c.jobs, j.task.Only (p j.kind) := by
  induction h with
  | refl => exact fun j hj => nomatch hj
  | tail _ hs ih =>
    intro j' hj'
    cases hs with
    | start _ =>
      rcases mem_started.mp hj' with hj' | rfl
      · exact ih j' hj'
      · exact hp _
    | @act s pre j post a k o hj _ _ =>
      rcases mem_jobsAfter.mp hj' with hj' | rfl | ⟨κ, -, rfl⟩
      · exact ih j' (mem_before.mpr (.inl hj'))
      · have hjt := ih j (mem_before.mpr (.inr rfl))
        rw [hj] at hjt
        exact hjt.2 _
      · exact hp κ

/-- A run under one schedule is a run under any other that allows as much. -/
theorem Reach.mono {sched' : Schedule A R E S K}
    (hst : ∀ s js k, sched.starts s js k → sched'.starts s js k)
    (hac : ∀ s js j a, sched.acts s js j a → sched'.acts s js j a) {c c' : Config A R E S K}
    (h : sys.Reach sched c c') : sys.Reach sched' c c' := by
  refine Relation.ReflTransGen.mono ?_ _ _ h
  intro c c' hs
  cases hs with
  | start h => exact .start (hst _ _ _ h)
  | act o hj ho ha => exact .act o hj ho (hac _ _ _ _ ha)

/-- A run goes on in the same way beside other jobs. -/
theorem Reach.beside {sched' : Schedule A R E S K} (js₀ : List (Job A R E K))
    (hst : ∀ s js k, sched.starts s js k → sched'.starts s (js₀ ++ js) k)
    (hac : ∀ s js j a, sched'.acts s js j a) {c c' : Config A R E S K}
    (h : sys.Reach sched c c') :
    sys.Reach sched' ⟨c.state, js₀ ++ c.jobs⟩ ⟨c'.state, js₀ ++ c'.jobs⟩ := by
  induction h with
  | refl => exact .refl
  | tail _ hs ih =>
    refine .tail ih ?_
    cases hs with
    | start h => simpa using Step.start (hst _ _ _ h)
    | @act s pre j post a k o hj ho _ =>
      have hs' : sys.Step sched' ⟨s, (js₀ ++ pre) ++ j :: post⟩ _ := .act o hj ho (hac _ _ _ _)
      simpa using hs'

/-- Where no task is started or spawned, the jobs stay the same. -/
theorem Reach.kinds (hstarts : ∀ s js k, ¬sched.starts s js k) (hsp : ∀ e, sys.spawned e = [])
    {c c' : Config A R E S K} (h : sys.Reach sched c c') :
    c'.jobs.map (·.kind) = c.jobs.map (·.kind) := by
  induction h with
  | refl => rfl
  | tail _ hstep ih =>
    cases hstep with
    | start hk => exact absurd hk (hstarts _ _ _)
    | act o hj ho _ =>
      rw [← ih]
      simp [advance, hsp]

/-! ## Rely and guarantee -/

section Safe

variable {g : Rely S} {ok : K → Proc A R E Unit → List (Event R) → S → Prop}

/-- All jobs of a configuration are safe. -/
def AllSafe (sys : System A R E S O K) (g : Rely S)
    (ok : K → Proc A R E Unit → List (Event R) → S → Prop) (c : Config A R E S K) : Prop :=
  ∀ j ∈ c.jobs, j.task.Safe sys.machine g (ok j.kind) j.log c.state

theorem Step.safe
    (hstep : ∀ κ a k log o s, ok κ (.act a k) log s → sys.machine.inputs s o →
      g.moves s (sys.machine.step o a s).2)
    (hst : ∀ s js k, sched.starts s js k → (sys.task k).Safe sys.machine g (ok k) [] s)
    (hsp : ∀ e s, ∀ k ∈ sys.spawned e, (sys.task k).Safe sys.machine g (ok k) [] s)
    {c c' : Config A R E S K} (h : sys.Step sched c c') (hc : sys.AllSafe g ok c) :
    sys.AllSafe g ok c' ∧ g.moves c.state c'.state := by
  cases h with
  | start ht =>
    refine ⟨fun j hj => ?_, g.refl _⟩
    rcases mem_started.mp hj with hj | rfl
    · exact hc j hj
    · exact hst _ _ _ ht
  | @act s pre j₀ post a k o hj₀ ho _ =>
    have hs₀ := hc j₀ (mem_before.mpr (.inr rfl))
    rw [hj₀] at hs₀
    have hmoves := hstep _ a k _ o s hs₀.now ho
    refine ⟨fun j hj => ?_, hmoves⟩
    rcases mem_jobsAfter.mp hj with hj | rfl | ⟨κ, hκ, rfl⟩
    · exact (hc j (mem_before.mpr (.inl hj))).of_moves hmoves
    · exact hs₀.next ho
    · exact hsp _ _ κ hκ

/-- **Rely-guarantee**: if each action that a safe job performs moves the state along the rely of
the others, safe jobs stay safe together, and the whole run moves the state along that rely. -/
theorem Reach.safe
    (hstep : ∀ κ a k log o s, ok κ (.act a k) log s → sys.machine.inputs s o →
      g.moves s (sys.machine.step o a s).2)
    (hst : ∀ s js k, sched.starts s js k → (sys.task k).Safe sys.machine g (ok k) [] s)
    (hsp : ∀ e s, ∀ k ∈ sys.spawned e, (sys.task k).Safe sys.machine g (ok k) [] s)
    {c c' : Config A R E S K} (h : sys.Reach sched c c') (hc : sys.AllSafe g ok c) :
    sys.AllSafe g ok c' ∧ g.moves c.state c'.state := by
  induction h with
  | refl => exact ⟨hc, g.refl _⟩
  | tail _ hs ih =>
    obtain ⟨h₁, h₂⟩ := ih
    obtain ⟨h₃, h₄⟩ := hs.safe hstep hst hsp h₁
    exact ⟨h₃, g.trans h₂ h₄⟩

end Safe

/-- **Invariants of what tasks contain**: if every action of every task keeps `I`, a run keeps
it. -/
theorem Reach.invariant_of_only {p : A → Prop} {I : S → Prop}
    (hI : ∀ a o s, p a → sys.machine.inputs s o → I s → I (sys.machine.step o a s).2)
    (hp : ∀ k, (sys.task k).Only p) {s : S} {c : Config A R E S K}
    (h : sys.Reach sched ⟨s, []⟩ c) (hs : I s) : I c.state := by
  let g : Rely S :=
    { moves := fun s s' => I s → I s'
      refl := fun _ hs => hs
      trans := fun h h' hs => h' (h hs) }
  have hsafe : ∀ k s, (sys.task k).Safe sys.machine g (fun t _ _ => True ∧ t.Only p) [] s :=
    fun k _ => .of_only (fun _ _ _ _ _ _ _ => trivial) (fun _ _ _ _ _ => trivial) (hp k) trivial
  have hrun := Reach.safe (fun _ a _ _ o s hok ho hs => hI a o s hok.2.1 ho hs)
    (fun s _ k _ => hsafe k s) (fun _ s k _ => hsafe k s) h (fun j hj => nomatch hj)
  exact hrun.2 hs

/-! ## One task and what it spawns -/

/-- The task `k`, started in the state `s` with nothing else running, has ended together with all
that it spawned, in the configuration `c`. -/
def Handles (sys : System A R E S O K) (s : S) (k : K) (c : Config A R E S K) : Prop :=
  sys.Reach .closed ⟨s, [sys.start k]⟩ c ∧ c.Quiet

/-- **A task with its helpers**: `k` and what it spawned end in a configuration where `ok` holds of
`k`, if `k` is safe under interference `g` and all that the spawned tasks do is interference `g`. -/
theorem Handles.safe {g : Rely S} {ok : Proc A R E Unit → List (Event R) → S → Prop}
    {p : A → Prop} {s : S} {k : K} {c : Config A R E S K} (h : sys.Handles s k c)
    (hp : ∀ a o s, p a → sys.machine.inputs s o → g.moves s (sys.machine.step o a s).2)
    (hsp : ∀ e, ∀ κ ∈ sys.spawned e, (sys.task κ).Only p)
    (hk : (sys.task k).Safe sys.machine g ok [] s) :
    ∃ log r js, c.jobs = ⟨k, log, r⟩ :: js ∧ r.Ended ∧ ok r log c.state ∧
      (∀ j ∈ js, ∀ e ∈ j.log, p e.1) ∧ ((∀ e ∈ log, sys.spawned e = []) → js = []) := by
  obtain ⟨hreach, hquiet⟩ := h
  have hinv : ∃ log r js, c.jobs = ⟨k, log, r⟩ :: js ∧ r.Safe sys.machine g ok log c.state ∧
      (∀ j ∈ js, j.task.Only p ∧ ∀ e ∈ j.log, p e.1) ∧
      ((∀ e ∈ log, sys.spawned e = []) → js = []) := by
    clear hquiet
    induction hreach with
    | refl => exact ⟨[], sys.task k, [], rfl, hk, by simp, fun _ => rfl⟩
    | tail _ hs ih =>
      obtain ⟨log, r, js, hjobs, hsafe, hjs, hnil⟩ := ih
      cases hs with
      | start h => exact h.elim
      | @act s pre j post a kont o hj ho _ =>
        have hspawn : ∀ j' ∈ (sys.spawned ⟨a, (sys.machine.step o a s).1⟩).map sys.start,
            j'.task.Only p ∧ ∀ e ∈ j'.log, p e.1 := by
          intro j' hj'
          obtain ⟨κ, hκ, rfl⟩ := List.mem_map.mp hj'
          exact ⟨hsp _ κ hκ, fun e he => nomatch he⟩
        rcases pre with _ | ⟨j₀, pre⟩
        · -- the task itself goes on
          obtain ⟨rfl, rfl⟩ := List.cons.inj hjobs
          obtain rfl : r = .act a kont := hj
          refine ⟨_, _, post ++ _, rfl, hsafe.next ho, fun j' hj' => ?_, fun hsilent => ?_⟩
          · rcases List.mem_append.mp hj' with hj' | hj'
            · exact hjs j' hj'
            · exact hspawn j' hj'
          · rw [hnil fun e he => hsilent e (List.mem_append_left _ he),
              hsilent _ (List.mem_append_right _ List.mem_cons_self)]
            rfl
        · -- a spawned task goes on
          obtain ⟨rfl, rfl⟩ := List.cons.inj hjobs
          obtain ⟨hjp, hjlog⟩ := hjs j (List.mem_append_right _ List.mem_cons_self)
          rw [hj] at hjp
          refine ⟨_, _, _, rfl, hsafe.of_moves (hp a o s hjp.1 ho), fun j' hj' => ?_,
            fun hsilent => absurd (hnil hsilent) (by simp)⟩
          simp only [List.append_eq, List.append_assoc, List.mem_append, List.cons_append,
            List.mem_cons] at hj'
          rcases hj' with hj' | rfl | hj' | hj'
          · exact hjs j' (List.mem_append_left _ hj')
          · refine ⟨hjp.2 _, fun e he => ?_⟩
            rcases List.mem_append.mp he with he | he
            · exact hjlog e he
            · obtain rfl := List.mem_singleton.mp he
              exact hjp.1
          · exact hjs j' (List.mem_append_right _ (List.mem_cons_of_mem _ hj'))
          · exact hspawn j' hj'
  obtain ⟨log, r, js, hjobs, hsafe, hjs, hnil⟩ := hinv
  exact ⟨log, r, js, hjobs, hquiet ⟨k, log, r⟩ (hjobs ▸ List.mem_cons_self), hsafe.now,
    fun j hj => (hjs j hj).2, hnil⟩

/-- A run of one task is a run of the system in which only its job acts. -/
theorem reach_of_runs (hac : ∀ s js j a, sched.acts s js j a) {t r : Proc A R E Unit} {s s' : S}
    {l : List (Event R)} (h : Runs sys.machine t s r s' l) (κ : K) (log : List (Event R))
    (pre post : List (Job A R E K)) :
    sys.Reach sched ⟨s, pre ++ ⟨κ, log, t⟩ :: post⟩
      ⟨s', pre ++ ⟨κ, log ++ l, r⟩ :: post ++ (l.flatMap sys.spawned).map sys.start⟩ := by
  induction h generalizing log post with
  | refl => simpa using Relation.ReflTransGen.refl
  | @act a k s r s' l o ho _ ih =>
    have hs : sys.Step sched ⟨s, pre ++ ⟨κ, log, .act a k⟩ :: post⟩ _ :=
      .act o rfl ho (hac _ _ _ _)
    have hr := ih (log ++ [⟨a, (sys.machine.step o a s).1⟩])
      (post ++ (sys.spawned ⟨a, (sys.machine.step o a s).1⟩).map sys.start)
    refine .head hs ?_
    simpa [advance] using hr

/-- A part of a task runs while other jobs wait, if the schedule lets it act beside them. -/
theorem reach_of_runs_beside {t r : Proc A R E Unit} {s s' : S} {l : List (Event R)}
    (h : Runs sys.machine t s r s' l) (κ : K) (log : List (Event R))
    (pre post : List (Job A R E K))
    (hac : ∀ e ∈ l, ∀ s j, sched.acts s (pre ++ post) j e.1)
    (hsp : ∀ e ∈ l, sys.spawned e = []) :
    sys.Reach sched ⟨s, pre ++ ⟨κ, log, t⟩ :: post⟩ ⟨s', pre ++ ⟨κ, log ++ l, r⟩ :: post⟩ := by
  induction h generalizing log with
  | refl =>
    rw [List.append_nil]
  | @act a k s r s' l o ho _ ih =>
    have hs : sys.Step sched ⟨s, pre ++ ⟨κ, log, .act a k⟩ :: post⟩ _ :=
      .act o rfl ho (hac _ List.mem_cons_self _ _)
    rw [hsp _ List.mem_cons_self, List.map_nil, List.append_nil] at hs
    have hr := ih (log ++ [⟨a, (sys.machine.step o a s).1⟩])
      (fun e he => hac e (List.mem_cons_of_mem _ he))
      fun e he => hsp e (List.mem_cons_of_mem _ he)
    rw [List.append_assoc] at hr
    exact .head hs hr

/-- The job at this place goes on, if it can. -/
def playOne (sys : System A R E S O K) (o : O) (c : Config A R E S K) (i : Nat) :
    Config A R E S K :=
  match c.jobs[i]? with
  | some ⟨κ, log, .act a k⟩ =>
    ⟨(sys.machine.step o a c.state).2,
      sys.jobsAfter o c.state (c.jobs.take i) ⟨κ, log, .act a k⟩ (c.jobs.drop (i + 1)) a k⟩
  | _ => c

/-- The jobs at these places go on, one after the other. -/
def play (sys : System A R E S O K) (o : O) (c : Config A R E S K) (is : List Nat) :
    Config A R E S K :=
  is.foldl (sys.playOne o) c

theorem reach_play (hac : ∀ s js j a, sched.acts s js j a) {o : O}
    (ho : ∀ s, sys.machine.inputs s o) (c : Config A R E S K) (is : List Nat) :
    sys.Reach sched c (sys.play o c is) := by
  refine List.foldlRecOn is (sys.playOne o) .refl fun c' hc' i _ => ?_
  unfold playOne
  split
  · next κ log a k hj =>
    obtain ⟨hi, hget⟩ := List.getElem?_eq_some_iff.mp hj
    have hjobs : c'.jobs.take i ++ ⟨κ, log, .act a k⟩ :: c'.jobs.drop (i + 1) = c'.jobs := by
      rw [← hget, ← List.drop_eq_getElem_cons hi, List.take_append_drop]
    have hs : sys.Step sched
        ⟨c'.state, c'.jobs.take i ++ ⟨κ, log, .act a k⟩ :: c'.jobs.drop (i + 1)⟩ _ :=
      .act o rfl (ho c'.state) (hac _ _ _ _)
    rw [hjobs] at hs
    exact hc'.tail hs
  · exact hc'

/-- Started jobs can be run to their end one after the other. -/
theorem exists_quiet (hac : ∀ s js j a, sched.acts s js j a)
    (hin : ∀ s, ∃ o, sys.machine.inputs s o) (ks : List K)
    (hsp : ∀ k ∈ ks, (sys.task k).Only fun a => ∀ r, sys.spawned ⟨a, r⟩ = []) (s : S)
    (pre : List (Job A R E K)) (hpre : ∀ j ∈ pre, j.task.Ended) :
    ∃ c, sys.Reach sched ⟨s, pre ++ ks.map sys.start⟩ c ∧ c.Quiet := by
  induction ks generalizing s pre with
  | nil =>
    refine ⟨_, .refl, ?_⟩
    simpa [Config.Quiet] using hpre
  | cons k ks ih =>
    obtain ⟨r, s', l, hr, hended⟩ := exists_runs hin (sys.task k) s
    have hnil : l.flatMap sys.spawned = [] := by
      rw [List.flatMap_eq_nil_iff]
      exact fun e he => hr.of_only (hsp k List.mem_cons_self) e he e.2
    have h₁ := reach_of_runs hac hr k [] pre (ks.map sys.start)
    rw [hnil] at h₁
    obtain ⟨c, h₂, hq⟩ := ih (fun k' hk' => hsp k' (List.mem_cons_of_mem _ hk')) s'
      (pre ++ [⟨k, l, r⟩]) (fun j hj => by
        rcases List.mem_append.mp hj with hj | hj
        · exact hpre j hj
        · obtain rfl := List.mem_singleton.mp hj
          exact hended)
    refine ⟨c, h₁.trans ?_, hq⟩
    simpa using h₂

/-- A task that is handled after all others is part of a serial run. -/
theorem Handles.serial {arrives : K → Prop} {s₀ : S} {c c' : Config A R E S K} {k : K}
    (h : sys.Reach (.serial arrives) ⟨s₀, []⟩ c) (hq : c.Quiet) (hk : arrives k)
    (hc : sys.Handles c.state k c') :
    ∃ jobs, sys.Reach (.serial arrives) ⟨s₀, []⟩ ⟨c'.state, jobs⟩ ∧ ∀ j ∈ jobs, j.task.Ended := by
  have hstart : sys.Step (.serial arrives) c ⟨c.state, c.jobs ++ [sys.start k]⟩ := .start ⟨hq, hk⟩
  have hrun : sys.Reach (.serial arrives) _ _ :=
    Reach.beside c.jobs (fun _ _ _ => False.elim) (fun _ _ _ _ => trivial) hc.1
  refine ⟨c.jobs ++ c'.jobs, (h.tail hstart).trans hrun, fun j hj => ?_⟩
  rcases List.mem_append.mp hj with hj | hj
  · exact hq j hj
  · exact hc.2 j hj

/-- What no action of a task and of the tasks it spawns changes is the same when it was handled. -/
theorem Handles.keeps {V : Type} {f : S → V} {p : A → Prop} {s : S} {k : K} {c : Config A R E S K}
    (h : sys.Handles s k c) (hp : ∀ a o s, p a → f (sys.machine.step o a s).2 = f s)
    (hk : (sys.task k).Only p) (hsp : ∀ e, ∀ κ ∈ sys.spawned e, (sys.task κ).Only p) :
    f c.state = f s := by
  let ok : K → Proc A R E Unit → List (Event R) → S → Prop := fun _ t _ _ => True ∧ t.Only p
  have hsafe : ∀ κ s, (sys.task κ).Only p →
      (sys.task κ).Safe sys.machine (.keeps f) (ok κ) [] s := fun κ s hκ =>
    .of_only (fun _ _ _ _ _ _ _ => trivial) (fun _ _ _ _ _ => trivial) hκ trivial
  have hstart : sys.AllSafe (.keeps f) ok ⟨s, [sys.start k]⟩ := by
    intro j hj
    obtain rfl := List.mem_singleton.mp hj
    exact hsafe k s hk
  exact (Reach.safe (fun _ a _ _ o s hok _ => hp a o s hok.2.1) (fun _ _ _ => False.elim)
    (fun e s κ hκ => hsafe κ s (hsp e κ hκ)) h.1 hstart).2

/-- The tasks `ks` were handled one after another, the first one in the state `s`, and the last one
left the state `s'`. -/
inductive InTurn (sys : System A R E S O K) (s : S) : List K → S → Prop
  | nil : InTurn sys s [] s
  | snoc {ks : List K} {s' : S} {k : K} {c : Config A R E S K} (h : InTurn sys s ks s')
      (hc : sys.Handles s' k c) : InTurn sys s (ks ++ [k]) c.state

/-- **A serial run handles its tasks in turn**, but for the last one, which may be at work. -/
theorem Reach.inTurn {arrives : K → Prop} {s₀ : S} {c : Config A R E S K}
    (h : sys.Reach (.serial arrives) ⟨s₀, []⟩ c) :
    ∃ ks s js c', sys.InTurn s₀ ks s ∧ (∀ k ∈ ks, arrives k) ∧ (∀ j ∈ js, j.task.Ended) ∧
      c = ⟨c'.state, js ++ c'.jobs⟩ ∧
      (c' = ⟨s, []⟩ ∨ ∃ k, arrives k ∧ sys.Reach .closed ⟨s, [sys.start k]⟩ c') := by
  induction h with
  | refl => exact ⟨[], s₀, [], ⟨s₀, []⟩, .nil, by simp, by simp, rfl, .inl rfl⟩
  | tail _ hs ih =>
    obtain ⟨ks, s, js, c', hturn, hks, hjs, heq, hlast⟩ := ih
    cases hs with
    | @start s' js' k hk =>
      obtain ⟨rfl, rfl⟩ : s' = c'.state ∧ js' = js ++ c'.jobs := by
        rw [Config.mk.injEq] at heq
        exact heq
      rcases hlast with rfl | ⟨k', hk', hreach⟩
      · exact ⟨ks, s, js, ⟨s, [sys.start k]⟩, hturn, hks, hjs, by simp, .inr ⟨k, hk.2, .refl⟩⟩
      · -- the task that was at work has ended
        have hquiet : c'.Quiet := fun j hj => hk.1 j (List.mem_append_right _ hj)
        refine ⟨ks ++ [k'], c'.state, js ++ c'.jobs, ⟨c'.state, [sys.start k]⟩,
          .snoc hturn ⟨hreach, hquiet⟩, ?_, hk.1, rfl, .inr ⟨k, hk.2, .refl⟩⟩
        intro κ hκ
        rcases List.mem_append.mp hκ with hκ | hκ
        · exact hks κ hκ
        · rwa [List.mem_singleton.mp hκ]
    | @act s' pre j post a k o hj ho _ =>
      obtain ⟨rfl, hjobs⟩ : s' = c'.state ∧ pre ++ j :: post = js ++ c'.jobs := by
        rw [Config.mk.injEq] at heq
        exact heq
      -- the job is not one of those that have ended
      obtain ⟨pre', rfl, hpre⟩ : ∃ pre', pre = js ++ pre' ∧ c'.jobs = pre' ++ j :: post := by
        rcases List.append_eq_append_iff.mp hjobs with ⟨bs, rfl, hpost⟩ | ⟨pre', rfl, hpre⟩
        · cases bs with
          | nil =>
            rw [List.nil_append] at hpost
            exact ⟨[], by simp, hpost.symm⟩
          | cons x bs =>
            rw [List.cons_append, List.cons.injEq] at hpost
            obtain ⟨rfl, -⟩ := hpost
            have hended := hjs j (by simp)
            rw [hj] at hended
            exact hended.elim
        · exact ⟨pre', rfl, hpre⟩
      rcases hlast with rfl | ⟨k', hk', hreach⟩
      · simp at hpre
      · have hstep : sys.Step .closed ⟨c'.state, pre' ++ j :: post⟩
            ⟨(sys.machine.step o a c'.state).2, sys.jobsAfter o c'.state pre' j post a k⟩ :=
          .act o hj ho trivial
        have hreach' : sys.Reach .closed ⟨s, [sys.start k']⟩
            ⟨(sys.machine.step o a c'.state).2, sys.jobsAfter o c'.state pre' j post a k⟩ := by
          refine hreach.tail ?_
          rwa [← hpre] at hstep
        exact ⟨ks, s, js, _, hturn, hks, hjs, by simp, .inr ⟨k', hk', hreach'⟩⟩

/-- A serial run that has come to rest has handled tasks in turn. -/
theorem Reach.exists_inTurn {arrives : K → Prop} {s₀ : S} {c : Config A R E S K}
    (h : sys.Reach (.serial arrives) ⟨s₀, []⟩ c) (hq : c.Quiet) :
    ∃ ks, sys.InTurn s₀ ks c.state ∧ ∀ k ∈ ks, arrives k := by
  obtain ⟨ks, s, js, c', hturn, hks, -, rfl, hlast⟩ := h.inTurn
  rcases hlast with rfl | ⟨k, hk, hreach⟩
  · exact ⟨ks, hturn, hks⟩
  · have hquiet : c'.Quiet := fun j hj => hq j (List.mem_append_right _ hj)
    refine ⟨ks ++ [k], .snoc (c := c') hturn ⟨hreach, hquiet⟩, fun κ hκ => ?_⟩
    rcases List.mem_append.mp hκ with hκ | hκ
    · exact hks κ hκ
    · rwa [List.mem_singleton.mp hκ]

/-- A serial run is one of the runs in any order. -/
theorem Reach.of_serial {arrives : K → Prop} {c c' : Config A R E S K}
    (h : sys.Reach (.serial arrives) c c') : sys.Reach (.anyOrder arrives) c c' := by
  have hst : ∀ (s : S) (js : List (Job A R E K)) (k : K),
      (Schedule.serial arrives).starts s js k → (Schedule.anyOrder arrives).starts s js k :=
    fun _ _ _ hk => hk.2
  exact Reach.mono hst (fun _ _ _ _ => id) h

/-- One task is interrupted by another one, which is handled to its end. -/
theorem Reach.interrupted {arrives : K → Prop} {s₀ s s₁ s₃ : S} {jobs : List (Job A R E K)}
    (h : sys.Reach (.anyOrder arrives) ⟨s₀, []⟩ ⟨s, jobs⟩) (hq : ∀ j ∈ jobs, j.task.Ended)
    {k₁ k₂ : K} (ha₁ : arrives k₁) (ha₂ : arrives k₂) {t t' : Proc A R E Unit}
    {l₁ l₃ : List (Event R)} (h₁ : Runs sys.machine (sys.task k₁) s t s₁ l₁)
    {c : Config A R E S K} (h₂ : sys.Handles s₁ k₂ c)
    (h₃ : Runs sys.machine t c.state t' s₃ l₃) (hended : t'.Ended)
    (hsp₁ : l₁.flatMap sys.spawned = []) (hsp₃ : l₃.flatMap sys.spawned = []) :
    ∃ c', sys.Reach (.anyOrder arrives) ⟨s₀, []⟩ c' ∧ c'.Quiet ∧ c'.state = s₃ := by
  have hac : ∀ s js j a, (anyOrder arrives : Schedule A R E S K).acts s js j a :=
    fun _ _ _ _ => trivial
  have hstart₁ : sys.Step (.anyOrder arrives) ⟨s, jobs⟩ ⟨s, jobs ++ [sys.start k₁]⟩ := .start ha₁
  have hrun₁ := reach_of_runs hac h₁ k₁ [] jobs []
  rw [hsp₁, List.map_nil, List.append_nil, List.nil_append] at hrun₁
  have hstart₂ : sys.Step (.anyOrder arrives) ⟨s₁, jobs ++ [⟨k₁, l₁, t⟩]⟩
      ⟨s₁, (jobs ++ [⟨k₁, l₁, t⟩]) ++ [sys.start k₂]⟩ := .start ha₂
  have hrun₂ : sys.Reach (.anyOrder arrives) _ _ :=
    Reach.beside (jobs ++ [⟨k₁, l₁, t⟩]) (fun _ _ _ => False.elim) hac h₂.1
  have hrun₃ := reach_of_runs hac h₃ k₁ l₁ jobs c.jobs
  rw [hsp₃, List.map_nil, List.append_nil] at hrun₃
  refine ⟨_, ((((h.tail hstart₁).trans hrun₁).tail hstart₂).trans ?_).trans hrun₃, ?_, rfl⟩
  · simpa using hrun₂
  · intro j hj
    rcases List.mem_append.mp hj with hj | hj
    · exact hq j hj
    · rcases List.mem_cons.mp hj with rfl | hj
      · exact hended
      · exact h₂.2 j hj

/-- Every task can be handled, if the tasks it may spawn spawn nothing. -/
theorem exists_handles (hin : ∀ s, ∃ o, sys.machine.inputs s o)
    (hsp : ∀ e, ∀ k ∈ sys.spawned e, (sys.task k).Only fun a => ∀ r, sys.spawned ⟨a, r⟩ = [])
    (s : S) (k : K) : ∃ c, sys.Handles s k c := by
  obtain ⟨r, s', l, hr, hended⟩ := exists_runs hin (sys.task k) s
  have hac : ∀ s js j a, (closed : Schedule A R E S K).acts s js j a := fun _ _ _ _ => trivial
  have h₁ := reach_of_runs hac hr k [] [] []
  have hspawn : ∀ κ ∈ l.flatMap sys.spawned,
      (sys.task κ).Only fun a => ∀ r, sys.spawned ⟨a, r⟩ = [] := by
    intro κ hκ
    obtain ⟨e, -, he⟩ := List.mem_flatMap.mp hκ
    exact hsp e κ he
  have hquiet : ∀ j ∈ [(⟨k, l, r⟩ : Job A R E K)], j.task.Ended := by
    intro j hj
    obtain rfl := List.mem_singleton.mp hj
    exact hended
  obtain ⟨c, h₂, hq⟩ := exists_quiet hac hin _ hspawn s' _ hquiet
  exact ⟨c, h₁.trans (by simpa using h₂), hq⟩

/-! ## Tasks that run one after another -/

section Serial

variable {g : Rely S} {ok : K → Proc A R E Unit → List (Event R) → S → Prop} {p : A → Prop}

/-- The job has ended, or it only does what helpers do. -/
def Idle (p : A → Prop) (j : Job A R E K) : Prop :=
  j.task.Ended ∨ (j.task.Only p ∧ ∀ e ∈ j.log, p e.1)

/-- At most one job is at work beside helpers, and it is safe. -/
structure OneAtWork (sys : System A R E S O K) (g : Rely S)
    (ok : K → Proc A R E Unit → List (Event R) → S → Prop) (p : A → Prop)
    (c : Config A R E S K) : Prop where
  pairwise : c.jobs.Pairwise fun j j' => Idle p j ∨ Idle p j'
  safe : ∀ j ∈ c.jobs, Idle p j ∨ j.task.Safe sys.machine g (ok j.kind) j.log c.state

theorem OneAtWork.others {s : S} {pre post : List (Job A R E K)} {j : Job A R E K}
    (h : sys.OneAtWork g ok p ⟨s, pre ++ j :: post⟩) (hj : ¬Idle p j) :
    ∀ j' ∈ pre ++ post, Idle p j' := by
  obtain ⟨hpair, -⟩ := h
  simp only [List.pairwise_append, List.pairwise_cons, List.mem_cons] at hpair
  intro j' hj'
  rcases List.mem_append.mp hj' with hj' | hj'
  · exact (hpair.2.2 j' hj' j (.inl rfl)).resolve_right hj
  · exact (hpair.2.1.1 j' hj').resolve_left hj

theorem idle_spawned {e : Event R} (hsp : ∀ κ ∈ sys.spawned e, (sys.task κ).Only p) :
    ∀ j ∈ (sys.spawned e).map sys.start, Idle p j := by
  intro j hj
  obtain ⟨κ, hκ, rfl⟩ := List.mem_map.mp hj
  exact .inr ⟨hsp κ hκ, fun e he => nomatch he⟩

section Act

variable {s : S} {pre post : List (Job A R E K)} {j : Job A R E K} {a : A}
  {k : R a → Proc A R E Unit} {o : O}

/-- A helper goes on. -/
theorem OneAtWork.helps
    (hp : ∀ a o s, p a → sys.machine.inputs s o → g.moves s (sys.machine.step o a s).2)
    (hsp : ∀ e, ∀ κ ∈ sys.spawned e, (sys.task κ).Only p)
    (h : sys.OneAtWork g ok p ⟨s, pre ++ j :: post⟩) (hj : j.task = .act a k)
    (ho : sys.machine.inputs s o) (hidle : Idle p j) :
    sys.OneAtWork g ok p ⟨(sys.machine.step o a s).2, sys.jobsAfter o s pre j post a k⟩ := by
  have hspawn := idle_spawned (hsp ⟨a, (sys.machine.step o a s).1⟩)
  obtain ⟨honly, hlog⟩ := hidle.resolve_left (by rw [hj]; exact id)
  rw [hj] at honly
  have hmoves := hp a o s honly.1 ho
  have hidle' : Idle p (sys.advance o s j a k) := by
    refine .inr ⟨honly.2 _, fun e he => ?_⟩
    rcases List.mem_append.mp he with he | he
    · exact hlog e he
    · obtain rfl := List.mem_singleton.mp he
      exact honly.1
  obtain ⟨hpair, hsafe⟩ := h
  refine ⟨?_, fun x hx => ?_⟩
  · simp only [List.pairwise_append, List.pairwise_cons, List.mem_cons,
      List.mem_append] at hpair ⊢
    obtain ⟨h₁, ⟨h₂, h₃⟩, h₄⟩ := hpair
    refine ⟨⟨h₁, ⟨fun _ _ => .inl hidle', h₃⟩, fun x hx y hy => ?_⟩, ?_,
      fun _ _ y hy => .inr (hspawn y hy)⟩
    · rcases hy with rfl | hy
      · exact .inr hidle'
      · exact h₄ x hx y (.inr hy)
    · exact List.pairwise_of_forall_mem_list fun x hx _ _ => .inl (hspawn x hx)
  · rcases mem_jobsAfter.mp hx with hx | rfl | ⟨κ, hκ, rfl⟩
    · exact (hsafe x (mem_before.mpr (.inl hx))).imp_right fun hs => hs.of_moves hmoves
    · exact .inl hidle'
    · exact .inl (hspawn _ (List.mem_map_of_mem hκ))

/-- The job at work goes on. -/
theorem OneAtWork.works (hsp : ∀ e, ∀ κ ∈ sys.spawned e, (sys.task κ).Only p)
    (h : sys.OneAtWork g ok p ⟨s, pre ++ j :: post⟩) (hj : j.task = .act a k)
    (ho : sys.machine.inputs s o) (hidle : ¬Idle p j) :
    sys.OneAtWork g ok p ⟨(sys.machine.step o a s).2, sys.jobsAfter o s pre j post a k⟩ := by
  have hspawn := idle_spawned (hsp ⟨a, (sys.machine.step o a s).1⟩)
  have hothers := h.others hidle
  have hsafe := (h.safe j (mem_before.mpr (.inr rfl))).resolve_left hidle
  rw [hj] at hsafe
  refine ⟨?_, fun x hx => ?_⟩
  · simp only [List.pairwise_append, List.pairwise_cons, List.mem_cons]
    refine ⟨⟨?_, ⟨fun x hx => .inr (hothers x (List.mem_append_right _ hx)), ?_⟩,
      fun x hx _ _ => .inl (hothers x (List.mem_append_left _ hx))⟩, ?_,
      fun _ _ y hy => .inr (hspawn y hy)⟩
    · exact List.pairwise_of_forall_mem_list fun x hx _ _ =>
        .inl (hothers x (List.mem_append_left _ hx))
    · exact List.pairwise_of_forall_mem_list fun x hx _ _ =>
        .inl (hothers x (List.mem_append_right _ hx))
    · exact List.pairwise_of_forall_mem_list fun x hx _ _ => .inl (hspawn x hx)
  · rcases mem_jobsAfter.mp hx with hx | rfl | ⟨κ, hκ, rfl⟩
    · exact .inl (hothers x hx)
    · exact .inr (hsafe.next ho)
    · exact .inl (hspawn _ (List.mem_map_of_mem hκ))

end Act

theorem OneAtWork.step {arrives : K → Prop}
    (hp : ∀ a o s, p a → sys.machine.inputs s o → g.moves s (sys.machine.step o a s).2)
    (hsp : ∀ e, ∀ κ ∈ sys.spawned e, (sys.task κ).Only p)
    (hst : ∀ k s, arrives k → (sys.task k).Safe sys.machine g (ok k) [] s)
    {c c' : Config A R E S K} (h : sys.OneAtWork g ok p c)
    (hs : sys.Step (.serial arrives) c c') : sys.OneAtWork g ok p c' := by
  cases hs with
  | @start s js k hk =>
    have hidle : ∀ j ∈ js, Idle p j := fun j hj => .inl (hk.1 j hj)
    refine ⟨?_, fun j hj => ?_⟩
    · rw [List.pairwise_append]
      exact ⟨h.pairwise, List.pairwise_singleton _ _, fun j hj _ _ => .inl (hidle j hj)⟩
    · rcases mem_started.mp hj with hj | rfl
      · exact .inl (hidle j hj)
      · exact .inr (hst k s hk.2)
  | @act s pre j post a k o hj ho _ =>
    by_cases hidle : Idle p j
    · exact h.helps hp hsp hj ho hidle
    · exact h.works hsp hj ho hidle

/-- **Serial runs**: if tasks run one after another, and the tasks that they spawn only do what `g`
allows, then at any time at most one of them is at work, and it is safe under `g`. -/
theorem Reach.oneAtWork {arrives : K → Prop}
    (hp : ∀ a o s, p a → sys.machine.inputs s o → g.moves s (sys.machine.step o a s).2)
    (hsp : ∀ e, ∀ κ ∈ sys.spawned e, (sys.task κ).Only p)
    (hst : ∀ k s, arrives k → (sys.task k).Safe sys.machine g (ok k) [] s)
    {s₀ : S} {c : Config A R E S K} (h : sys.Reach (.serial arrives) ⟨s₀, []⟩ c) :
    sys.OneAtWork g ok p c := by
  induction h with
  | refl => exact ⟨List.Pairwise.nil, by simp⟩
  | tail _ hs ih => exact ih.step hp hsp hst hs

end Serial

end System

end Concurrent
