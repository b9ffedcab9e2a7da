import Globed.Base.Pool

/-!
# Tasks that remember

What a task does may depend on all that it did and was told before. A `Contract` sums that up, and
says which answers the task may count on, what it may do, and when it may fail. A task keeps a
contract on its own (`Proc.Keeps`); that the others answer it as promised is an `Agreement`.

An agreement has an invariant of the state, and for every task a view: what the task knows of the
state from its own summary. Actions of tasks that are kept apart do not disturb each other's views.
What is agreed holds in every interleaving (`Agreement.reach`).
-/

namespace Concurrent

open Proc

variable {A : Type} {R : A → Type} {S E O K T α β γ : Type}

/-- What a task may count on, and what it owes, where `T` sums up what it did so far. -/
structure Contract (R : A → Type) (E T : Type) where
  start : T
  next : T → Event R → T
  told : T → (a : A) → R a → Prop
  does : T → A → Prop
  throws : T → E → Prop
  panics : T → Prop

namespace Contract

variable {c : Contract R E T} {log : List (Event R)} {e : Event R}

/-- The log summed up. -/
def account (c : Contract R E T) (log : List (Event R)) : T := log.foldl c.next c.start

@[simp] theorem account_nil : c.account [] = c.start := rfl

@[simp] theorem account_concat : c.account (log ++ [e]) = c.next (c.account log) e := by
  simp [account]

/-- Everything in the log was allowed when it was done, and was answered as promised. -/
def Kept (c : Contract R E T) (log : List (Event R)) : Prop :=
  ∀ before e after, log = before ++ e :: after →
    c.does (c.account before) e.1 ∧ c.told (c.account before) e.1 e.2

theorem kept_nil : c.Kept [] := by
  intro before e after h
  simp at h

theorem Kept.concat (h : c.Kept log) (hdoes : c.does (c.account log) e.1)
    (htold : c.told (c.account log) e.1 e.2) : c.Kept (log ++ [e]) := by
  intro before e' after heq
  rcases List.eq_nil_or_concat after with rfl | ⟨after', e'', rfl⟩
  · obtain ⟨rfl, heq'⟩ := List.append_inj' heq rfl
    obtain rfl := List.singleton_inj.mp heq'
    exact ⟨hdoes, htold⟩
  · rw [List.concat_eq_append, ← List.cons_append, ← List.append_assoc] at heq
    exact h before e' after' (List.append_inj' heq rfl).1

end Contract

namespace Proc

/-- After what is summed up, the task keeps the contract, and where it ends `Q` holds of its value
and of all that it did. -/
def Keeps (c : Contract R E T) (Q : α → T → Prop) : Proc A R E α → T → Prop
  | .ret x, t => Q x t
  | .err e, t => c.throws t e
  | .panic, t => c.panics t
  | .act a k, t => c.does t a ∧ ∀ r, c.told t a r → (k r).Keeps c Q (c.next t ⟨a, r⟩)

section Keeps

variable {c : Contract R E T} {Q Q₁ : α → T → Prop} {Q' : β → T → Prop} {t : T}

theorem Keeps.perform {a : A} {Q : R a → T → Prop} (hdoes : c.does t a)
    (h : ∀ r, c.told t a r → Q r (c.next t ⟨a, r⟩)) : (perform a : Proc A R E (R a)).Keeps c Q t :=
  ⟨hdoes, h⟩

theorem Keeps.pure {x : α} (h : Q x t) : (Pure.pure x : Proc A R E α).Keeps c Q t := h

/-- An action and what comes after it. -/
theorem Keeps.act {a : A} {f : R a → Proc A R E α} (hdoes : c.does t a)
    (h : ∀ r, c.told t a r → (f r).Keeps c Q (c.next t ⟨a, r⟩)) :
    (Proc.perform a >>= f).Keeps c Q t :=
  ⟨hdoes, h⟩

theorem Keeps.bind {p : Proc A R E α} {f : α → Proc A R E β} (hp : p.Keeps c Q t)
    (hf : ∀ x t', Q x t' → (f x).Keeps c Q' t') : (p >>= f).Keeps c Q' t := by
  induction p generalizing t with
  | ret x => exact hf x t hp
  | err e => exact hp
  | panic => exact hp
  | act a k ih => exact ⟨hp.1, fun r hr => ih r (hp.2 r hr)⟩

theorem Keeps.map {f : α → β} {p : Proc A R E α} (hp : p.Keeps c (fun x => Q' (f x)) t) :
    (f <$> p).Keeps c Q' t :=
  hp.bind fun _ _ h => h

theorem Keeps.mono {p : Proc A R E α} (hp : p.Keeps c Q t) (hQ : ∀ x t', Q x t' → Q₁ x t') :
    p.Keeps c Q₁ t := by
  induction p generalizing t with
  | ret x => exact hQ x t hp
  | err e => exact hp
  | panic => exact hp
  | act a k ih => exact ⟨hp.1, fun r hr => ih r (hp.2 r hr)⟩

/-- A loop keeps what each of its rounds keeps. -/
theorem Keeps.foldlM {f : β → γ → Proc A R E β} {J : List γ → β → T → Prop}
    (hround : ∀ x rest b t, J (x :: rest) b t → (f b x).Keeps c (J rest) t)
    {xs : List γ} {b : β} (h : J xs b t) : (xs.foldlM f b).Keeps c (J []) t := by
  induction xs generalizing b t with
  | nil => exact h
  | cons x xs ih =>
    rw [List.foldlM_cons]
    exact (hround x xs b t h).bind fun _ _ => ih

end Keeps

end Proc

/-! ## Agreements -/

/-- Contracts that the tasks of a system keep for each other, where the tasks are members. A task
that is new in a run is apart from all others, and knows nothing. -/
structure Agreement (sys : System A R E S O K) (sched : Schedule A R E S K) where
  Summary : K → Type
  contract : (κ : K) → Contract R E (Summary κ)
  member : K → Prop
  inv : S → Prop
  view : (κ : K) → Summary κ → S → Prop
  apart : K → K → Prop
  keeps : ∀ {κ}, member κ → (sys.task κ).Keeps (contract κ) (fun _ _ => True) (contract κ).start
  inv_step : ∀ {κ t a o s}, member κ → (contract κ).does t a → sys.machine.inputs s o → inv s →
    inv (sys.machine.step o a s).2
  told_step : ∀ {κ t a o s}, member κ → (contract κ).does t a → sys.machine.inputs s o → inv s →
    view κ t s → (contract κ).told t a (sys.machine.step o a s).1
  view_step : ∀ {κ t a o s}, member κ → (contract κ).does t a → sys.machine.inputs s o → inv s →
    view κ t s → view κ ((contract κ).next t ⟨a, (sys.machine.step o a s).1⟩)
      (sys.machine.step o a s).2
  view_apart : ∀ {κ κ' t t' a o s}, apart κ κ' → (contract κ).does t a →
    sys.machine.inputs s o → view κ' t' s → view κ' t' (sys.machine.step o a s).2
  started : ∀ {s js κ}, sched.starts s js κ →
    member κ ∧ (∀ s, view κ (contract κ).start s) ∧ ∀ κ', apart κ κ' ∧ apart κ' κ
  spawned : ∀ {e}, ∀ κ ∈ sys.spawned e,
    member κ ∧ (∀ s, view κ (contract κ).start s) ∧ ∀ κ', apart κ κ' ∧ apart κ' κ

namespace Agreement

variable {sys : System A R E S O K} {sched : Schedule A R E S K}

/-- What a job did so far. -/
abbrev account (ag : Agreement sys sched) (j : Job A R E K) : ag.Summary j.kind :=
  (ag.contract j.kind).account j.log

/-- What is agreed holds of the jobs and the state. -/
structure Holds (ag : Agreement sys sched) (c : Config A R E S K) : Prop where
  member : ∀ j ∈ c.jobs, ag.member j.kind
  inv : ag.inv c.state
  apart : (c.jobs.map (·.kind)).Pairwise fun κ κ' => ag.apart κ κ' ∧ ag.apart κ' κ
  kept : ∀ j ∈ c.jobs, (ag.contract j.kind).Kept j.log
  keeps : ∀ j ∈ c.jobs, j.task.Keeps (ag.contract j.kind) (fun _ _ => True) (ag.account j)
  view : ∀ j ∈ c.jobs, ag.view j.kind (ag.account j) c.state

variable {ag : Agreement sys sched}

/-- New jobs are apart from the ones that are there. -/
theorem pairwise_append {κs κs' : List K}
    (h : κs.Pairwise fun κ κ' => ag.apart κ κ' ∧ ag.apart κ' κ)
    (hnew : ∀ κ ∈ κs', ∀ κ', ag.apart κ κ' ∧ ag.apart κ' κ) :
    (κs ++ κs').Pairwise fun κ κ' => ag.apart κ κ' ∧ ag.apart κ' κ := by
  refine List.pairwise_append.mpr ⟨h, ?_, fun κ _ κ' hκ' => (hnew κ' hκ' κ).symm⟩
  exact List.pairwise_of_forall_mem_list fun κ hκ κ' _ => hnew κ hκ κ'

/-- A job that is there is apart from all others. -/
theorem Holds.apart_of_mem {s : S} {pre post : List (Job A R E K)} {j x : Job A R E K}
    (h : ag.Holds ⟨s, pre ++ j :: post⟩) (hx : x ∈ pre ++ post) : ag.apart j.kind x.kind := by
  have hpairs := h.apart
  simp only [List.map_append, List.map_cons, List.pairwise_append, List.pairwise_cons] at hpairs
  obtain ⟨-, ⟨hafter, -⟩, hbefore⟩ := hpairs
  rcases List.mem_append.mp hx with hx | hx
  · exact (hbefore _ (List.mem_map_of_mem hx) _ List.mem_cons_self).2
  · exact (hafter _ (List.mem_map_of_mem hx)).1

theorem Holds.start {s : S} {js : List (Job A R E K)} {κ : K} (h : ag.Holds ⟨s, js⟩)
    (hκ : sched.starts s js κ) : ag.Holds ⟨s, js ++ [sys.start κ]⟩ := by
  obtain ⟨hmember, hview, hapart⟩ := ag.started hκ
  have hnew : ∀ κ' ∈ [κ], ∀ κ'', ag.apart κ' κ'' ∧ ag.apart κ'' κ' := by simpa using hapart
  refine ⟨?_, h.inv, by simpa [System.start] using pairwise_append h.apart hnew, ?_, ?_, ?_⟩
  all_goals
    intro j hj
    rcases System.mem_started.mp hj with hj | rfl
  · exact h.member j hj
  · exact hmember
  · exact h.kept j hj
  · exact Contract.kept_nil
  · exact h.keeps j hj
  · exact ag.keeps hmember
  · exact h.view j hj
  · exact hview s

theorem Holds.act {s : S} {pre post : List (Job A R E K)} {j : Job A R E K} {a : A}
    {k : R a → Proc A R E Unit} (h : ag.Holds ⟨s, pre ++ j :: post⟩) (o : O)
    (hj : j.task = .act a k) (ho : sys.machine.inputs s o) :
    ag.Holds ⟨(sys.machine.step o a s).2, sys.jobsAfter o s pre j post a k⟩ := by
  have hmem : j ∈ pre ++ j :: post := System.mem_before.mpr (.inr rfl)
  have hmember := h.member j hmem
  have hview := h.view j hmem
  have hkeeps := h.keeps j hmem
  rw [hj] at hkeeps
  have htold := ag.told_step hmember hkeeps.1 ho h.inv hview
  have hkinds : (sys.jobsAfter o s pre j post a k).map (·.kind) =
      (pre ++ j :: post).map (·.kind) ++ sys.spawned ⟨a, (sys.machine.step o a s).1⟩ := by
    simp [System.advance, System.start, Function.comp_def]
  refine ⟨?_, ag.inv_step hmember hkeeps.1 ho h.inv, ?_, ?_, ?_, ?_⟩
  case refine_2 =>
    rw [hkinds]
    exact pairwise_append h.apart fun κ hκ => (ag.spawned κ hκ).2.2
  all_goals
    intro x hx
    rcases System.mem_jobsAfter.mp hx with hx | rfl | ⟨κ, hκ, rfl⟩
  · exact h.member x (System.mem_before.mpr (.inl hx))
  · exact hmember
  · exact (ag.spawned κ hκ).1
  · exact h.kept x (System.mem_before.mpr (.inl hx))
  · exact (h.kept j hmem).concat hkeeps.1 htold
  · exact Contract.kept_nil
  · exact h.keeps x (System.mem_before.mpr (.inl hx))
  · have hrest := hkeeps.2 _ htold
    rw [← Contract.account_concat] at hrest
    exact hrest
  · exact ag.keeps (ag.spawned κ hκ).1
  · exact ag.view_apart (h.apart_of_mem hx) hkeeps.1 ho
      (h.view x (System.mem_before.mpr (.inl hx)))
  · have hnext := ag.view_step hmember hkeeps.1 ho h.inv hview
    rw [← Contract.account_concat] at hnext
    exact hnext
  · exact (ag.spawned κ hκ).2.1 _

/-- **Agreements in a run**: what is agreed holds in every interleaving. -/
theorem reach {c c' : Config A R E S K} (h : sys.Reach sched c c') (hc : ag.Holds c) :
    ag.Holds c' := by
  induction h with
  | refl => exact hc
  | tail _ hstep ih =>
    cases hstep with
    | start hκ => exact ih.start hκ
    | act o hj ho _ => exact ih.act o hj ho

/-- Members that are apart can start together. -/
theorem holds_start {s : S} {κs : List K} (hmember : ∀ κ ∈ κs, ag.member κ) (hinv : ag.inv s)
    (hapart : κs.Pairwise fun κ κ' => ag.apart κ κ' ∧ ag.apart κ' κ)
    (hview : ∀ κ ∈ κs, ag.view κ (ag.contract κ).start s) :
    ag.Holds ⟨s, κs.map sys.start⟩ := by
  refine ⟨?_, hinv, ?_, ?_, ?_, ?_⟩
  case refine_2 => simpa [System.start, Function.comp_def] using hapart
  all_goals
    intro j hj
    obtain ⟨κ, hκ, rfl⟩ := List.mem_map.mp hj
  · exact hmember κ hκ
  · exact Contract.kept_nil
  · exact ag.keeps (hmember κ hκ)
  · exact hview κ hκ

/-- What a job that failed owes. -/
theorem Holds.throws {c : Config A R E S K} {j : Job A R E K} {e : E} (h : ag.Holds c)
    (hj : j ∈ c.jobs) (htask : j.task = .err e) :
    (ag.contract j.kind).throws (ag.account j) e := by
  have hkeeps := h.keeps j hj
  rwa [htask] at hkeeps

theorem Holds.panics {c : Config A R E S K} {j : Job A R E K} (h : ag.Holds c)
    (hj : j ∈ c.jobs) (htask : j.task = .panic) : (ag.contract j.kind).panics (ag.account j) := by
  have hkeeps := h.keeps j hj
  rwa [htask] at hkeeps

end Agreement

end Concurrent
