import Globed.Base.Locks
import Mathlib.Logic.Hydra

/-!
# Runs that come to an end

When no task is started from outside any more, every run of tasks that take locks is finite, in
whatever order their steps are taken (`wellFounded_step`): a step replaces one task by what is left
of it and by the tasks that it spawned, whose own steps spawn nothing, and a task asks for a lock
only once. Together with progress, such a run ends where all tasks have ended, and only there
(`Reach.atRest`).
-/

namespace Concurrent

open Proc Relation

variable {L Q A E S O K ρ α : Type} {V : Q → Type} {R : A → Type}

/-! ## What is left of a task -/

/-- `t'` is what is left of `t` after its next action, for some answer. -/
inductive Proc.Next : Proc A R E α → Proc A R E α → Prop
  | mk (a : A) (k : R a → Proc A R E α) (r : R a) : Next (k r) (.act a k)

namespace LockSystem

variable (sys : LockSystem L A R V E S O K)

/-- `t'` is what is left of `t` after its next step, or is spawned by it. -/
inductive Below : LockProc L V R E Unit → LockProc L V R E Unit → Prop
  | next {t t' : LockProc L V R E Unit} (h : t'.Next t) : Below t' t
  | spawned (a : A) (k : R a → LockProc L V R E Unit) (r : R a) (κ : K)
      (h : κ ∈ sys.spawned ⟨a, r⟩) : Below (sys.lockTask κ) (.act (.act a) k)

/-- The step spawns no task. -/
def Alone : LockStep L Q A → Prop
  | .act a => ∀ r, sys.spawned ⟨a, r⟩ = []
  | _ => True

variable {sys}

/-- A task that spawns nothing comes to an end. -/
theorem acc_of_only {t : LockProc L V R E Unit} (ht : t.Only sys.Alone) : Acc sys.Below t := by
  induction t with
  | act a k ih =>
    refine Acc.intro _ fun t' h => ?_
    cases h with
    | next h =>
      cases h with
      | mk a k r => exact ih r (ht.2 r)
    | spawned a k r κ hκ =>
      have hnone : sys.spawned ⟨a, r⟩ = [] := ht.1 r
      rw [hnone] at hκ
      cases hκ
  | _ => exact Acc.intro _ fun t' h => by cases h with | next h => cases h

/-- A task whose helpers spawn nothing comes to an end. -/
theorem wellFounded_below (hsp : ∀ e, ∀ κ ∈ sys.spawned e, (sys.lockTask κ).Only sys.Alone) :
    WellFounded sys.Below := by
  refine ⟨fun t => ?_⟩
  induction t with
  | act a k ih =>
    refine Acc.intro _ fun t' h => ?_
    cases h with
    | next h =>
      cases h with
      | mk a k r => exact ih r
    | spawned a k r κ hκ => exact acc_of_only (hsp _ κ hκ)
  | _ => exact Acc.intro _ fun t' h => by cases h with | next h => cases h

/-- The locks of a task spawn nothing. -/
theorem only_alone {t : LockProc L V R E Unit} {t' : Proc A R E Unit} (h : Erases t t')
    (ht : t'.Only fun a => ∀ r, sys.spawned ⟨a, r⟩ = []) : t.Only sys.Alone := by
  induction t generalizing t' with
  | act a k ih =>
    cases a with
    | lock l m => exact ⟨trivial, fun r => ih r h ht⟩
    | unlock l => exact ⟨trivial, fun r => ih r h ht⟩
    | look q => exact ⟨trivial, fun r => ih r (h r) ht⟩
    | act a =>
      obtain ⟨k', rfl, hk⟩ := h
      exact ⟨ht.1, fun r => ih r (hk r) (ht.2 r)⟩
  | _ => trivial

/-- Where a task with its locks has ended, so has the one without. -/
theorem ended_of_erases {t : LockProc L V R E Unit} {t' : Proc A R E Unit} (h : Erases t t')
    (ht : t.Ended) : t'.Ended := by
  cases t with
  | act a k => exact ht.elim
  | _ =>
    obtain rfl := h
    trivial

/-! ## The weight of a configuration -/

open Classical in
/-- Whether the task, of index `i`, has still to ask for the lock that it needs next. -/
noncomputable def asking (queue : L → List (Nat × Mode)) (i : Nat) :
    LockProc L V R E Unit → Nat
  | .act (.lock l _) _ => if ∃ m, (i, m) ∈ queue l then 0 else 1
  | _ => 0

noncomputable def weigh (queue : L → List (Nat × Mode)) (i : Nat) (th : Thread L A R V E K) :
    LockProc L V R E Unit × Nat :=
  (th.task, asking queue i th.task)

/-- Each task, with what it has still to ask for. -/
noncomputable def weight (c : LockConfig L A R V E S K) :
    Multiset (LockProc L V R E Unit × Nat) :=
  c.threads.mapIdx (weigh c.queue)

/-- A task has become lighter: it has gone on, or has asked for its lock. -/
abbrev Lighter (sys : LockSystem L A R V E S O K) :
    LockProc L V R E Unit × Nat → LockProc L V R E Unit × Nat → Prop :=
  Prod.Lex sys.Below (· < ·)

open Classical in
theorem asking_congr {queue queue' : L → List (Nat × Mode)} {i : Nat}
    (h : ∀ l m, (i, m) ∈ queue' l ↔ (i, m) ∈ queue l) (t : LockProc L V R E Unit) :
    asking queue' i t = asking queue i t := by
  cases t with
  | act a k =>
    cases a with
    | lock l m => exact if_congr (exists_congr (h l)) rfl rfl
    | _ => rfl
  | _ => rfl

/-- Replacing one element of a list. -/
theorem coe_set_add {β : Type} {xs : List β} {i : Nat} {x : β} (hi : xs[i]? = some x) (y : β) :
    ((xs.set i y : List β) : Multiset β) + {x} = (xs : Multiset β) + {y} := by
  induction xs generalizing i with
  | nil => cases hi
  | cons z xs ih =>
    cases i with
    | zero =>
      cases hi
      rw [List.set_cons_zero, add_comm, Multiset.singleton_add, add_comm, Multiset.singleton_add,
        ← Multiset.cons_coe, ← Multiset.cons_coe, Multiset.cons_swap]
    | succ i =>
      rw [List.set_cons_succ, ← Multiset.cons_coe, ← Multiset.cons_coe, Multiset.cons_add,
        Multiset.cons_add, ih hi]

/-- The weights after one thread has changed, and with it its own place in the queues. -/
theorem mapIdx_weigh_set {queue queue' : L → List (Nat × Mode)}
    {threads : List (Thread L A R V E K)} {i : Nat} (th : Thread L A R V E K)
    (hq : ∀ j, j ≠ i → ∀ l m, (j, m) ∈ queue' l ↔ (j, m) ∈ queue l) :
    (threads.set i th).mapIdx (weigh queue') =
      (threads.mapIdx (weigh queue)).set i (weigh queue' i th) := by
  apply List.ext_getElem?
  intro j
  rw [List.getElem?_mapIdx, List.getElem?_set, List.getElem?_set, List.getElem?_mapIdx,
    List.length_mapIdx]
  by_cases hj : i = j
  · subst hj
    by_cases hlt : i < threads.length <;> simp [hlt]
  · simp only [if_neg hj]
    cases threads[j]? with
    | none => rfl
    | some th' =>
      simp only [Option.map_some, weigh, asking_congr (hq j (Ne.symm hj))]

/-! ## Every step makes a configuration lighter -/

section Steps

variable [DecidableEq L] {c c' : LockConfig L A R V E S K}

omit [DecidableEq L] in
/-- One thread goes on, and spawns others. -/
theorem cutExpand_of_set (s' : S) (holders' : L → List (Nat × Mode))
    {queue' : L → List (Nat × Mode)} {i : Nat} {th th' : Thread L A R V E K}
    (hi : c.threads[i]? = some th)
    (hq : ∀ j, j ≠ i → ∀ l m, (j, m) ∈ queue' l ↔ (j, m) ∈ c.queue l)
    {spawned : List (Thread L A R V E K)} (hsp : ∀ x ∈ spawned, sys.Below x.task th.task)
    (hlight : sys.Lighter (weigh queue' i th') (weigh c.queue i th)) :
    CutExpand sys.Lighter
      (weight ⟨s', c.threads.set i th' ++ spawned, holders', queue'⟩) (weight c) := by
  let new := (spawned.mapIdx fun j => weigh queue' (j + (c.threads.set i th').length))
  have hweight : weight ⟨s', c.threads.set i th' ++ spawned, holders', queue'⟩ =
      ((c.threads.mapIdx (weigh c.queue)).set i (weigh queue' i th') :
        Multiset (LockProc L V R E Unit × Nat)) + new := by
    rw [weight, List.mapIdx_append, mapIdx_weigh_set th' hq, Multiset.coe_add]
  have hget : (c.threads.mapIdx (weigh c.queue))[i]? = some (weigh c.queue i th) := by
    rw [List.getElem?_mapIdx, hi, Option.map_some]
  refine ⟨weigh queue' i th' ::ₘ new, weigh c.queue i th, fun w hw => ?_, ?_⟩
  · rcases Multiset.mem_cons.mp hw with rfl | hw
    · exact hlight
    · obtain ⟨j, hj, rfl⟩ := List.mem_mapIdx.mp (Multiset.mem_coe.mp hw)
      exact .left _ _ (hsp _ (List.getElem_mem hj))
  · rw [hweight, add_right_comm, coe_set_add hget, weight, add_assoc, Multiset.singleton_add]

omit [DecidableEq L] in
/-- One thread goes on, and spawns nothing. -/
theorem cutExpand_of_next (s' : S) (holders' : L → List (Nat × Mode))
    {queue' : L → List (Nat × Mode)} {i : Nat} {κ : K} {a : LockStep L Q A}
    {k : LockStep.Answer V R a → LockProc L V R E Unit}
    (hi : c.threads[i]? = some ⟨κ, .act a k⟩)
    (hq : ∀ j, j ≠ i → ∀ l m, (j, m) ∈ queue' l ↔ (j, m) ∈ c.queue l)
    (r : LockStep.Answer V R a) :
    CutExpand sys.Lighter (weight ⟨s', c.threads.set i ⟨κ, k r⟩, holders', queue'⟩)
      (weight c) := by
  have hlight : sys.Lighter (weigh queue' i ⟨κ, k r⟩) (weigh c.queue i ⟨κ, .act a k⟩) :=
    .left _ _ (.next (.mk a k r))
  have hnone : ∀ x ∈ ([] : List (Thread L A R V E K)), sys.Below x.task (.act a k) :=
    fun x hx => nomatch hx
  have hcut := cutExpand_of_set s' holders' hi hq hnone hlight
  rwa [List.append_nil] at hcut

/-- A task that has asked for its lock need not ask again. -/
theorem cutExpand_of_request {i : Nat} {κ : K} {l : L} {m : Mode}
    {k : Unit → LockProc L V R E Unit} (hi : c.threads[i]? = some ⟨κ, .act (.lock l m) k⟩)
    (hq : ¬c.Waits i l) :
    CutExpand sys.Lighter
      (weight { c with queue := Function.update c.queue l (c.queue l ++ [(i, m)]) })
      (weight c) := by
  have hthreads : c.threads.set i ⟨κ, .act (.lock l m) k⟩ ++ [] = c.threads := by
    obtain ⟨hlt, hget⟩ := List.getElem?_eq_some_iff.mp hi
    rw [← hget, List.set_getElem_self, List.append_nil]
  have hothers : ∀ j, j ≠ i → ∀ l' m', (j, m') ∈ Function.update c.queue l
      (c.queue l ++ [(i, m)]) l' ↔ (j, m') ∈ c.queue l' := by
    intro j hj l' m'
    by_cases hl : l' = l
    · subst hl
      simp [hj]
    · rw [Function.update_of_ne hl]
  have hlight : sys.Lighter
      (weigh (Function.update c.queue l (c.queue l ++ [(i, m)])) i ⟨κ, .act (.lock l m) k⟩)
      (weigh c.queue i ⟨κ, .act (.lock l m) k⟩) := by
    have hbefore : asking c.queue i (.act (.lock l m) k : LockProc L V R E Unit) = 1 := if_neg hq
    have hafter : asking (Function.update c.queue l (c.queue l ++ [(i, m)])) i
        (.act (.lock l m) k : LockProc L V R E Unit) = 0 := if_pos ⟨m, by simp⟩
    rw [weigh, weigh, hbefore, hafter]
    exact .right _ Nat.zero_lt_one
  have hnone : ∀ x ∈ ([] : List (Thread L A R V E K)),
      sys.Below x.task (.act (.lock l m) k) := fun x hx => nomatch hx
  have hcut := cutExpand_of_set c.state c.holders hi hothers hnone hlight
  rwa [hthreads] at hcut

theorem cutExpand_of_step (h : sys.Step (fun _ => False) c c') :
    CutExpand sys.Lighter (weight c') (weight c) := by
  have hsame : ∀ {i : Nat}, ∀ j, j ≠ i → ∀ l m, (j, m) ∈ c.queue l ↔ (j, m) ∈ c.queue l :=
    fun _ _ _ _ => Iff.rfl
  cases h with
  | start hk => exact hk.elim
  | request hi hq => exact cutExpand_of_request hi hq
  | @grant i κ l m k rest hi hq hm =>
    refine cutExpand_of_next c.state _ hi (fun j hj l' m' => ?_) ()
    by_cases hl : l' = l
    · subst hl
      simp [hq, hj]
    · rw [Function.update_of_ne hl]
  | release hi => exact cutExpand_of_next c.state _ hi hsame ()
  | look o hi ho => exact cutExpand_of_next c.state c.holders hi hsame _
  | @act i κ a k o hi ho =>
    refine cutExpand_of_set _ c.holders hi hsame (fun x hx => ?_) (.left _ _ (.next (.mk _ k _)))
    obtain ⟨κ', hκ', rfl⟩ := List.mem_map.mp hx
    exact .spawned a k _ κ' hκ'

/-- **Closed runs are finite**: steps without arrivals are well-founded. -/
theorem wellFounded_step (hsp : ∀ e, ∀ κ ∈ sys.spawned e,
      (sys.task κ).Only fun a => ∀ r, sys.spawned ⟨a, r⟩ = []) :
    WellFounded fun c' c : LockConfig L A R V E S K => sys.Step (fun _ => False) c c' := by
  have hbelow : WellFounded sys.Below :=
    wellFounded_below fun e κ hκ => only_alone (sys.erases κ) (hsp e κ hκ)
  have hlight : WellFounded sys.Lighter := hbelow.prod_lex Nat.lt_wfRel.wf
  exact Subrelation.wf cutExpand_of_step (InvImage.wf weight hlight.cutExpand)

/-- A run without arrivals can be made until no task can go on. -/
theorem exists_stuck (hsp : ∀ e, ∀ κ ∈ sys.spawned e,
      (sys.task κ).Only fun a => ∀ r, sys.spawned ⟨a, r⟩ = [])
    (c : LockConfig L A R V E S K) :
    ∃ c', sys.Reach (fun _ => False) c c' ∧ ∀ c'', ¬sys.Step (fun _ => False) c' c'' := by
  obtain ⟨c', hrun, hmin⟩ :=
    (wellFounded_step hsp).has_min {c' | sys.Reach (fun _ => False) c c'} ⟨c, .refl⟩
  exact ⟨c', hrun, fun c'' hs => hmin c'' (hrun.tail hs) hs⟩

end Steps

/-! ## Runs that end -/

section Drain

variable [DecidableEq L] [Preorder ρ] [WellFoundedGT ρ] {rank : L → ρ} {starts : K → Prop}
  {c : LockConfig L A R V E S K}

/-- All tasks have ended, no lock is held, and nobody waits for one. -/
structure AtRest (c : LockConfig L A R V E S K) : Prop where
  ended : ∀ th ∈ c.threads, th.task.Ended
  free : ∀ i l, ¬c.Holds i l
  idle : ∀ i l, ¬c.Waits i l

omit [DecidableEq L] [WellFoundedGT ρ] in
/-- Where all tasks have ended, the locks are free. -/
theorem atRest_of_ended (h : c.InOrder rank) (hended : ∀ th ∈ c.threads, th.task.Ended) :
    AtRest c where
  ended := hended
  free := by
    rintro i l ⟨m, hm⟩
    have hi := List.getElem?_eq_getElem (h.started l i m hm)
    have hnone : c.held i = ∅ := (h.ordered i _ hi).of_ended (hended _ (List.getElem_mem _))
    exact (hnone ▸ ⟨m, hm⟩ : l ∈ (∅ : Set L))
  idle := by
    rintro i l ⟨m, hm⟩
    obtain ⟨κ, k, hi⟩ := h.waiting l i m hm
    exact hended _ (List.mem_of_getElem? hi)

omit [Preorder ρ] [WellFoundedGT ρ] in
/-- A run without arrivals is a run with any. -/
theorem Reach.of_closed {c' : LockConfig L A R V E S K} (h : sys.Reach (fun _ => False) c c') :
    sys.Reach starts c c' := by
  refine Relation.ReflTransGen.mono (fun a b hs => ?_) _ _ h
  cases hs with
  | start hk => exact hk.elim
  | request hi hq => exact .request hi hq
  | grant hi hq hm => exact .grant hi hq hm
  | release hi => exact .release hi
  | look o hi ho => exact .look o hi ho
  | act o hi ho => exact .act o hi ho

/-- **Runs drain**: a run that can only go on with further arrivals is at rest. -/
theorem Reach.atRest (hsys : ∀ k, Ordered rank ∅ (sys.lockTask k) ∅)
    (hin : ∀ s, ∃ o, sys.machine.inputs s o) {s : S} (h : sys.Reach starts (.initial s) c)
    (hlast : ∀ c', ¬sys.Step (fun _ => False) c c') : AtRest c := by
  refine atRest_of_ended (Reach.inOrder hsys h) ?_
  by_contra hgoing
  push Not at hgoing
  obtain ⟨c', hs⟩ := Reach.progress hsys hin h hgoing
  exact hlast c' hs

omit [DecidableEq L] [WellFoundedGT ρ] in
/-- Where all tasks with their locks have ended, so have those without. -/
theorem quiet_of_projects {ths : List (Thread L A R V E K)} {jobs : List (Job A R E K)}
    (h : List.Forall₂ Projects ths jobs) (hended : ∀ th ∈ ths, th.task.Ended) :
    ∀ j ∈ jobs, j.task.Ended := by
  intro j hj
  obtain ⟨i, hi, rfl⟩ := List.mem_iff_getElem.mp hj
  have hi' : i < ths.length := h.length_eq ▸ hi
  exact ended_of_erases (h.get hi' hi).2 (hended _ (List.getElem_mem hi'))

/-- What a task that is started at rest comes to without arrivals, it comes to without locks. -/
theorem AtRest.handles {k : K} {c' : LockConfig L A R V E S K} (hrest : AtRest c)
    (hrun : sys.Reach (fun _ => False)
      { c with threads := c.threads ++ [sys.startThread k] } c') (hrest' : AtRest c') :
    ∃ d, sys.toSystem.Handles c.state k d ∧ d.state = c'.state := by
  obtain ⟨ths, jobs, hthreads, hreach, hproj⟩ := Reach.erases_after hrest.ended rfl
    (List.Forall₂.cons (projects_start k) .nil) hrun
  refine ⟨⟨c'.state, jobs⟩, ⟨hreach, ?_⟩, rfl⟩
  refine quiet_of_projects hproj fun th hth => hrest'.ended th ?_
  rw [hthreads]
  exact List.mem_append_right _ hth

/-- At rest every task can be handled. -/
theorem Reach.exists_handled (hsys : ∀ k, Ordered rank ∅ (sys.lockTask k) ∅)
    (hin : ∀ s, ∃ o, sys.machine.inputs s o)
    (hsp : ∀ e, ∀ κ ∈ sys.spawned e, (sys.task κ).Only fun a => ∀ r, sys.spawned ⟨a, r⟩ = [])
    {s : S} (h : sys.Reach starts (.initial s) c) (hrest : AtRest c) {k : K} (hk : starts k) :
    ∃ c' d, sys.Reach starts (.initial s) c' ∧ AtRest c' ∧ sys.toSystem.Handles c.state k d ∧
      d.state = c'.state := by
  have hstart : sys.Reach starts (.initial s)
      { c with threads := c.threads ++ [sys.startThread k] } := h.tail (.start hk)
  obtain ⟨c', hrun, hlast⟩ :=
    exists_stuck hsp { c with threads := c.threads ++ [sys.startThread k] }
  have hreach := hstart.trans (Reach.of_closed hrun)
  have hrest' := Reach.atRest hsys hin hreach hlast
  obtain ⟨d, hd, hstate⟩ := hrest.handles hrun hrest'
  exact ⟨c', d, hreach, hrest', hd, hstate⟩

end Drain

end LockSystem

end Concurrent
