import Globed.Base.Pool
import Mathlib.Data.Set.Insert
import Mathlib.Order.WellFounded
import Mathlib.Logic.Function.Basic
import Mathlib.Data.List.Forall2

/-!
# Tasks that take locks

Reader-writer locks that are granted in the order in which they are asked for: a reader that comes
after a waiting writer waits, too. A task is a tree of steps: it asks for a lock, gives one back,
looks at the shared state, or performs an action of a `Machine`.

If every task asks only for locks of a higher rank than those it holds (`Ordered`), then no set of
tasks is ever deadlocked (`Reach.not_deadlocked`). A task without its lock steps and looks is a task
of a `System` (`Erases`), and a run of tasks with locks is a run of that system (`Reach.erases`).
-/

namespace Concurrent

open Proc

inductive Mode
  | read
  | write
  deriving DecidableEq

/-- Whether a lock with these holders can be granted. -/
def Mode.Admits (holders : List (Nat × Mode)) : Mode → Prop
  | read => ∀ h ∈ holders, h.2 = read
  | write => holders = []

/-- A step of a task. A look only reads the shared state. -/
inductive LockStep (L Q A : Type)
  | lock (l : L) (mode : Mode)
  | unlock (l : L)
  | look (q : Q)
  | act (a : A)

@[reducible]
def LockStep.Answer {L Q A : Type} (V : Q → Type) (R : A → Type) : LockStep L Q A → Type
  | lock _ _ => Unit
  | unlock _ => Unit
  | look q => V q
  | act a => R a

/-- A task that takes the locks `L`, with looks `Q` and actions `A`. -/
abbrev LockProc (L : Type) {Q A : Type} (V : Q → Type) (R : A → Type) (E α : Type) :=
  Proc (LockStep L Q A) (LockStep.Answer V R) E α

variable {L Q A E S O K α β ρ : Type} {V : Q → Type} {R : A → Type}

/-! ## Building tasks -/

/-- Perform one action when the task has reached its end, in whatever way. -/
def Proc.atEnd {A : Type} {R : A → Type} (a : A) : Proc A R E α → Proc A R E α
  | .ret x => .act a fun _ => .ret x
  | .err e => .act a fun _ => .err e
  | .panic => .act a fun _ => .panic
  | .act b k => .act b fun r => (k r).atEnd a

namespace LockProc

/-- Hold the lock during `t`: a guard that is dropped at the end of its scope. -/
def withLock (l : L) (mode : Mode) (t : LockProc L V R E α) : LockProc L V R E α :=
  .act (.lock l mode) fun _ => t.atEnd (.unlock l)

def look (q : Q) : LockProc L V R E (V q) := .act (.look q) .ret

def perform (a : A) : LockProc L V R E (R a) := .act (.act a) .ret

/-- A task that takes no locks. -/
def lift : Proc A R E α → LockProc L V R E α
  | .ret x => .ret x
  | .err e => .err e
  | .panic => .panic
  | .act a k => .act (.act a) fun r => lift (k r)

end LockProc

/-! ## Tasks that take locks in order -/

section Ordered

variable [Preorder ρ] {rank : L → ρ} {fin held : Set L}

/-- The task, which holds the locks `held`, asks only for locks of a higher rank than those it
holds, and holds the locks `fin` where it ends. -/
def Ordered (rank : L → ρ) (fin : Set L) : LockProc L V R E α → Set L → Prop
  | .ret _, held => held = fin
  | .err _, held => held = fin
  | .panic, held => held = fin
  | .act (.lock l _) k, held =>
    (∀ l' ∈ held, rank l' < rank l) ∧ Ordered rank fin (k ()) (insert l held)
  | .act (.unlock l) k, held => Ordered rank fin (k ()) (held \ {l})
  | .act (.look _) k, held => ∀ r, Ordered rank fin (k r) held
  | .act (.act _) k, held => ∀ r, Ordered rank fin (k r) held

theorem Ordered.bind {t : LockProc L V R E α} {f : α → LockProc L V R E β}
    (ht : Ordered rank fin t held) (hf : ∀ x, Ordered rank fin (f x) fin) :
    Ordered rank fin (t >>= f) held := by
  induction t generalizing held with
  | ret x =>
    obtain rfl := ht
    exact hf x
  | err e => exact ht
  | panic => exact ht
  | act a k ih =>
    cases a with
    | lock l mode => exact ⟨ht.1, ih () ht.2⟩
    | unlock l => exact ih () ht
    | look q => exact fun r => ih r (ht r)
    | act a => exact fun r => ih r (ht r)

theorem Ordered.attempt {E' : Type} {t : LockProc L V R E α} (ht : Ordered rank fin t held) :
    Ordered rank fin (t.attempt : LockProc L V R E' (Except E α)) held := by
  induction t generalizing held with
  | act a k ih =>
    cases a with
    | lock l mode => exact ⟨ht.1, ih () ht.2⟩
    | unlock l => exact ih () ht
    | look q => exact fun r => ih r (ht r)
    | act a => exact fun r => ih r (ht r)
  | _ => exact ht

theorem Ordered.of_ended {t : LockProc L V R E α} (ht : Ordered rank fin t held)
    (hend : t.Ended) : held = fin := by
  cases t with
  | act a k => exact hend.elim
  | _ => exact ht

theorem ordered_forM {γ : Type} {f : γ → LockProc L V R E PUnit} :
    ∀ xs : List γ, (∀ x ∈ xs, Ordered rank fin (f x) fin) → Ordered rank fin (xs.forM f) fin
  | [], _ => rfl
  | x :: xs, h =>
    (h x List.mem_cons_self).bind fun _ =>
      ordered_forM xs fun y hy => h y (List.mem_cons_of_mem x hy)

theorem Ordered.atEnd {mid : Set L} {l : L} {t : LockProc L V R E α}
    (ht : Ordered rank mid t held) (hfin : mid \ {l} = fin) :
    Ordered rank fin (t.atEnd (.unlock l)) held := by
  induction t generalizing held with
  | act a k ih =>
    cases a with
    | lock l mode => exact ⟨ht.1, ih () ht.2⟩
    | unlock l => exact ih () ht
    | look q => exact fun r => ih r (ht r)
    | act a => exact fun r => ih r (ht r)
  | _ =>
    obtain rfl := ht
    exact hfin

end Ordered

/-- A lock is held in a scope of its own. -/
theorem ordered_withLock [Preorder ρ] {rank : L → ρ} {held : Set L} {l : L} (mode : Mode)
    {t : LockProc L V R E α} (hrank : ∀ l' ∈ held, rank l' < rank l)
    (ht : Ordered rank (insert l held) t (insert l held)) :
    Ordered rank held (LockProc.withLock l mode t) held := by
  refine ⟨hrank, ht.atEnd ?_⟩
  apply Set.insert_sdiff_self_of_notMem
  exact fun hl => lt_irrefl _ (hrank l hl)

/-! ## Tasks without their locks -/

/-- `t` is what is left of the task without its lock steps and its looks. -/
def Erases : LockProc L V R E α → Proc A R E α → Prop
  | .ret x, t => t = .ret x
  | .err e, t => t = .err e
  | .panic, t => t = .panic
  | .act (.lock _ _) k, t => Erases (k ()) t
  | .act (.unlock _) k, t => Erases (k ()) t
  | .act (.look _) k, t => ∀ r, Erases (k r) t
  | .act (.act a) k, t => ∃ k', t = .act a k' ∧ ∀ r, Erases (k r) (k' r)

namespace Erases

theorem bind {t : LockProc L V R E α} {t' : Proc A R E α} {f : α → LockProc L V R E β}
    {f' : α → Proc A R E β} (ht : Erases t t') (hf : ∀ x, Erases (f x) (f' x)) :
    Erases (t >>= f) (t' >>= f') := by
  induction t generalizing t' with
  | ret x =>
    obtain rfl := ht
    exact hf x
  | err e =>
    obtain rfl := ht
    rfl
  | panic =>
    obtain rfl := ht
    rfl
  | act a k ih =>
    cases a with
    | lock l mode => exact ih () ht
    | unlock l => exact ih () ht
    | look q => exact fun r => ih r (ht r)
    | act a =>
      obtain ⟨k', rfl, hk⟩ := ht
      exact ⟨fun r => k' r >>= f', rfl, fun r => ih r (hk r)⟩

theorem attempt {E' : Type} {t : LockProc L V R E α} {t' : Proc A R E α} (ht : Erases t t') :
    Erases (t.attempt : LockProc L V R E' (Except E α)) t'.attempt := by
  induction t generalizing t' with
  | act a k ih =>
    cases a with
    | lock l mode => exact ih () ht
    | unlock l => exact ih () ht
    | look q => exact fun r => ih r (ht r)
    | act a =>
      obtain ⟨k', rfl, hk⟩ := ht
      exact ⟨fun r => (k' r).attempt, rfl, fun r => ih r (hk r)⟩
  | _ =>
    obtain rfl := ht
    rfl

theorem forM {γ : Type} {f : γ → LockProc L V R E PUnit} {f' : γ → Proc A R E PUnit}
    (hf : ∀ x, Erases (f x) (f' x)) : ∀ xs : List γ, Erases (xs.forM f) (xs.forM f')
  | [] => rfl
  | x :: xs => (hf x).bind fun _ => forM hf xs

theorem atEnd {l : L} {t : LockProc L V R E α} {t' : Proc A R E α} (ht : Erases t t') :
    Erases (t.atEnd (.unlock l)) t' := by
  induction t generalizing t' with
  | act a k ih =>
    cases a with
    | lock l mode => exact ih () ht
    | unlock l => exact ih () ht
    | look q => exact fun r => ih r (ht r)
    | act a =>
      obtain ⟨k', rfl, hk⟩ := ht
      exact ⟨k', rfl, fun r => ih r (hk r)⟩
  | _ => exact ht

theorem withLock {t : LockProc L V R E α} {t' : Proc A R E α} (ht : Erases t t') (l : L)
    (mode : Mode) : Erases (LockProc.withLock l mode t) t' :=
  ht.atEnd

theorem perform (a : A) :
    Erases (LockProc.perform a : LockProc L V R E (R a)) (Proc.perform a) :=
  ⟨.ret, rfl, fun _ => rfl⟩

end Erases

/-! ## Tasks with their locks and without -/

/-- The task, while it holds the locks `held`, takes further ones in order, gives them back, and
does what `t'` does. -/
structure Guarded [Preorder ρ] (rank : L → ρ) (held : Set L) (t : LockProc L V R E α)
    (t' : Proc A R E α) : Prop where
  ordered : Ordered rank held t held
  erases : Erases t t'

namespace Guarded

section

variable [Preorder ρ] {rank : L → ρ} {held : Set L} {t : LockProc L V R E α} {t' : Proc A R E α}

theorem ret (x : α) : Guarded rank held (.ret x : LockProc L V R E α) (.ret x) := ⟨rfl, rfl⟩

theorem err (e : E) : Guarded rank held (.err e : LockProc L V R E α) (.err e) := ⟨rfl, rfl⟩

theorem panic : Guarded rank held (.panic : LockProc L V R E α) .panic := ⟨rfl, rfl⟩

theorem bind (h : Guarded rank held t t') {f : α → LockProc L V R E β} {f' : α → Proc A R E β}
    (hf : ∀ x, Guarded rank held (f x) (f' x)) : Guarded rank held (t >>= f) (t' >>= f') :=
  ⟨h.ordered.bind fun x => (hf x).ordered, h.erases.bind fun x => (hf x).erases⟩

theorem attempt {E' : Type} (h : Guarded rank held t t') :
    Guarded rank held (t.attempt : LockProc L V R E' (Except E α)) t'.attempt :=
  ⟨h.ordered.attempt, h.erases.attempt⟩

theorem forM {γ : Type} {f : γ → LockProc L V R E PUnit} {f' : γ → Proc A R E PUnit}
    (xs : List γ) (hf : ∀ x, Guarded rank held (f x) (f' x)) :
    Guarded rank held (xs.forM f) (xs.forM f') :=
  ⟨ordered_forM xs fun x _ => (hf x).ordered, .forM (fun x => (hf x).erases) xs⟩

/-- A loop of which nothing is left without the locks. -/
theorem forM_silent {γ : Type} {f : γ → LockProc L V R E PUnit} (xs : List γ)
    (hf : ∀ x, Guarded rank held (f x) (.ret .unit)) :
    Guarded rank held (xs.forM f) (.ret .unit) := by
  induction xs with
  | nil => exact ret _
  | cons x xs ih => exact (hf x).bind fun _ => ih

theorem perform (a : A) :
    Guarded rank held (LockProc.perform a : LockProc L V R E (R a)) (Proc.perform a) :=
  ⟨fun _ => rfl, .perform a⟩

theorem lift (t : Proc A R E α) : Guarded rank held (LockProc.lift t : LockProc L V R E α) t := by
  induction t with
  | ret x => exact ret x
  | err e => exact err e
  | panic => exact panic
  | act a k ih => exact ⟨fun r => (ih r).ordered, k, rfl, fun r => (ih r).erases⟩

theorem look (q : Q) {f : V q → LockProc L V R E α} (hf : ∀ r, Guarded rank held (f r) t') :
    Guarded rank held (LockProc.look q >>= f) t' :=
  ⟨fun r => (hf r).ordered, fun r => (hf r).erases⟩

end

theorem withLock [Preorder ρ] {rank : L → ρ} {held : Set L} {t : LockProc L V R E α}
    {t' : Proc A R E α} {l : L} (mode : Mode) (hrank : ∀ l' ∈ held, rank l' < rank l)
    (h : Guarded rank (insert l held) t t') : Guarded rank held (LockProc.withLock l mode t) t' :=
  ⟨ordered_withLock mode hrank h.ordered, h.erases.withLock l mode⟩

end Guarded

/-! ## Configurations -/

/-- A started task: what it is, and what is left of it. -/
structure Thread (L A : Type) (R : A → Type) {Q : Type} (V : Q → Type) (E K : Type) where
  kind : K
  task : LockProc L V R E Unit

/-- The shared state, the started tasks, and for each lock the tasks that hold it and those that
wait for it, in the order in which they asked. A task is named by its index. -/
structure LockConfig (L A : Type) (R : A → Type) {Q : Type} (V : Q → Type) (E S K : Type) where
  state : S
  threads : List (Thread L A R V E K)
  holders : L → List (Nat × Mode)
  queue : L → List (Nat × Mode)

def heldBy (holders : L → List (Nat × Mode)) (i : Nat) : Set L := {l | ∃ m, (i, m) ∈ holders l}

namespace LockConfig

variable (c : LockConfig L A R V E S K)

def Holds (i : Nat) (l : L) : Prop := ∃ m, (i, m) ∈ c.holders l

def Waits (i : Nat) (l : L) : Prop := ∃ m, (i, m) ∈ c.queue l

/-- Task `j` asked for the lock before task `i` did. -/
def Ahead (j i : Nat) (l : L) : Prop := ∃ m, (j, m) ∈ (c.queue l).takeWhile fun p => p.1 ≠ i

/-- Each of these tasks waits for a lock that one of them holds, or asked for before it. -/
def Deadlocked (D : Set Nat) : Prop :=
  D.Nonempty ∧ ∀ i ∈ D, ∃ l, c.Waits i l ∧ ∃ j ∈ D, c.Holds j l ∨ c.Ahead j i l

/-- The locks that a task holds. -/
def held (i : Nat) : Set L := heldBy c.holders i

/-- Nothing is going on. -/
def initial (s : S) : LockConfig L A R V E S K := ⟨s, [], fun _ => [], fun _ => []⟩

section InOrder

variable [Preorder ρ] {rank : L → ρ} {c : LockConfig L A R V E S K}

/-- Who waits is about to take the lock, nobody waits twice, and every task goes on in the order of
the ranks. -/
structure InOrder (rank : L → ρ) (c : LockConfig L A R V E S K) : Prop where
  waiting : ∀ l i m, (i, m) ∈ c.queue l → ∃ κ k, c.threads[i]? = some ⟨κ, .act (.lock l m) k⟩
  nodup : ∀ l, ((c.queue l).map Prod.fst).Nodup
  started : ∀ l i m, (i, m) ∈ c.holders l → i < c.threads.length
  ordered : ∀ i th, c.threads[i]? = some th → Ordered rank ∅ th.task (c.held i)

theorem heldBy_eq_empty {holders : L → List (Nat × Mode)} {n i : Nat}
    (h : ∀ l j m, (j, m) ∈ holders l → j < n) (hi : n ≤ i) : heldBy holders i = ∅ := by
  rw [Set.eq_empty_iff_forall_notMem]
  rintro l ⟨m, hm⟩
  exact absurd (h l i m hm) (Nat.not_lt.mpr hi)

/-- New tasks hold nothing. -/
theorem InOrder.append (h : InOrder rank c) {extra : List (Thread L A R V E K)}
    (hextra : ∀ th ∈ extra, Ordered rank ∅ th.task ∅) :
    InOrder rank { c with threads := c.threads ++ extra } where
  waiting l i m hm := by
    obtain ⟨κ, k, hi⟩ := h.waiting l i m hm
    have hlt : i < c.threads.length := (List.getElem?_eq_some_iff.mp hi).1
    exact ⟨κ, k, (List.getElem?_append_left hlt).trans hi⟩
  nodup := h.nodup
  started l i m hm := by
    have hlt := h.started l i m hm
    rw [List.length_append]
    omega
  ordered i th hi := by
    rcases Nat.lt_or_ge i c.threads.length with hlt | hge
    · rw [List.getElem?_append_left hlt] at hi
      exact h.ordered i th hi
    · rw [List.getElem?_append_right hge] at hi
      have hempty : heldBy c.holders i = ∅ := heldBy_eq_empty h.started hge
      change Ordered rank ∅ th.task (heldBy c.holders i)
      rw [hempty]
      exact hextra th (List.mem_of_getElem? hi)

/-- One task goes on, and neither waits any more nor touches what other tasks hold. -/
theorem InOrder.set (h : InOrder rank c) {i : Nat} {th : Thread L A R V E K}
    (hi : c.threads[i]? = some th) {s : S} {κ : K} {t : LockProc L V R E Unit}
    {holders queue : L → List (Nat × Mode)}
    (hqueue : ∀ l j m, (j, m) ∈ queue l → (j, m) ∈ c.queue l ∧ j ≠ i)
    (hnodup : ∀ l, ((queue l).map Prod.fst).Nodup)
    (hothers : ∀ j, j ≠ i → heldBy holders j = c.held j)
    (ht : Ordered rank ∅ t (heldBy holders i)) :
    InOrder rank ⟨s, c.threads.set i ⟨κ, t⟩, holders, queue⟩ where
  waiting l j m hm := by
    obtain ⟨hm', hne⟩ := hqueue l j m hm
    obtain ⟨κ', k, hj⟩ := h.waiting l j m hm'
    exact ⟨κ', k, (List.getElem?_set_ne hne.symm).trans hj⟩
  nodup := hnodup
  started l j m hm := by
    rw [List.length_set]
    by_cases hj : j = i
    · subst hj
      exact (List.getElem?_eq_some_iff.mp hi).1
    · have hheld : l ∈ c.held j := by
        rw [← hothers j hj]
        exact ⟨m, hm⟩
      obtain ⟨m', hm'⟩ := hheld
      exact h.started l j m' hm'
  ordered j th' hj := by
    by_cases hji : j = i
    · subst hji
      rw [List.getElem?_set_self (List.getElem?_eq_some_iff.mp hi).1] at hj
      cases hj
      exact ht
    · rw [List.getElem?_set_ne (Ne.symm hji)] at hj
      change Ordered rank ∅ th'.task (heldBy holders j)
      rw [hothers j hji]
      exact h.ordered j th' hj

/-- A task that is not about to take a lock does not wait. -/
theorem InOrder.not_waiting (h : InOrder rank c) {i : Nat} {th : Thread L A R V E K}
    (hi : c.threads[i]? = some th) (hlock : ∀ l m k, th.task ≠ .act (.lock l m) k) (l : L) (j : Nat)
    (m : Mode) (hm : (j, m) ∈ c.queue l) : (j, m) ∈ c.queue l ∧ j ≠ i := by
  refine ⟨hm, ?_⟩
  rintro rfl
  obtain ⟨κ, k, hj⟩ := h.waiting l j m hm
  rw [hi] at hj
  cases hj
  exact hlock l m k rfl

/-- Who waits, waits for one lock, of a higher rank than those it holds. -/
theorem InOrder.waits (h : InOrder rank c) {i : Nat} {l : L} (hw : c.Waits i l) :
    (∀ l', c.Waits i l' → l' = l) ∧ ∀ l', c.Holds i l' → rank l' < rank l := by
  obtain ⟨m, hm⟩ := hw
  obtain ⟨κ, k, hi⟩ := h.waiting l i m hm
  constructor
  · rintro l' ⟨m', hm'⟩
    obtain ⟨κ', k', hi'⟩ := h.waiting l' i m' hm'
    rw [hi] at hi'
    cases hi'
    rfl
  · intro l' hl'
    exact (h.ordered i _ hi).1 l' hl'

/-- Of the tasks of a set that wait for a lock, one has no other one of them ahead. -/
theorem exists_first_waiting {D : Set Nat} {l : L} (hD : ∃ i ∈ D, c.Waits i l) :
    ∃ i ∈ D, c.Waits i l ∧ ∀ j ∈ D, ¬c.Ahead j i l := by
  classical
  obtain ⟨i, hi, m, hm⟩ := hD
  have hsome : ((c.queue l).find? fun p => p.1 ∈ D).isSome = true := by
    rw [List.find?_isSome]
    exact ⟨(i, m), hm, decide_eq_true hi⟩
  obtain ⟨⟨i₀, m₀⟩, hfind⟩ := Option.isSome_iff_exists.mp hsome
  obtain ⟨hmem, pre, post, hq, hpre⟩ := List.find?_eq_some_iff_append.mp hfind
  have hi₀ : i₀ ∈ D := of_decide_eq_true hmem
  have hnot : ∀ p ∈ pre, p.1 ∉ D := by
    intro p hp
    simpa using hpre p hp
  refine ⟨i₀, hi₀, ⟨m₀, hq ▸ List.mem_append_right _ List.mem_cons_self⟩, ?_⟩
  rintro j hj ⟨m', hm'⟩
  have htake : (c.queue l).takeWhile (fun p => p.1 ≠ i₀) = pre := by
    rw [hq, List.takeWhile_append_of_pos, List.takeWhile_cons_of_neg, List.append_nil]
    · simp
    · intro p hp
      have hne : p.1 ≠ i₀ := fun heq => hnot p hp (heq ▸ hi₀)
      simpa using hne
  rw [htake] at hm'
  exact hnot _ hm' hj

/-- **Deadlock freedom**: if every task takes locks in the order of their ranks, and no chain of
ranks ascends for ever, then no set of tasks is deadlocked. -/
theorem InOrder.not_deadlocked [WellFoundedGT ρ] (h : InOrder rank c) (D : Set Nat) :
    ¬c.Deadlocked D := by
  rintro ⟨⟨i, hi⟩, hD⟩
  -- a lock of the highest rank among those that the tasks wait for
  let wanted : Set L := {l | ∃ i ∈ D, c.Waits i l}
  have hne : (rank '' wanted).Nonempty := by
    obtain ⟨l, hl, -⟩ := hD i hi
    exact ⟨rank l, l, ⟨i, hi, hl⟩, rfl⟩
  obtain ⟨_, ⟨l, hl, rfl⟩, hmax⟩ := wellFounded_gt.has_min (rank '' wanted) hne
  obtain ⟨i₀, hi₀, hwaits, hfirst⟩ := exists_first_waiting hl
  obtain ⟨l₀, hl₀, j, hj, hblocks⟩ := hD i₀ hi₀
  obtain rfl := (h.waits hwaits).1 l₀ hl₀
  rcases hblocks with hholds | hahead
  · obtain ⟨l', hl', -⟩ := hD j hj
    exact hmax _ ⟨l', ⟨j, hj, hl'⟩, rfl⟩ ((h.waits hl').2 l₀ hholds)
  · exact hfirst j hj hahead

end InOrder

end LockConfig

/-! ## Runs -/

/-- A system whose tasks take locks. -/
structure LockSystem (L A : Type) (R : A → Type) {Q : Type} (V : Q → Type) (E S O K : Type) extends
    System A R E S O K where
  look : O → (q : Q) → S → V q
  lockTask : K → LockProc L V R E Unit
  erases : ∀ k, Erases (lockTask k) (task k)

namespace LockSystem

section Step

variable [DecidableEq L] (sys : LockSystem L A R V E S O K)

def startThread (k : K) : Thread L A R V E K := ⟨k, sys.lockTask k⟩

open Function in
/-- A task is started, asks for a lock, gets it, gives it back, looks at the state, or acts. -/
inductive Step (starts : K → Prop) :
    LockConfig L A R V E S K → LockConfig L A R V E S K → Prop
  | start {c k} (h : starts k) :
    Step starts c { c with threads := c.threads ++ [sys.startThread k] }
  | request {c i κ l m k} (hi : c.threads[i]? = some ⟨κ, .act (.lock l m) k⟩)
      (hq : ¬c.Waits i l) :
      Step starts c { c with queue := update c.queue l (c.queue l ++ [(i, m)]) }
  | grant {c i κ l m k rest} (hi : c.threads[i]? = some ⟨κ, .act (.lock l m) k⟩)
      (hq : c.queue l = (i, m) :: rest) (hm : m.Admits (c.holders l)) :
      Step starts c
        { c with
          threads := c.threads.set i ⟨κ, k ()⟩
          holders := update c.holders l ((i, m) :: c.holders l)
          queue := update c.queue l rest }
  | release {c i κ l k} (hi : c.threads[i]? = some ⟨κ, .act (.unlock l) k⟩) :
      Step starts c
        { c with
          threads := c.threads.set i ⟨κ, k ()⟩
          holders := update c.holders l ((c.holders l).filter fun p => p.1 ≠ i) }
  | look {c i κ q k} (o : O) (hi : c.threads[i]? = some ⟨κ, .act (.look q) k⟩)
      (ho : sys.machine.inputs c.state o) :
      Step starts c { c with threads := c.threads.set i ⟨κ, k (sys.look o q c.state)⟩ }
  | act {c i κ a k} (o : O) (hi : c.threads[i]? = some ⟨κ, .act (.act a) k⟩)
      (ho : sys.machine.inputs c.state o) :
      Step starts c
        { c with
          state := (sys.machine.step o a c.state).2
          threads := c.threads.set i ⟨κ, k (sys.machine.step o a c.state).1⟩ ++
            (sys.spawned ⟨a, (sys.machine.step o a c.state).1⟩).map sys.startThread }

/-- Any number of steps. -/
abbrev Reach (starts : K → Prop) : LockConfig L A R V E S K → LockConfig L A R V E S K → Prop :=
  Relation.ReflTransGen (sys.Step starts)

end Step

/-! ## Runs in order -/

section Rank

variable [DecidableEq L] {sys : LockSystem L A R V E S O K} {starts : K → Prop}
variable [Preorder ρ] {rank : L → ρ}
  {c c' : LockConfig L A R V E S K}

open LockConfig

theorem heldBy_grant (holders : L → List (Nat × Mode)) (i j : Nat) (l : L) (m : Mode) :
    heldBy (Function.update holders l ((i, m) :: holders l)) j =
      if j = i then insert l (heldBy holders j) else heldBy holders j := by
  ext l'
  by_cases hl : l' = l
  · subst hl
    by_cases hj : j = i <;> simp [heldBy, hj]
  · by_cases hj : j = i <;> simp [heldBy, hl, hj]

theorem heldBy_release (holders : L → List (Nat × Mode)) (i j : Nat) (l : L) :
    heldBy (Function.update holders l ((holders l).filter fun p => p.1 ≠ i)) j =
      if j = i then heldBy holders j \ {l} else heldBy holders j := by
  ext l'
  by_cases hl : l' = l
  · subst hl
    by_cases hj : j = i <;> simp [heldBy, hj]
  · by_cases hj : j = i <;> simp [heldBy, hl, hj]

/-- A request puts its thread at the end of the queue, where it was not. -/
theorem inOrder_request (h : InOrder rank c) {i : Nat} {κ : K} {l : L} {m : Mode}
    {k : Unit → _} (hi : c.threads[i]? = some ⟨κ, .act (.lock l m) k⟩) (hq : ¬c.Waits i l) :
    InOrder rank { c with queue := Function.update c.queue l (c.queue l ++ [(i, m)]) } := by
  refine ⟨fun l' j m' hm => ?_, fun l' => ?_, h.started, h.ordered⟩
  · dsimp only at hm ⊢
    by_cases hl : l' = l
    · subst hl
      rw [Function.update_self] at hm
      rcases List.mem_append.mp hm with hm | hm
      · exact h.waiting l' j m' hm
      · cases List.mem_singleton.mp hm
        exact ⟨κ, k, hi⟩
    · rw [Function.update_of_ne hl] at hm
      exact h.waiting l' j m' hm
  · dsimp only
    by_cases hl : l' = l
    · subst hl
      rw [Function.update_self, List.map_append, List.nodup_append]
      refine ⟨h.nodup l', List.pairwise_singleton _ _, ?_⟩
      rintro j hj j' hj' rfl
      obtain rfl := List.mem_singleton.mp hj'
      obtain ⟨⟨_, m'⟩, hm', rfl⟩ := List.mem_map.mp hj
      exact hq ⟨m', hm'⟩
    · rw [Function.update_of_ne hl]
      exact h.nodup l'

/-- A grant takes the first of the queue, who then holds what its next step counts on. -/
theorem inOrder_grant (h : InOrder rank c) {i : Nat} {κ : K} {l : L} {m : Mode} {k : Unit → _}
    {rest : List (Nat × Mode)} (hi : c.threads[i]? = some ⟨κ, .act (.lock l m) k⟩)
    (hq : c.queue l = (i, m) :: rest) :
    InOrder rank { c with
      threads := c.threads.set i ⟨κ, k ()⟩
      holders := Function.update c.holders l ((i, m) :: c.holders l)
      queue := Function.update c.queue l rest } := by
  have hnodup := h.nodup l
  rw [hq, List.map_cons, List.nodup_cons] at hnodup
  obtain ⟨hrank, hrest⟩ := h.ordered i _ hi
  apply h.set hi
  · intro l' j m' hm'
    by_cases hl : l' = l
    · subst hl
      rw [Function.update_self] at hm'
      refine ⟨hq ▸ List.mem_cons_of_mem _ hm', ?_⟩
      rintro rfl
      exact hnodup.1 (List.mem_map.mpr ⟨_, hm', rfl⟩)
    · rw [Function.update_of_ne hl] at hm'
      refine ⟨hm', ?_⟩
      rintro rfl
      obtain ⟨κ', k', hj⟩ := h.waiting l' j m' hm'
      rw [hi] at hj
      cases hj
      exact hl rfl
  · intro l'
    by_cases hl : l' = l
    · subst hl
      rw [Function.update_self]
      exact hnodup.2
    · rw [Function.update_of_ne hl]
      exact h.nodup l'
  · intro j hj
    rw [heldBy_grant, if_neg hj]
    rfl
  · rw [heldBy_grant, if_pos rfl]
    exact hrest

theorem inOrder_step (hsys : ∀ k, Ordered rank ∅ (sys.lockTask k) ∅) (h : InOrder rank c)
    (hs : sys.Step starts c c') : InOrder rank c' := by
  cases hs with
  | start hk =>
    apply h.append
    intro th hth
    obtain rfl := List.mem_singleton.mp hth
    exact hsys _
  | request hi hq => exact inOrder_request h hi hq
  | grant hi hq => exact inOrder_grant h hi hq
  | @release i κ l k hi =>
    apply h.set hi (h.not_waiting hi fun _ _ _ heq => nomatch heq) h.nodup
    · intro j hj
      rw [heldBy_release, if_neg hj]
      rfl
    · rw [heldBy_release, if_pos rfl]
      exact h.ordered i _ hi
  | @look i κ q k o hi ho =>
    apply h.set hi (h.not_waiting hi fun _ _ _ heq => nomatch heq) h.nodup
    · exact fun _ _ => rfl
    · exact h.ordered i _ hi _
  | @act i κ a k o hi ho =>
    have hset : InOrder rank ⟨(sys.machine.step o a c.state).2,
        c.threads.set i ⟨κ, k (sys.machine.step o a c.state).1⟩, c.holders, c.queue⟩ := by
      apply h.set hi (h.not_waiting hi fun _ _ _ heq => nomatch heq) h.nodup
      · exact fun _ _ => rfl
      · exact h.ordered i _ hi _
    apply hset.append
    intro th hth
    obtain ⟨κ', -, rfl⟩ := List.mem_map.mp hth
    exact hsys _

theorem Reach.inOrder (hsys : ∀ k, Ordered rank ∅ (sys.lockTask k) ∅) {s : S}
    (h : sys.Reach starts (.initial s) c) : InOrder rank c := by
  induction h with
  | refl =>
    refine ⟨?_, fun _ => List.nodup_nil, ?_, ?_⟩
    · exact fun _ _ _ hm => nomatch hm
    · exact fun _ _ _ hm => nomatch hm
    · exact fun _ _ hi => nomatch hi
  | tail _ hs ih => exact inOrder_step hsys ih hs

/-- **No deadlock in a run**: if every task takes its locks in the order of their ranks, then no set
of tasks is deadlocked, however many there are and in whatever order they go on. -/
theorem Reach.not_deadlocked [WellFoundedGT ρ] (hsys : ∀ k, Ordered rank ∅ (sys.lockTask k) ∅)
    {s : S} (h : sys.Reach starts (.initial s) c) (D : Set Nat) : ¬c.Deadlocked D :=
  (Reach.inOrder hsys h).not_deadlocked D

omit [DecidableEq L] in
/-- A lock that cannot be granted is held. -/
theorem exists_holder {m : Mode} {holders : List (Nat × Mode)} (h : ¬m.Admits holders) :
    ∃ p, p ∈ holders := by
  by_contra hnone
  push Not at hnone
  obtain rfl := List.eq_nil_iff_forall_not_mem.mpr hnone
  cases m with
  | read => exact h fun p hp => nomatch hp
  | write => exact h rfl

/-- **Progress**: unless all tasks have ended, one of them can go on. -/
theorem Reach.progress [WellFoundedGT ρ] (hsys : ∀ k, Ordered rank ∅ (sys.lockTask k) ∅)
    (hin : ∀ s, ∃ o, sys.machine.inputs s o) {s : S} (h : sys.Reach starts (.initial s) c)
    (hgoing : ∃ th ∈ c.threads, ¬th.task.Ended) : ∃ c', sys.Step (fun _ => False) c c' := by
  have hord := Reach.inOrder hsys h
  by_contra hstuck
  push Not at hstuck
  let going : Set Nat := {i | ∃ th, c.threads[i]? = some th ∧ ¬th.task.Ended}
  obtain ⟨o, ho⟩ := hin c.state
  have hholds : ∀ j l, c.Holds j l → j ∈ going := by
    rintro j l ⟨m, hm⟩
    have hj := List.getElem?_eq_getElem (hord.started l j m hm)
    refine ⟨_, hj, fun hend => ?_⟩
    have hnone : c.held j = ∅ := (hord.ordered j _ hj).of_ended hend
    exact (hnone ▸ ⟨m, hm⟩ : l ∈ (∅ : Set L))
  refine hord.not_deadlocked going ⟨?_, ?_⟩
  · obtain ⟨th, hth, hend⟩ := hgoing
    obtain ⟨i, hi⟩ := List.mem_iff_getElem?.mp hth
    exact ⟨i, th, hi, hend⟩
  · rintro i ⟨⟨κ, t⟩, hi, hend⟩
    obtain ⟨l, m, k, rfl⟩ : ∃ l m k, t = .act (.lock l m) k := by
      cases t with
      | act a k =>
        cases a with
        | lock l m => exact ⟨l, m, k, rfl⟩
        | unlock l => exact (hstuck _ (.release hi)).elim
        | look q => exact (hstuck _ (.look o hi ho)).elim
        | act a =>
          exact (hstuck _ (.act o hi ho)).elim
      | _ => exact (hend trivial).elim
    have hwaits : c.Waits i l := by
      by_contra hw
      exact hstuck _ (.request hi hw)
    refine ⟨l, hwaits, ?_⟩
    -- the first task in the queue waits for a holder, every other one for the first
    obtain ⟨m', hm'⟩ := hwaits
    obtain ⟨κ', k', hi'⟩ := hord.waiting l i m' hm'
    rcases hqueue : c.queue l with _ | ⟨⟨j, mj⟩, rest⟩
    · rw [hqueue] at hm'
      cases hm'
    · have hmem : (j, mj) ∈ c.queue l := hqueue ▸ List.mem_cons_self
      obtain ⟨κj, kj, hj⟩ := hord.waiting l j mj hmem
      by_cases hji : j = i
      · subst hji
        obtain ⟨⟨p, mp⟩, hp⟩ := exists_holder fun hm => hstuck _ (.grant hj hqueue hm)
        exact ⟨p, hholds p l ⟨mp, hp⟩, .inl ⟨mp, hp⟩⟩
      · refine ⟨j, ⟨_, hj, id⟩, .inr ⟨mj, ?_⟩⟩
        rw [hqueue, List.takeWhile_cons_of_pos (by simpa using hji)]
        exact List.mem_cons_self

end Rank

/-! ## Runs without the locks -/

section Simulation

variable {sys : LockSystem L A R V E S O K} {starts : K → Prop}

/-- Related lists stay related when two elements at the same place are replaced. -/
theorem forall₂_set {α β : Type} {p : α → β → Prop} {as : List α} {bs : List β}
    (h : List.Forall₂ p as bs) {i : Nat} {a : α} (hi : as[i]? = some a) :
    ∃ pre b post, bs = pre ++ b :: post ∧ p a b ∧
      ∀ a' b', p a' b' → List.Forall₂ p (as.set i a') (pre ++ b' :: post) := by
  induction h generalizing i with
  | nil => exact nomatch hi
  | @cons a₀ b₀ as bs hab hrest ih =>
    cases i with
    | zero =>
      cases hi
      exact ⟨[], b₀, bs, rfl, hab, fun a' b' h' => .cons h' hrest⟩
    | succ i =>
      obtain ⟨pre, b, post, rfl, hb, hset⟩ := ih hi
      exact ⟨b₀ :: pre, b, post, rfl, hb, fun a' b' h' => .cons hab (hset a' b' h')⟩

/-- A thread is a job of the system beneath. -/
def Projects (th : Thread L A R V E K) (j : Job A R E K) : Prop :=
  th.kind = j.kind ∧ Erases th.task j.task

theorem projects_start (k : K) : Projects (sys.startThread k) (sys.start k) :=
  ⟨rfl, sys.erases k⟩

/-- A thread that goes on without acting is still the same job. -/
theorem forall₂_silent {threads : List (Thread L A R V E K)} {jobs : List (Job A R E K)}
    (h : List.Forall₂ Projects threads jobs) {i : Nat} {th th' : Thread L A R V E K}
    (hi : threads[i]? = some th) (hth : ∀ j, Projects th j → Projects th' j) :
    List.Forall₂ Projects (threads.set i th') jobs := by
  obtain ⟨pre, j, post, rfl, hj, hset⟩ := forall₂_set h hi
  exact hset th' j (hth j hj)

/-- A thread that acts is not one of those that have ended. -/
theorem exists_index_of_act {done ths : List (Thread L A R V E K)}
    (hdone : ∀ th ∈ done, th.task.Ended) {i : Nat} {κ : K} {a : LockStep L Q A}
    {k : LockStep.Answer V R a → LockProc L V R E Unit}
    (hi : (done ++ ths)[i]? = some ⟨κ, .act a k⟩) :
    ∃ j, ths[j]? = some ⟨κ, .act a k⟩ ∧
      ∀ th, (done ++ ths).set i th = done ++ ths.set j th := by
  have hle : done.length ≤ i := by
    by_contra hlt
    rw [List.getElem?_append_left (by omega)] at hi
    exact hdone _ (List.mem_of_getElem? hi)
  refine ⟨i - done.length, ?_, fun th => List.set_append_right i th hle⟩
  rwa [List.getElem?_append_right hle] at hi

/-- **Erasure**: a run of tasks with locks is a run of the system beneath, in which each section is
one action. Tasks that have ended before it do not count. -/
theorem Reach.erases_after [DecidableEq L] {c₀ c : LockConfig L A R V E S K}
    {done ths : List (Thread L A R V E K)} {jobs : List (Job A R E K)}
    (hdone : ∀ th ∈ done, th.task.Ended) (hths : c₀.threads = done ++ ths)
    (hproj : List.Forall₂ Projects ths jobs) (h : sys.Reach starts c₀ c) :
    ∃ ths' jobs', c.threads = done ++ ths' ∧
      sys.toSystem.Reach (.anyOrder starts) ⟨c₀.state, jobs⟩ ⟨c.state, jobs'⟩ ∧
      List.Forall₂ Projects ths' jobs' := by
  induction h with
  | refl => exact ⟨ths, jobs, hths, .refl, hproj⟩
  | @tail c' _ _ hs ih =>
    obtain ⟨ths, jobs, hthreads, hreach, hproj⟩ := ih
    cases hs with
    | @start k hk =>
      refine ⟨ths ++ [sys.startThread k], jobs ++ [sys.start k], ?_, hreach.tail (.start hk), ?_⟩
      · rw [hthreads, List.append_assoc]
      · exact List.rel_append hproj (.cons (projects_start k) .nil)
    | request _ _ => exact ⟨ths, jobs, hthreads, hreach, hproj⟩
    | grant hi _ _ =>
      rw [hthreads] at hi ⊢
      obtain ⟨j, hj, hset⟩ := exists_index_of_act hdone hi
      exact ⟨_, jobs, hset _, hreach, forall₂_silent hproj hj fun _ h => h⟩
    | release hi =>
      rw [hthreads] at hi ⊢
      obtain ⟨j, hj, hset⟩ := exists_index_of_act hdone hi
      exact ⟨_, jobs, hset _, hreach, forall₂_silent hproj hj fun _ h => h⟩
    | look _ hi _ =>
      rw [hthreads] at hi ⊢
      obtain ⟨j, hj, hset⟩ := exists_index_of_act hdone hi
      exact ⟨_, jobs, hset _, hreach, forall₂_silent hproj hj fun _ h => ⟨h.1, h.2 _⟩⟩
    | @act i κ a k o hi ho =>
      rw [hthreads] at hi ⊢
      obtain ⟨j, hj, hset⟩ := exists_index_of_act hdone hi
      obtain ⟨pre, job, post, rfl, ⟨hkind, herase⟩, hrel⟩ := forall₂_set hproj hj
      obtain ⟨k', hk', hk⟩ := herase
      have hrest := hrel ⟨κ, k (sys.machine.step o a c'.state).1⟩ (sys.advance o c'.state job a k')
        ⟨hkind, hk _⟩
      have hspawned : List.Forall₂ Projects
          ((sys.spawned ⟨a, (sys.machine.step o a c'.state).1⟩).map sys.startThread)
          ((sys.spawned ⟨a, (sys.machine.step o a c'.state).1⟩).map sys.start) := by
        rw [List.forall₂_map_left_iff, List.forall₂_map_right_iff, List.forall₂_same]
        exact fun k _ => projects_start k
      refine ⟨_, _, ?_, hreach.tail (.act o hk' ho trivial), List.rel_append hrest hspawned⟩
      rw [hset, List.append_assoc]

/-- A run from the start. -/
theorem Reach.erases [DecidableEq L] {s : S} {c : LockConfig L A R V E S K}
    (h : sys.Reach starts (.initial s) c) :
    ∃ jobs, sys.toSystem.Reach (.anyOrder starts) ⟨s, []⟩ ⟨c.state, jobs⟩ ∧
      List.Forall₂ Projects c.threads jobs := by
  have hnone : (LockConfig.initial s : LockConfig L A R V E S K).threads = [] ++ [] := rfl
  obtain ⟨ths, jobs, hthreads, hreach, hproj⟩ :=
    Reach.erases_after (List.forall_mem_nil _) hnone .nil h
  rw [List.nil_append] at hthreads
  exact ⟨jobs, hreach, hthreads ▸ hproj⟩

end Simulation

end LockSystem

end Concurrent
