import Mathlib.Logic.Basic

/-!
# Tasks that share a state

A task is a tree (`Proc`): it has ended (with a value, with an error or by a panic), or it performs
one action and goes on with the answer. `A` are the actions and `R a` the answers to the action `a`.
What an action does is not part of the tree: a `Machine` runs one action atomically on the state
`S` that all tasks share, under an input `O` from outside (a clock reading, the outcome of a system
call, ...).

`Safe` is how a task is reasoned about on its own: something holds at every point of it, whatever
the inputs are, while the rest of the world moves the state along a `Rely`. Interleavings of
several tasks are in `Globed.Base.Pool`.
-/

namespace Concurrent

/-- A task with actions `A`, answers `R`, errors `E` and values `α`. -/
inductive Proc (A : Type) (R : A → Type) (E α : Type) : Type
  | ret (x : α)
  | err (e : E)
  | panic
  | act (a : A) (k : R a → Proc A R E α)

/-- An action with the answer it got. -/
abbrev Event {A : Type} (R : A → Type) : Type := Σ a : A, R a

/-- What one action does to the shared state and what it answers, and the inputs it may get. -/
structure Machine (A : Type) (R : A → Type) (S O : Type) where
  step : O → (a : A) → S → R a × S
  inputs : S → O → Prop

namespace Proc

variable {A : Type} {R : A → Type} {S O E α β : Type}

/-! ## Composition -/

protected def bind : Proc A R E α → (α → Proc A R E β) → Proc A R E β
  | .ret x, f => f x
  | .err e, _ => .err e
  | .panic, _ => .panic
  | .act a k, f => .act a fun r => (k r).bind f

instance : Monad (Proc A R E) where
  pure := .ret
  bind := Proc.bind

@[simp] theorem pure_eq (x : α) : (pure x : Proc A R E α) = .ret x := rfl

@[simp] theorem ret_bind (x : α) (f : α → Proc A R E β) : (Proc.ret x >>= f) = f x := rfl

@[simp] theorem err_bind (e : E) (f : α → Proc A R E β) :
    ((Proc.err e : Proc A R E α) >>= f) = .err e := rfl

@[simp] theorem panic_bind (f : α → Proc A R E β) :
    ((Proc.panic : Proc A R E α) >>= f) = .panic := rfl

@[simp] theorem act_bind (a : A) (k : R a → Proc A R E α) (f : α → Proc A R E β) :
    (Proc.act a k >>= f) = .act a fun r => k r >>= f := rfl

theorem bind_ret (t : Proc A R E α) : (t >>= .ret) = t := by
  induction t with
  | act a k ih => rw [act_bind]; exact congrArg _ (funext ih)
  | _ => rfl

theorem bind_assoc {γ : Type} (t : Proc A R E α) (f : α → Proc A R E β) (g : β → Proc A R E γ) :
    (t >>= f >>= g) = t >>= fun x => f x >>= g := by
  induction t with
  | act a k ih => simp only [act_bind]; exact congrArg _ (funext ih)
  | _ => rfl

instance : LawfulMonad (Proc A R E) :=
  LawfulMonad.mk' _ (fun t => bind_ret t) (fun _ _ => rfl) bind_assoc

theorem forM_nil {γ : Type} (f : γ → Proc A R E PUnit) : ([] : List γ).forM f = .ret ⟨⟩ := rfl

theorem forM_cons {γ : Type} (f : γ → Proc A R E PUnit) (x : γ) (xs : List γ) :
    (x :: xs).forM f = f x >>= fun _ => xs.forM f := rfl

/-- Perform one action. -/
def perform (a : A) : Proc A R E (R a) := .act a .ret

@[simp] theorem perform_bind (a : A) (f : R a → Proc A R E β) :
    (perform a >>= f) = .act a f := rfl

/-- Go on with a value, or end with an error (the `?` of the source). -/
def ofExcept : Except E α → Proc A R E α
  | .ok x => .ret x
  | .error e => .err e

@[simp] theorem ofExcept_ok (x : α) : (ofExcept (.ok x) : Proc A R E α) = .ret x := rfl

@[simp] theorem ofExcept_error (e : E) : (ofExcept (.error e) : Proc A R E α) = .err e := rfl

/-- Run a task and hand its error over as a value. -/
def attempt {E' : Type} : Proc A R E α → Proc A R E' (Except E α)
  | .ret x => .ret (.ok x)
  | .err e => .ret (.error e)
  | .panic => .panic
  | .act a k => .act a fun r => (k r).attempt

/-- The task has reached its end. -/
def Ended : Proc A R E α → Prop
  | .act _ _ => False
  | _ => True

/-! ## Tasks that only perform some actions -/

/-- Every action that the task may perform, whatever answers it gets, satisfies `p`. -/
def Only (p : A → Prop) : Proc A R E α → Prop
  | .ret _ => True
  | .err _ => True
  | .panic => True
  | .act a k => p a ∧ ∀ r, (k r).Only p

section Only

variable {p q : A → Prop}

@[simp] theorem only_ret (x : α) : (ret x : Proc A R E α).Only p := trivial

@[simp] theorem only_err (e : E) : (err e : Proc A R E α).Only p := trivial

@[simp] theorem only_panic : (panic : Proc A R E α).Only p := trivial

@[simp] theorem only_act {a : A} {k : R a → Proc A R E α} :
    (act a k).Only p ↔ p a ∧ ∀ r, (k r).Only p := Iff.rfl

@[simp] theorem only_ofExcept (x : Except E α) : (ofExcept x : Proc A R E α).Only p := by
  cases x <;> trivial

theorem Only.bind {t : Proc A R E α} {f : α → Proc A R E β} (ht : t.Only p)
    (hf : ∀ x, (f x).Only p) : (t >>= f).Only p := by
  induction t with
  | ret x => exact hf x
  | err e => trivial
  | panic => trivial
  | act a k ih => exact ⟨ht.1, fun r => ih r (ht.2 r)⟩

theorem Only.attempt {E' : Type} {t : Proc A R E α} (ht : t.Only p) :
    (t.attempt : Proc A R E' (Except E α)).Only p := by
  induction t with
  | act a k ih => exact ⟨ht.1, fun r => ih r (ht.2 r)⟩
  | _ => trivial

theorem Only.forM {γ : Type} {f : γ → Proc A R E PUnit} :
    ∀ (xs : List γ), (∀ x ∈ xs, (f x).Only p) → (xs.forM f).Only p
  | [], _ => trivial
  | x :: xs, h => (h x List.mem_cons_self).bind fun _ =>
      Only.forM xs fun y hy => h y (List.mem_cons_of_mem x hy)

theorem only_of_forall (h : ∀ a, p a) (t : Proc A R E α) : t.Only p := by
  induction t with
  | act a k ih => exact ⟨h a, ih⟩
  | _ => trivial

theorem Only.mono (hpq : ∀ a, p a → q a) {t : Proc A R E α} (h : t.Only p) : t.Only q := by
  induction t with
  | act a k ih => exact ⟨hpq a h.1, fun r => ih r (h.2 r)⟩
  | _ => trivial

end Only

end Proc

/-! ## Interference -/

/-- What the rest of the world may do to the state between two actions of a task. -/
structure Rely (S : Type) where
  moves : S → S → Prop
  refl : ∀ s, moves s s
  trans : ∀ {s s' s''}, moves s s' → moves s' s'' → moves s s''

namespace Rely

variable {S V : Type}

/-- Nobody else touches the state. -/
def alone : Rely S where
  moves s s' := s' = s
  refl _ := rfl
  trans h h' := h'.trans h

/-- Everybody else keeps what `f` reads off the state. -/
def keeps (f : S → V) : Rely S where
  moves s s' := f s' = f s
  refl _ := rfl
  trans h h' := h'.trans h

end Rely

namespace Proc

variable {A : Type} {R : A → Type} {S O E α β : Type}

/-- From the state `s` and the log `log` on, `ok` holds of what is left of the task, of its log and
of the state at every point, while others move the state along `g` between any two actions. -/
def Safe (m : Machine A R S O) (g : Rely S) (ok : Proc A R E α → List (Event R) → S → Prop) :
    Proc A R E α → List (Event R) → S → Prop
  | .ret x, log, s => ∀ s', g.moves s s' → ok (.ret x) log s'
  | .err e, log, s => ∀ s', g.moves s s' → ok (.err e) log s'
  | .panic, log, s => ∀ s', g.moves s s' → ok .panic log s'
  | .act a k, log, s => ∀ s', g.moves s s' → ok (.act a k) log s' ∧ ∀ o, m.inputs s' o →
      (k (m.step o a s').1).Safe m g ok (log ++ [⟨a, (m.step o a s').1⟩]) (m.step o a s').2

section Safe

variable {m : Machine A R S O} {g : Rely S}
  {ok ok' : Proc A R E α → List (Event R) → S → Prop}

/-- Interference does no harm to a safe task. -/
theorem Safe.of_moves {t : Proc A R E α} {log : List (Event R)} {s s' : S}
    (h : t.Safe m g ok log s) (hs : g.moves s s') : t.Safe m g ok log s' := by
  cases t <;> exact fun s'' hs' => h s'' (g.trans hs hs')

theorem Safe.now {t : Proc A R E α} {log : List (Event R)} {s : S} (h : t.Safe m g ok log s) :
    ok t log s := by
  cases t with
  | act a k => exact (h s (g.refl s)).1
  | _ => exact h s (g.refl s)

theorem Safe.next {a : A} {k : R a → Proc A R E α} {log : List (Event R)} {s : S}
    (h : (act a k).Safe m g ok log s) {o : O} (ho : m.inputs s o) :
    (k (m.step o a s).1).Safe m g ok (log ++ [⟨a, (m.step o a s).1⟩]) (m.step o a s).2 :=
  (h s (g.refl s)).2 o ho

theorem Safe.mono {t : Proc A R E α} {log : List (Event R)} {s : S} (h : t.Safe m g ok log s)
    (hok : ∀ t log s, ok t log s → ok' t log s) : t.Safe m g ok' log s := by
  induction t generalizing log s with
  | act a k ih =>
    intro s' hs
    obtain ⟨h₁, h₂⟩ := h s' hs
    exact ⟨hok _ _ _ h₁, fun o ho => ih _ (h₂ o ho)⟩
  | _ => exact fun s' hs => hok _ _ _ (h s' hs)

/-- A task whose actions all satisfy `p` is safe, if an action that satisfies `p` keeps `ok`. -/
theorem Safe.of_only {p : A → Prop} {I : List (Event R) → S → Prop}
    (hI : ∀ a o log s, p a → m.inputs s o → I log s →
      I (log ++ [⟨a, (m.step o a s).1⟩]) (m.step o a s).2)
    (hg : ∀ log s s', g.moves s s' → I log s → I log s') {t : Proc A R E α} (ht : t.Only p)
    {log : List (Event R)} {s : S} (hs : I log s) :
    t.Safe m g (fun t log s => I log s ∧ t.Only p) log s := by
  induction t generalizing log s with
  | act a k ih =>
    intro s' hs'
    have h := hg _ _ _ hs' hs
    exact ⟨⟨h, ht⟩, fun o ho => ih _ (ht.2 _) (hI a o log s' ht.1 ho h)⟩
  | _ => exact fun s' hs' => ⟨hg _ _ _ hs' hs, ht⟩

end Safe

/-! ## Runs of one task -/

/-- `t` goes on alone from `s`: it performs the actions `l`, and `t'` is left of it in `s'`. -/
inductive Runs (m : Machine A R S O) :
    Proc A R E α → S → Proc A R E α → S → List (Event R) → Prop
  | refl {t s} : Runs m t s t s []
  | act {a k s t' s' l} (o : O) (ho : m.inputs s o)
      (h : Runs m (k (m.step o a s).1) (m.step o a s).2 t' s' l) :
      Runs m (.act a k) s t' s' (⟨a, (m.step o a s).1⟩ :: l)

theorem Runs.step {m : Machine A R S O} {a : A} {k : R a → Proc A R E α} {t' : Proc A R E α}
    {s s₁ s' : S} {r : R a} {l : List (Event R)} (o : O) (ho : m.inputs s o)
    (hs : m.step o a s = (r, s₁)) (h : Runs m (k r) s₁ t' s' l) :
    Runs m (.act a k) s t' s' (⟨a, r⟩ :: l) := by
  obtain ⟨rfl, rfl⟩ : (m.step o a s).1 = r ∧ (m.step o a s).2 = s₁ := by
    rw [hs]
    exact ⟨rfl, rfl⟩
  exact .act o ho h

theorem Runs.trans {m : Machine A R S O} {t t' t'' : Proc A R E α} {s s' s'' : S}
    {l l' : List (Event R)} (h : Runs m t s t' s' l) (h' : Runs m t' s' t'' s'' l') :
    Runs m t s t'' s'' (l ++ l') := by
  induction h with
  | refl => exact h'
  | act o ho _ ih => exact .act o ho (ih h')

/-- More inputs allow more runs. -/
theorem Runs.mono {m m' : Machine A R S O} (hstep : m'.step = m.step)
    (hin : ∀ s o, m.inputs s o → m'.inputs s o) {t t' : Proc A R E α} {s s' : S}
    {l : List (Event R)} (h : Runs m t s t' s' l) : Runs m' t s t' s' l := by
  induction h with
  | refl => exact .refl
  | act o ho _ ih =>
    rw [← hstep] at ih ⊢
    exact .act o (hin _ o ho) ih

/-- A task always ends, if there is an input for every action. -/
theorem exists_runs {m : Machine A R S O} (ho : ∀ s, ∃ o, m.inputs s o) (t : Proc A R E α)
    (s : S) : ∃ t' s' l, Runs m t s t' s' l ∧ t'.Ended := by
  induction t generalizing s with
  | act a k ih =>
    obtain ⟨o, ho⟩ := ho s
    obtain ⟨t', s', l, h, hended⟩ := ih (m.step o a s).1 (m.step o a s).2
    exact ⟨t', s', _, .act o ho h, hended⟩
  | _ => exact ⟨_, _, _, .refl, trivial⟩

/-- What is said of a safe task holds wherever it gets. -/
theorem Runs.of_safe {m : Machine A R S O} {g : Rely S}
    {ok : Proc A R E α → List (Event R) → S → Prop} {t t' : Proc A R E α} {s s' : S}
    {l log : List (Event R)} (h : Runs m t s t' s' l) (ht : t.Safe m g ok log s) :
    ok t' (log ++ l) s' := by
  induction h generalizing log with
  | refl =>
    rw [List.append_nil]
    exact ht.now
  | act o ho _ ih =>
    have hrest := ih (ht.next ho)
    rwa [List.append_assoc] at hrest

/-- What every action of a task satisfies, every event of its run satisfies. -/
theorem Runs.of_only {m : Machine A R S O} {p : A → Prop} {t t' : Proc A R E α} {s s' : S}
    {l : List (Event R)} (h : Runs m t s t' s' l) (ht : t.Only p) : ∀ e ∈ l, p e.1 := by
  induction h with
  | refl => exact fun e he => nomatch he
  | act o _ _ ih =>
    intro e he
    rcases List.mem_cons.mp he with rfl | he
    · exact ht.1
    · exact ih (ht.2 _) e he

/-! ## Runs on a stream of inputs -/

/-- The task alone from `s` to its end, each action with the next input of `os`: how it ends, where,
and what it did. -/
def run (m : Machine A R S O) : Proc A R E α → (Nat → O) → S → Proc A R E α × S × List (Event R)
  | .act a k, os, s =>
    let out := (k (m.step (os 0) a s).1).run m (fun i => os (i + 1)) (m.step (os 0) a s).2
    (out.1, out.2.1, ⟨a, (m.step (os 0) a s).1⟩ :: out.2.2)
  | .ret x, _, s => (.ret x, s, [])
  | .err e, _, s => (.err e, s, [])
  | .panic, _, s => (.panic, s, [])

section Run

variable {m : Machine A R S O} {os : Nat → O} {s : S}

theorem run_act {a : A} {k : R a → Proc A R E α} {r : R a} {s' : S}
    {out : Proc A R E α × S × List (Event R)} (h : m.step (os 0) a s = (r, s'))
    (hk : (k r).run m (fun i => os (i + 1)) s' = out) :
    (act a k).run m os s = (out.1, out.2.1, ⟨a, r⟩ :: out.2.2) := by
  rw [run, h, hk]

/-- After a task that returns, the next one runs on the inputs that are left. -/
theorem run_bind_of_ret {t : Proc A R E α} {f : α → Proc A R E β} {x : α} {s' : S}
    {l : List (Event R)} (h : t.run m os s = (.ret x, s', l)) :
    (t >>= f).run m os s =
      let out := (f x).run m (fun i => os (i + l.length)) s'
      (out.1, out.2.1, l ++ out.2.2) := by
  induction t generalizing os s l with
  | ret y =>
    cases h
    rfl
  | err e => cases h
  | panic => cases h
  | act a k ih =>
    simp only [run, Prod.mk.injEq] at h
    obtain ⟨h₁, rfl, rfl⟩ := h
    rw [act_bind, run, ih _ (Prod.ext h₁ rfl)]
    simp only [List.length_cons, List.cons_append, Nat.add_assoc]

/-- **Streams and runs**: a run on a stream of inputs is a run. -/
theorem runs_run (hos : ∀ s i, m.inputs s (os i)) (t : Proc A R E α) :
    Runs m t s (t.run m os s).1 (t.run m os s).2.1 (t.run m os s).2.2 ∧
      (t.run m os s).1.Ended := by
  induction t generalizing os s with
  | act a k ih =>
    have hrest : ∀ s i, m.inputs s (os (i + 1)) := fun s i => hos s (i + 1)
    exact ⟨.act _ (hos s 0) (ih _ hrest).1, (ih _ hrest).2⟩
  | _ => exact ⟨.refl, trivial⟩

end Run

end Proc

end Concurrent
