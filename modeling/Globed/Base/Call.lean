import Mathlib.Data.List.Forall2
import Mathlib.Logic.Basic

/-!
# Calls that throw

A call changes a state and returns or throws; what it changed before it threw stays changed, and a
handler goes on from there. `Triple` is the pre- and postcondition of a call, where the
postcondition speaks of a value that is returned as well as of an exception, and `Keeps` is an
invariant: it holds after the call, however the call ends.
-/

namespace Calls

/-- A call on the state `S` that may throw an `E`. -/
def Call (E S α : Type) : Type := S → Except E α × S

namespace Call

variable {E S α β : Type}

protected def bind (c : Call E S α) (f : α → Call E S β) : Call E S β := fun s =>
  match c s with
  | (.ok x, s') => f x s'
  | (.error e, s') => (.error e, s')

/-- Run `h` on the exception that `c` throws. -/
protected def tryCatch (c : Call E S α) (h : E → Call E S α) : Call E S α := fun s =>
  match c s with
  | (.ok x, s') => (.ok x, s')
  | (.error e, s') => h e s'

instance : Monad (Call E S) where
  pure x s := (.ok x, s)
  bind := Call.bind

instance : MonadStateOf S (Call E S) where
  get s := (.ok s, s)
  set s _ := (.ok ⟨⟩, s)
  modifyGet f s := (.ok (f s).1, (f s).2)

instance : MonadExceptOf E (Call E S) where
  throw e s := (.error e, s)
  tryCatch := Call.tryCatch

/-- A computation on its own, whose exception is thrown. -/
instance : MonadLift (Except E) (Call E S) where
  monadLift x s := (x, s)

/-- Read something off the state. -/
def gets (f : S → α) : Call E S α := fun s => (.ok (f s), s)

@[simp] theorem pure_apply (x : α) (s : S) : (pure x : Call E S α) s = (.ok x, s) := rfl

@[simp] theorem get_apply (s : S) : (get : Call E S S) s = (.ok s, s) := rfl

@[simp] theorem gets_apply (f : S → α) (s : S) : (gets f : Call E S α) s = (.ok (f s), s) := rfl

@[simp] theorem modify_apply (f : S → S) (s : S) :
    (modify f : Call E S PUnit) s = (.ok ⟨⟩, f s) := rfl

@[simp] theorem throw_apply (e : E) (s : S) : (throw e : Call E S α) s = (.error e, s) := rfl

@[simp] theorem lift_apply (x : Except E α) (s : S) : (liftM x : Call E S α) s = (x, s) := rfl

theorem bind_apply (c : Call E S α) (f : α → Call E S β) (s : S) :
    (c >>= f) s = match c s with
      | (.ok x, s') => f x s'
      | (.error e, s') => (.error e, s') := rfl

theorem bind_of_ok {c : Call E S α} {s s' : S} {x : α} (h : c s = (.ok x, s'))
    (f : α → Call E S β) : (c >>= f) s = f x s' := by
  rw [bind_apply, h]

theorem bind_of_error {c : Call E S α} {s s' : S} {e : E} (h : c s = (.error e, s'))
    (f : α → Call E S β) : (c >>= f) s = (.error e, s') := by
  rw [bind_apply, h]

theorem tryCatch_apply (c : Call E S α) (h : E → Call E S α) (s : S) :
    (tryCatch c h) s = match c s with
      | (.ok x, s') => (.ok x, s')
      | (.error e, s') => h e s' := rfl

end Call

/-! ## Pre- and postconditions -/

/-- From a state that satisfies `P`, the call ends in a way that satisfies `Q`. -/
def Triple {E S α : Type} (P : S → Prop) (c : Call E S α) (Q : Except E α → S → Prop) : Prop :=
  ∀ s, P s → Q (c s).1 (c s).2

/-- `I` holds after the call, if it held before. -/
def Keeps {E S α : Type} (I : S → Prop) (c : Call E S α) : Prop := Triple I c fun _ => I

section Rules

variable {E S α β : Type} {P P' I : S → Prop}

theorem Triple.conseq {c : Call E S α} {Q Q' : Except E α → S → Prop} (h : Triple P c Q)
    (hP : ∀ s, P' s → P s) (hQ : ∀ r s, Q r s → Q' r s) : Triple P' c Q' :=
  fun s hs => hQ _ _ (h s (hP s hs))

theorem Triple.bind {c : Call E S α} {f : α → Call E S β} {Q : Except E α → S → Prop}
    {T : Except E β → S → Prop} (hc : Triple P c Q) (hf : ∀ x, Triple (Q (.ok x)) (f x) T)
    (he : ∀ e s, Q (.error e) s → T (.error e) s) : Triple P (c >>= f) T := by
  intro s hs
  have hq := hc s hs
  rw [Call.bind_apply]
  generalize c s = r at hq ⊢
  obtain ⟨x | x, s'⟩ := r
  · exact he x s' hq
  · exact hf x s' hq

theorem Triple.tryCatch {c : Call E S α} {h : E → Call E S α} {Q T : Except E α → S → Prop}
    (hc : Triple P c Q) (hh : ∀ e, Triple (Q (.error e)) (h e) T)
    (hx : ∀ x s, Q (.ok x) s → T (.ok x) s) : Triple P (tryCatch c h) T := by
  intro s hs
  have hq := hc s hs
  rw [Call.tryCatch_apply]
  generalize c s = r at hq ⊢
  obtain ⟨x | x, s'⟩ := r
  · exact hh x s' hq
  · exact hx x s' hq

theorem Triple.throw {e : E} {Q : Except E α → S → Prop} (h : ∀ s, P s → Q (.error e) s) :
    Triple P (throw e : Call E S α) Q := h

theorem Triple.modify {f : S → S} {Q : Except E PUnit → S → Prop}
    (h : ∀ s, P s → Q (.ok ⟨⟩) (f s)) : Triple P (modify f : Call E S PUnit) Q := h

theorem Triple.ite {p : Prop} [Decidable p] {c d : Call E S α} {Q : Except E α → S → Prop}
    (hc : p → Triple P c Q) (hd : ¬p → Triple P d Q) : Triple P (if p then c else d) Q := by
  split
  · next h => exact hc h
  · next h => exact hd h

/-! ### Calls that do not throw -/

/-- From a state that satisfies `P` the call returns, in a way that satisfies `Q`. -/
def Returns (P : S → Prop) (c : Call E S α) (Q : α → S → Prop) : Prop :=
  Triple P c fun r s => ∃ x, r = .ok x ∧ Q x s

theorem Returns.triple {c : Call E S α} {f : α → Call E S β} {Q : α → S → Prop}
    {T : Except E β → S → Prop} (hc : Returns P c Q) (hf : ∀ x, Triple (Q x) (f x) T) :
    Triple P (c >>= f) T := by
  have hok : ∀ x, Triple (fun s => ∃ y, (.ok x : Except E α) = .ok y ∧ Q y s) (f x) T := by
    rintro x s ⟨y, hy, hs⟩
    obtain rfl := Except.ok.inj hy
    exact hf x s hs
  exact Triple.bind hc hok fun e s he => (nomatch he)

theorem Returns.bind {c : Call E S α} {f : α → Call E S β} {Q : α → S → Prop} {T : β → S → Prop}
    (hc : Returns P c Q) (hf : ∀ x, Returns (Q x) (f x) T) : Returns P (c >>= f) T :=
  hc.triple hf

theorem Returns.pure {x : α} {Q : α → S → Prop} (h : ∀ s, P s → Q x s) :
    Returns P (Pure.pure x : Call E S α) Q := fun s hs => ⟨x, rfl, h s hs⟩

theorem Returns.get : Returns P (get : Call E S S) fun _ => P := fun s hs => ⟨s, rfl, hs⟩

theorem Returns.gets (f : S → α) : Returns P (Call.gets f : Call E S α) fun _ => P :=
  fun s hs => ⟨f s, rfl, hs⟩

theorem Returns.modify {f : S → S} {Q : PUnit → S → Prop} (h : ∀ s, P s → Q ⟨⟩ (f s)) :
    Returns P (modify f : Call E S PUnit) Q := fun s hs => ⟨⟨⟩, rfl, h s hs⟩

theorem Returns.ite {p : Prop} [Decidable p] {c d : Call E S α} {Q : α → S → Prop}
    (hc : Returns P c Q) (hd : Returns P d Q) : Returns P (if p then c else d) Q :=
  Triple.ite (fun _ => hc) fun _ => hd

/-- An exception that is caught, and nothing else done. -/
theorem Returns.caught {c : Call E S PUnit} (hc : Triple P c fun _ => I) :
    Returns P (MonadExcept.tryCatch c fun _ => Pure.pure ⟨⟩) fun _ => I := by
  intro s hs
  have hi := hc s hs
  rw [Call.tryCatch_apply]
  generalize c s = r at hi ⊢
  obtain ⟨x | x, s'⟩ := r
  · exact ⟨⟨⟩, rfl, hi⟩
  · exact ⟨x, rfl, hi⟩

/-- A loop in which `J i` holds before the round of the `i`-th element. -/
theorem Returns.forM {γ : Type} {f : γ → Call E S PUnit} (xs : List γ) {J : Nat → S → Prop}
    (h : ∀ i x, xs[i]? = some x → Returns (J i) (f x) fun _ => J (i + 1)) :
    Returns (J 0) (xs.forM f) fun _ => J xs.length := by
  induction xs generalizing J with
  | nil => exact Returns.pure fun _ hs => hs
  | cons x xs ih =>
    refine (h 0 x rfl).bind fun _ => ?_
    exact @ih (fun i => J (i + 1)) fun i y hy => h (i + 1) y hy

/-! ### Invariants -/

theorem Returns.keeps {c : Call E S α} (h : Returns I c fun _ => I) : Keeps I c := by
  intro s hs
  obtain ⟨x, -, hi⟩ := h s hs
  exact hi

theorem Keeps.pure (x : α) : Keeps I (Pure.pure x : Call E S α) := fun _ hs => hs

theorem Keeps.throw (e : E) : Keeps I (throw e : Call E S α) := fun _ hs => hs

theorem Keeps.gets (f : S → α) : Keeps I (Call.gets f : Call E S α) := fun _ hs => hs

theorem Keeps.get : Keeps I (get : Call E S S) := fun _ hs => hs

theorem Keeps.lift (x : Except E α) : Keeps I (liftM x : Call E S α) := fun _ hs => hs

theorem Keeps.modify {f : S → S} (h : ∀ s, I s → I (f s)) : Keeps I (modify f : Call E S PUnit) := h

theorem Keeps.bind {c : Call E S α} {f : α → Call E S β} (hc : Keeps I c)
    (hf : ∀ x, Keeps I (f x)) : Keeps I (c >>= f) :=
  Triple.bind hc hf fun _ _ hs => hs

theorem Keeps.tryCatch {c : Call E S α} {h : E → Call E S α} (hc : Keeps I c)
    (hh : ∀ e, Keeps I (h e)) : Keeps I (tryCatch c h) :=
  Triple.tryCatch hc hh fun _ _ hs => hs

theorem Keeps.ite {p : Prop} [Decidable p] {c d : Call E S α} (hc : Keeps I c) (hd : Keeps I d) :
    Keeps I (if p then c else d) :=
  Triple.ite (fun _ => hc) fun _ => hd

end Rules

/-! ## Loops that convert -/

section Convert

variable {E S γ δ : Type} {f : γ → Except E δ} {put : δ → S → S}

/-- Each `x` is converted to the `y` at its place. -/
abbrev Converts (f : γ → Except E δ) (xs : List γ) (ys : List δ) : Prop :=
  List.Forall₂ (fun x y => f x = .ok y) xs ys

theorem converts_or_first_error (f : γ → Except E δ) (xs : List γ) :
    (∃ ys, Converts f xs ys) ∨
      ∃ pre x post ys e, xs = pre ++ x :: post ∧ Converts f pre ys ∧ f x = .error e := by
  induction xs with
  | nil => exact .inl ⟨[], .nil⟩
  | cons x xs ih =>
    cases hx : f x with
    | error e => exact .inr ⟨[], x, xs, [], e, rfl, .nil, hx⟩
    | ok y =>
      rcases ih with ⟨ys, hys⟩ | ⟨pre, x', post, ys, e, rfl, hys, he⟩
      · exact .inl ⟨y :: ys, .cons hx hys⟩
      · exact .inr ⟨x :: pre, x', post, y :: ys, e, rfl, .cons hx hys, he⟩

theorem Call.forM_cons (g : γ → Call E S PUnit) (x : γ) (xs : List γ) :
    (x :: xs).forM g = g x >>= fun _ => xs.forM g := rfl

/-- One round of a loop that converts an element and puts it into the state. -/
def convert (f : γ → Except E δ) (put : δ → S → S) (x : γ) : Call E S PUnit := do
  let y ← f x
  modify (put y)

theorem convert_of_ok {x : γ} {y : δ} (h : f x = .ok y) (s : S) :
    convert f put x s = (.ok ⟨⟩, put y s) :=
  Call.bind_of_ok (congrArg (·, s) h) _

theorem convert_of_error {x : γ} {e : E} (h : f x = .error e) (s : S) :
    convert f put x s = (.error e, s) :=
  Call.bind_of_error (congrArg (·, s) h) _

theorem forM_convert_of_converts {xs : List γ} {ys : List δ} (h : Converts f xs ys) (s : S) :
    xs.forM (convert f put) s = (.ok ⟨⟩, ys.foldl (fun s y => put y s) s) := by
  induction h generalizing s with
  | nil => rfl
  | cons hx _ ih =>
    rw [Call.forM_cons, Call.bind_of_ok (convert_of_ok hx s), ih, List.foldl_cons]

/-- An element that cannot be converted ends the loop; what was put before it stays. -/
theorem forM_convert_of_error {pre post : List γ} {x : γ} {ys : List δ} {e : E}
    (h : Converts f pre ys) (he : f x = .error e) (s : S) :
    (pre ++ x :: post).forM (convert f put) s =
      (.error e, ys.foldl (fun s y => put y s) s) := by
  induction h generalizing s with
  | nil => rw [List.nil_append, Call.forM_cons, Call.bind_of_error (convert_of_error he s)]; rfl
  | cons hx _ ih =>
    rw [List.cons_append, Call.forM_cons, Call.bind_of_ok (convert_of_ok hx s), ih,
      List.foldl_cons]

end Convert

end Calls
