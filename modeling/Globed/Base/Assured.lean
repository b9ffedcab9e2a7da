import Globed.Base.Pool

/-!
# What tasks do with what they are told

The actions of a task depend on the answers that it got, and the answers on the state. A task
assures `P` if each of its actions satisfies `P` as long as every answer came from a state that
satisfies `I` (`Proc.Assures`). Where actions that satisfy `P` keep `I`, tasks that assure `P` do so
in every interleaving: all that they ever do satisfies `P`, and `I` holds throughout
(`Reach.assured`).
-/

namespace Concurrent

open Proc

variable {A : Type} {R : A → Type} {S E E' O K α β : Type}

namespace Proc

variable {m : Machine A R S O} {I : S → Prop} {P p : A → Prop} {Q : α → Prop} {Q' : β → Prop}

/-- Every action of the task satisfies `P` and its result satisfies `Q`, as long as the answers come
from states that satisfy `I`. -/
def Assures (m : Machine A R S O) (I : S → Prop) (P : A → Prop) (Q : α → Prop) :
    Proc A R E α → Prop
  | .ret x => Q x
  | .err _ => True
  | .panic => True
  | .act a k => P a ∧ ∀ o s, m.inputs s o → I s → (k (m.step o a s).1).Assures m I P Q

theorem Assures.bind {t : Proc A R E α} {f : α → Proc A R E β} (ht : t.Assures m I P Q)
    (hf : ∀ x, Q x → (f x).Assures m I P Q') : (t >>= f).Assures m I P Q' := by
  induction t with
  | ret x => exact hf x ht
  | err e => trivial
  | panic => trivial
  | act a k ih => exact ⟨ht.1, fun o s ho hs => ih _ (ht.2 o s ho hs)⟩

theorem Assures.mono {Q₁ : α → Prop} {t : Proc A R E α} (ht : t.Assures m I P Q)
    (hQ : ∀ x, Q x → Q₁ x) : t.Assures m I P Q₁ := by
  induction t with
  | ret x => exact hQ x ht
  | err e => trivial
  | panic => trivial
  | act a k ih => exact ⟨ht.1, fun o s ho hs => ih _ (ht.2 o s ho hs)⟩

/-- A task of which every action satisfies `P`, whatever it is told. -/
theorem Assures.of_only {t : Proc A R E α} (ht : t.Only p) (hp : ∀ a, p a → P a) :
    t.Assures m I P fun _ => True := by
  induction t with
  | act a k ih => exact ⟨hp a ht.1, fun o s _ _ => ih _ (ht.2 _)⟩
  | _ => trivial

theorem Assures.attempt {t : Proc A R E α} (ht : t.Assures m I P Q) :
    (t.attempt : Proc A R E' (Except E α)).Assures m I P fun _ => True := by
  induction t with
  | act a k ih => exact ⟨ht.1, fun o s ho hs => ih _ (ht.2 o s ho hs)⟩
  | _ => trivial

theorem Assures.forM {γ : Type} {f : γ → Proc A R E PUnit} {xs : List γ}
    (h : ∀ x ∈ xs, (f x).Assures m I P fun _ => True) :
    (xs.forM f).Assures m I P fun _ => True := by
  induction xs with
  | nil => trivial
  | cons x xs ih =>
    rw [forM_cons]
    have hrest := ih fun y hy => h y (List.mem_cons_of_mem x hy)
    exact (h x List.mem_cons_self).bind fun _ _ => hrest

end Proc

namespace System

open Schedule

variable {sys : System A R E S O K} {sched : Schedule A R E S K}

/-- **Assurance in a run**: if the actions that satisfy `P` keep `I`, and every task that is started
assures `P`, then `I` holds throughout, and all that is ever done satisfies `P`. -/
theorem Reach.assured {I : S → Prop} {P : A → Prop}
    (hI : ∀ a o s, P a → sys.machine.inputs s o → I s → I (sys.machine.step o a s).2)
    (hst : ∀ s js k, sched.starts s js k → (sys.task k).Assures sys.machine I P fun _ => True)
    (hsp : ∀ e, ∀ k ∈ sys.spawned e, (sys.task k).Assures sys.machine I P fun _ => True)
    {s : S} {c : Config A R E S K} (h : sys.Reach sched ⟨s, []⟩ c) (hs : I s) :
    I c.state ∧ ∀ j ∈ c.jobs, (j.task.Assures sys.machine I P fun _ => True) ∧
      ∀ e ∈ j.log, P e.1 := by
  induction h with
  | refl => exact ⟨hs, fun j hj => nomatch hj⟩
  | tail _ hstep ih =>
    obtain ⟨hIs, hjobs⟩ := ih
    cases hstep with
    | start h =>
      refine ⟨hIs, fun j hj => ?_⟩
      rcases mem_started.mp hj with hj | rfl
      · exact hjobs j hj
      · exact ⟨hst _ _ _ h, fun e he => nomatch he⟩
    | @act s pre j₀ post a k o hj₀ ho _ =>
      obtain ⟨hassures, hlog⟩ := hjobs j₀ (mem_before.mpr (.inr rfl))
      rw [hj₀] at hassures
      refine ⟨hI a o s hassures.1 ho hIs, fun j hj => ?_⟩
      rcases mem_jobsAfter.mp hj with hj | rfl | ⟨κ, hκ, rfl⟩
      · exact hjobs j (mem_before.mpr (.inl hj))
      · refine ⟨hassures.2 o s ho hIs, fun e he => ?_⟩
        rcases List.mem_append.mp he with he | he
        · exact hlog e he
        · obtain rfl := List.mem_singleton.mp he
          exact hassures.1
      · exact ⟨hsp _ κ hκ, fun e he => nomatch he⟩

end System

end Concurrent
