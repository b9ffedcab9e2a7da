import Globed.Base.Pool

/-!
# Tasks that are kept apart

Some actions touch a resource, and a task that has touched it and will touch it again is in the
middle of it (`Job.InMiddle`): meanwhile the state of the resource may be broken. If nobody touches
the resource while another task is in the middle of it, and every task that finds the resource in
order (`consistent`) leaves it so (`Owes`), then the resource is in order whenever no task is in the
middle of it, however the tasks interleave otherwise (`Reach.consistent`).

`fine` says of the log of a task that nothing went wrong in it for which the task cannot answer.
-/

namespace Concurrent

open Proc

variable {A : Type} {R : A → Type} {E S O K : Type}

/-- What a task touches, what is in order, and what others do meanwhile. -/
structure Resource (A : Type) (R : A → Type) (S : Type) where
  touches : A → Prop
  consistent : S → Prop
  rely : Rely S
  fine : List (Event R) → Prop
  consistent_of_moves : ∀ {s s'}, rely.moves s s' → consistent s → consistent s'
  fine_of_append : ∀ {log e}, fine (log ++ [e]) → fine log

/-- The job has touched the resource and may touch it again. -/
def Job.InMiddle (touches : A → Prop) (j : Job A R E K) : Prop :=
  (∃ e ∈ j.log, touches e.1) ∧ ¬j.task.Only fun a => ¬touches a

theorem Job.not_inMiddle_of_ended {touches : A → Prop} {j : Job A R E K} (h : j.task.Ended) :
    ¬j.InMiddle touches := by
  rintro ⟨-, hnot⟩
  apply hnot
  cases ht : j.task with
  | act a k => rw [ht] at h; exact h.elim
  | _ => trivial

namespace Resource

variable {α β : Type} (ρ : Resource A R S)

/-- At this point of a task the resource is in order, unless the task will touch it again. -/
def InOrder (t : Proc A R E α) (log : List (Event R)) (s : S) : Prop :=
  (t.Only fun a => ¬ρ.touches a) → ρ.fine log → ρ.consistent s

/-- From the state `s` on, the task leaves the resource in order, whatever its actions that do not
touch the resource answer. -/
def Owes (m : Machine A R S O) : Proc A R E α → List (Event R) → S → Prop
  | .act a k, log, s => ∀ s', ρ.rely.moves s s' → ρ.InOrder (.act a k) log s' ∧
      (ρ.touches a → ∀ o, m.inputs s' o →
        Owes m (k (m.step o a s').1) (log ++ [⟨a, (m.step o a s').1⟩]) (m.step o a s').2) ∧
      (¬ρ.touches a → ∀ r, Owes m (k r) (log ++ [⟨a, r⟩]) s')
  | .ret x, log, s => ∀ s', ρ.rely.moves s s' → ρ.InOrder (.ret x : Proc A R E α) log s'
  | .err e, log, s => ∀ s', ρ.rely.moves s s' → ρ.InOrder (.err e : Proc A R E α) log s'
  | .panic, log, s => ∀ s', ρ.rely.moves s s' → ρ.InOrder (.panic : Proc A R E α) log s'

variable {ρ} {m : Machine A R S O}

theorem Owes.of_moves {t : Proc A R E α} {log : List (Event R)} {s s' : S}
    (h : ρ.Owes m t log s) (hs : ρ.rely.moves s s') : ρ.Owes m t log s' := by
  cases t <;> exact fun s'' hs' => h s'' (ρ.rely.trans hs hs')

theorem Owes.now {t : Proc A R E α} {log : List (Event R)} {s : S} (h : ρ.Owes m t log s) :
    ρ.InOrder t log s := by
  cases t with
  | act a k => exact (h s (ρ.rely.refl s)).1
  | _ => exact h s (ρ.rely.refl s)

theorem Owes.touch {a : A} {k : R a → Proc A R E α} {log : List (Event R)} {s : S}
    (h : ρ.Owes m (.act a k) log s) (ha : ρ.touches a) {o : O} (ho : m.inputs s o) :
    ρ.Owes m (k (m.step o a s).1) (log ++ [⟨a, (m.step o a s).1⟩]) (m.step o a s).2 :=
  (h s (ρ.rely.refl s)).2.1 ha o ho

theorem Owes.pass {a : A} {k : R a → Proc A R E α} {log : List (Event R)} {s : S}
    (h : ρ.Owes m (.act a k) log s) (ha : ¬ρ.touches a) (r : R a) :
    ρ.Owes m (k r) (log ++ [⟨a, r⟩]) s :=
  (h s (ρ.rely.refl s)).2.2 ha r

theorem owes_ended {t : Proc A R E α} {log : List (Event R)} {s : S} (ht : t.Ended)
    (hs : ρ.fine log → ρ.consistent s) : ρ.Owes m t log s := by
  cases t with
  | act a k => exact ht.elim
  | _ => exact fun s' hs' _ hlog => ρ.consistent_of_moves hs' (hs hlog)

/-- A section that touches the resource. -/
theorem owes_touch {a : A} {k : R a → Proc A R E α} {log : List (Event R)} {s : S}
    (ha : ρ.touches a)
    (h : ∀ s', ρ.rely.moves s s' → ∀ o, m.inputs s' o →
      ρ.Owes m (k (m.step o a s').1) (log ++ [⟨a, (m.step o a s').1⟩]) (m.step o a s').2) :
    ρ.Owes m (.act a k) log s :=
  fun s' hs => ⟨fun honly => absurd ha honly.1, fun _ => h s' hs, fun hna => absurd ha hna⟩

/-- A section that does not touch the resource. -/
theorem owes_pass {a : A} {k : R a → Proc A R E α} {log : List (Event R)} {s : S}
    (hs : ρ.InOrder (.act a k) log s) (ha : ¬ρ.touches a)
    (h : ∀ r, ρ.Owes m (k r) (log ++ [⟨a, r⟩]) s) : ρ.Owes m (.act a k) log s :=
  fun _ hs' => ⟨fun honly hlog => ρ.consistent_of_moves hs' (hs honly hlog),
    fun hta => absurd hta ha, fun _ r => (h r).of_moves hs'⟩

/-- A task that does not touch the resource leaves it in order. -/
theorem owes_of_only {t : Proc A R E α} (ht : t.Only fun a => ¬ρ.touches a)
    {log : List (Event R)} {s : S} (hs : ρ.consistent s) : ρ.Owes m t log s := by
  induction t generalizing log with
  | act a k ih => exact owes_pass (fun _ _ => hs) ht.1 fun r => ih r (ht.2 r)
  | _ => exact owes_ended trivial fun _ => hs

/-- A part of a task that does not touch the resource while it is in order. -/
theorem owes_bind {t : Proc A R E α} {f : α → Proc A R E β}
    (ht : t.Only fun a => ¬ρ.touches a) {log : List (Event R)} {s : S} (hs : ρ.consistent s)
    (hf : ∀ x log', ρ.Owes m (f x) log' s) : ρ.Owes m (t >>= f) log s := by
  induction t generalizing log with
  | ret x => exact hf x log
  | err e => exact owes_ended trivial fun _ => hs
  | panic => exact owes_ended trivial fun _ => hs
  | act a k ih => exact owes_pass (fun _ _ => hs) ht.1 fun r => ih r (ht.2 r)

end Resource

/-! ## Runs -/

namespace System

variable {sys : System A R E S O K} {sched : Schedule A R E S K} {ρ : Resource A R S}

/-- What holds in a run whose tasks are kept apart. -/
structure KeptApart (sys : System A R E S O K) (ρ : Resource A R S) (c : Config A R E S K) :
    Prop where
  untouched : ∀ j ∈ c.jobs, (∀ e ∈ j.log, ¬ρ.touches e.1) →
    ∀ s, ρ.consistent s → ρ.Owes sys.machine j.task j.log s
  inMiddle : (∀ j ∈ c.jobs, ρ.fine j.log) →
    ∀ j ∈ c.jobs, j.InMiddle ρ.touches → ρ.Owes sys.machine j.task j.log c.state
  consistent : (∀ j ∈ c.jobs, ρ.fine j.log) → (∀ j ∈ c.jobs, ¬j.InMiddle ρ.touches) →
    ρ.consistent c.state

theorem not_inMiddle_start (touches : A → Prop) (k : K) : ¬(sys.start k).InMiddle touches := by
  rintro ⟨⟨e, he, -⟩, -⟩
  cases he

theorem not_inMiddle_iff {touches : A → Prop} {j : Job A R E K}
    (h : ∃ e ∈ j.log, touches e.1) : ¬j.InMiddle touches ↔ j.task.Only fun a => ¬touches a := by
  rw [Job.InMiddle, not_and, not_not]
  exact ⟨fun hi => hi h, fun ho _ => ho⟩

theorem KeptApart.start {s : S} {js : List (Job A R E K)} {k : K}
    (h : sys.KeptApart ρ ⟨s, js⟩)
    (hk : ∀ s, ρ.consistent s → ρ.Owes sys.machine (sys.task k) [] s) :
    sys.KeptApart ρ ⟨s, js ++ [sys.start k]⟩ := by
  obtain ⟨huntouched, hmiddle, hconsistent⟩ := h
  refine ⟨fun j hj => ?_, fun hfine j hj hmid => ?_, fun hfine hmid => ?_⟩
  · rcases mem_started.mp hj with hj | rfl
    · exact huntouched j hj
    · exact fun _ => hk
  · rcases mem_started.mp hj with hj | rfl
    · exact hmiddle (fun j' hj' => hfine j' (List.mem_append_left _ hj')) j hj hmid
    · exact absurd hmid (not_inMiddle_start _ k)
  · exact hconsistent (fun j hj => hfine j (List.mem_append_left _ hj))
      fun j hj => hmid j (List.mem_append_left _ hj)

section Act

variable {s : S} {pre post : List (Job A R E K)} {j : Job A R E K} {a : A}
  {k : R a → Proc A R E Unit} {o : O}

/-- What was fine after the step was fine before. -/
theorem fine_before (hfine : ∀ x ∈ sys.jobsAfter o s pre j post a k, ρ.fine x.log) :
    ∀ x ∈ pre ++ j :: post, ρ.fine x.log := by
  intro x hx
  rcases mem_before.mp hx with hx | rfl
  · exact hfine x (mem_jobsAfter.mpr (.inl hx))
  · exact ρ.fine_of_append (hfine _ advance_mem_jobsAfter)

/-- The job touches the resource, while no other one is in the middle of it. -/
theorem KeptApart.touch (h : sys.KeptApart ρ ⟨s, pre ++ j :: post⟩) (hj : j.task = .act a k)
    (ho : sys.machine.inputs s o) (ha : ρ.touches a)
    (hapart : ∀ j' ∈ pre ++ post, ¬j'.InMiddle ρ.touches)
    (hspawn : ∀ e, ∀ κ ∈ sys.spawned e, ∀ s, ρ.consistent s →
      ρ.Owes sys.machine (sys.task κ) [] s) :
    sys.KeptApart ρ ⟨(sys.machine.step o a s).2, sys.jobsAfter o s pre j post a k⟩ := by
  obtain ⟨huntouched, hmiddle, hconsistent⟩ := h
  have hbefore : j ∈ pre ++ j :: post := mem_before.mpr (.inr rfl)
  have htouched : ∃ e ∈ (sys.advance o s j a k).log, ρ.touches e.1 :=
    ⟨⟨a, _⟩, List.mem_append_right _ List.mem_cons_self, ha⟩
  have hnotonly : ¬j.task.Only fun a => ¬ρ.touches a := by
    rw [hj]
    exact fun honly => honly.1 ha
  -- either the job is in the middle, or it finds the resource in order
  have howes : (∀ x ∈ pre ++ j :: post, ρ.fine x.log) →
      ρ.Owes sys.machine (.act a k) j.log s := by
    intro hfine
    rw [← hj]
    by_cases hmid : j.InMiddle ρ.touches
    · exact hmiddle hfine j hbefore hmid
    · refine huntouched j hbefore (fun e he hte => hmid ⟨⟨e, he, hte⟩, hnotonly⟩) s ?_
      refine hconsistent hfine fun x hx => ?_
      rcases mem_before.mp hx with hx | rfl
      · exact hapart x hx
      · exact hmid
  refine ⟨fun x hx hun => ?_, fun hf x hx hmid => ?_, fun hf hmid => ?_⟩
  · rcases mem_jobsAfter.mp hx with hx | rfl | ⟨κ, hκ, rfl⟩
    · exact huntouched x (mem_before.mpr (.inl hx)) hun
    · obtain ⟨e, he, hte⟩ := htouched
      exact absurd hte (hun e he)
    · exact hspawn _ κ hκ
  · rcases mem_jobsAfter.mp hx with hx | rfl | ⟨κ, hκ, rfl⟩
    · exact absurd hmid (hapart x hx)
    · exact (howes (fine_before hf)).touch ha ho
    · exact absurd hmid (not_inMiddle_start _ κ)
  · have honly := (not_inMiddle_iff htouched).mp (hmid _ advance_mem_jobsAfter)
    exact ((howes (fine_before hf)).touch ha ho).now honly (hf _ advance_mem_jobsAfter)

theorem inMiddle_of_advance (hj : j.task = .act a k) (ha : ¬ρ.touches a)
    (h : (sys.advance o s j a k).InMiddle ρ.touches) : j.InMiddle ρ.touches := by
  obtain ⟨⟨e, he, hte⟩, hnot⟩ := h
  refine ⟨⟨e, ?_, hte⟩, fun honly => hnot ?_⟩
  · rcases List.mem_append.mp he with he | he
    · exact he
    · rw [List.mem_singleton.mp he] at hte
      exact absurd hte ha
  · rw [hj] at honly
    exact honly.2 _

/-- The job does something beside the resource. -/
theorem KeptApart.pass (h : sys.KeptApart ρ ⟨s, pre ++ j :: post⟩) (hj : j.task = .act a k)
    (ha : ¬ρ.touches a) (hmoves : ρ.rely.moves s (sys.machine.step o a s).2)
    (hspawn : ∀ e, ∀ κ ∈ sys.spawned e, ∀ s, ρ.consistent s →
      ρ.Owes sys.machine (sys.task κ) [] s) :
    sys.KeptApart ρ ⟨(sys.machine.step o a s).2, sys.jobsAfter o s pre j post a k⟩ := by
  obtain ⟨huntouched, hmiddle, hconsistent⟩ := h
  have hbefore : j ∈ pre ++ j :: post := mem_before.mpr (.inr rfl)
  have hpass : ∀ {s'}, ρ.Owes sys.machine j.task j.log s' →
      ρ.Owes sys.machine (sys.advance o s j a k).task (sys.advance o s j a k).log s' := by
    intro s' h
    rw [hj] at h
    exact h.pass ha _
  refine ⟨fun x hx hun => ?_, fun hf x hx hmid => ?_, fun hf hmid => ?_⟩
  · rcases mem_jobsAfter.mp hx with hx | rfl | ⟨κ, hκ, rfl⟩
    · exact huntouched x (mem_before.mpr (.inl hx)) hun
    · intro s' hs'
      exact hpass (huntouched j hbefore (fun e he => hun e (List.mem_append_left _ he)) s' hs')
    · exact hspawn _ κ hκ
  · rcases mem_jobsAfter.mp hx with hx | rfl | ⟨κ, hκ, rfl⟩
    · exact (hmiddle (fine_before hf) x (mem_before.mpr (.inl hx)) hmid).of_moves hmoves
    · have howes := hmiddle (fine_before hf) j hbefore (inMiddle_of_advance hj ha hmid)
      exact (hpass howes).of_moves hmoves
    · exact absurd hmid (not_inMiddle_start _ κ)
  · apply ρ.consistent_of_moves hmoves
    by_cases hmidj : j.InMiddle ρ.touches
    · -- the job was in the middle, and has just left it
      obtain ⟨e, he, hte⟩ := hmidj.1
      have htouched : ∃ e ∈ (sys.advance o s j a k).log, ρ.touches e.1 :=
        ⟨e, List.mem_append_left _ he, hte⟩
      have honly := (not_inMiddle_iff htouched).mp (hmid _ advance_mem_jobsAfter)
      have howes := hpass (hmiddle (fine_before hf) j hbefore hmidj)
      exact howes.now honly (hf _ advance_mem_jobsAfter)
    · refine hconsistent (fine_before hf) fun x hx => ?_
      rcases mem_before.mp hx with hx | rfl
      · exact hmid x (mem_jobsAfter.mpr (.inl hx))
      · exact hmidj

end Act

theorem KeptApart.step
    (hframe : ∀ s js j a o, sched.acts s js j a → ¬ρ.touches a → sys.machine.inputs s o →
      ρ.rely.moves s (sys.machine.step o a s).2)
    (happart : ∀ s js j a, sched.acts s js j a → ρ.touches a →
      ∀ j' ∈ js, ¬j'.InMiddle ρ.touches)
    (hstart : ∀ s js k, sched.starts s js k →
      ∀ s', ρ.consistent s' → ρ.Owes sys.machine (sys.task k) [] s')
    (hspawn : ∀ e, ∀ k ∈ sys.spawned e, ∀ s, ρ.consistent s →
      ρ.Owes sys.machine (sys.task k) [] s)
    {c c' : Config A R E S K} (h : sys.KeptApart ρ c) (hs : sys.Step sched c c') :
    sys.KeptApart ρ c' := by
  cases hs with
  | @start s js k hk => exact h.start (hstart s js k hk)
  | @act s pre j post a k o hj ho hacts =>
    by_cases ha : ρ.touches a
    · exact h.touch hj ho ha (happart s _ j a hacts ha) hspawn
    · exact h.pass hj ha (hframe s _ j a o hacts ha ho) hspawn

/-- **Isolation**: in every run whose tasks are kept apart, the resource is in order whenever no
task is in the middle of it. -/
theorem Reach.consistent
    (hframe : ∀ s js j a o, sched.acts s js j a → ¬ρ.touches a → sys.machine.inputs s o →
      ρ.rely.moves s (sys.machine.step o a s).2)
    (happart : ∀ s js j a, sched.acts s js j a → ρ.touches a →
      ∀ j' ∈ js, ¬j'.InMiddle ρ.touches)
    (hstart : ∀ s js k, sched.starts s js k →
      ∀ s', ρ.consistent s' → ρ.Owes sys.machine (sys.task k) [] s')
    (hspawn : ∀ e, ∀ k ∈ sys.spawned e, ∀ s, ρ.consistent s →
      ρ.Owes sys.machine (sys.task k) [] s)
    {s₀ : S} (h₀ : ρ.consistent s₀) {c : Config A R E S K} (h : sys.Reach sched ⟨s₀, []⟩ c)
    (hfine : ∀ j ∈ c.jobs, ρ.fine j.log) (hmid : ∀ j ∈ c.jobs, ¬j.InMiddle ρ.touches) :
    ρ.consistent c.state := by
  have hinv : sys.KeptApart ρ c := by
    clear hfine hmid
    induction h with
    | refl => exact ⟨by simp, by simp, fun _ _ => h₀⟩
    | tail _ hs ih => exact ih.step hframe happart hstart hspawn hs
  exact hinv.consistent hfine hmid

end System

end Concurrent
