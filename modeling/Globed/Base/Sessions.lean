import Mathlib.Data.List.Infix

/-!
# Sessions over a network that delays

A client opens sessions with peers, one after another, and asks the peer of each one for an answer.
An answer sets a flag when it arrives, and the network may deliver it late, in another order, more
than once, or never. The flag agrees with the session (`Agrees`) if the answer that set it is that
of the peer of the open session, to what it was asked in this session. One delivery keeps that
exactly if its answer arrives while the session is open (`agrees_step_iff`); `throughout_iff_along`
makes of it that the flag agrees throughout a run exactly if all answers arrive in time.
-/

namespace Sessions

/-! ## Runs -/

section Runs

variable {S A : Type} {step : S → A → S}

/-- Every step of the run meets the condition. -/
def Along (step : S → A → S) (P : S → A → Prop) (s : S) : List A → Prop
  | [] => True
  | a :: as => P s a ∧ Along step P (step s a) as

/-- The condition holds of every state of the run. -/
def Throughout (step : S → A → S) (Q : S → Prop) (s : S) (as : List A) : Prop :=
  ∀ as', as' <+: as → Q (as'.foldl step s)

theorem throughout_nil {Q : S → Prop} {s : S} : Throughout step Q s [] ↔ Q s := by
  constructor
  · intro h
    exact h [] List.nil_prefix
  · intro h as' hpre
    obtain rfl := List.prefix_nil.mp hpre
    exact h

theorem throughout_cons {Q : S → Prop} {s : S} {a : A} {as : List A} :
    Throughout step Q s (a :: as) ↔ Q s ∧ Throughout step Q (step s a) as := by
  constructor
  · intro h
    refine ⟨h [] List.nil_prefix, fun as' hpre => ?_⟩
    exact h (a :: as') ((List.prefix_cons_inj a).mpr hpre)
  · rintro ⟨hs, h⟩ as' hpre
    rcases List.prefix_cons_iff.mp hpre with rfl | ⟨t, rfl, ht⟩
    · exact hs
    · exact h t ht

theorem Throughout.head {Q : S → Prop} {s : S} {as : List A} (h : Throughout step Q s as) : Q s :=
  h [] List.nil_prefix

/-- What one step needs to keep `Q` is what a run needs to have it throughout. -/
theorem throughout_iff_along {I Q : S → Prop} {Allowed Timely : S → A → Prop}
    (hkeeps : ∀ s a, I s → Allowed s a → I (step s a))
    (hstep : ∀ s a, I s → Q s → Allowed s a → (Q (step s a) ↔ Timely s a)) {s : S} {as : List A}
    (hI : I s) (hQ : Q s) (hallowed : Along step Allowed s as) :
    Throughout step Q s as ↔ Along step Timely s as := by
  induction as generalizing s with
  | nil => exact throughout_nil.trans ⟨fun _ => trivial, fun _ => hQ⟩
  | cons a as ih =>
    obtain ⟨hallow, hrest⟩ := hallowed
    have hI' := hkeeps s a hI hallow
    have hiff := hstep s a hI hQ hallow
    rw [throughout_cons]
    constructor
    · rintro ⟨-, hall⟩
      exact ⟨hiff.mp hall.head, (ih hI' hall.head hrest).mp hall⟩
    · rintro ⟨htimely, hall⟩
      exact ⟨hQ, (ih hI' (hiff.mpr htimely) hrest).mpr hall⟩

/-- A condition that passes to earlier states holds throughout a run at whose end it holds, so that
the steps of an invariant may rely on it. -/
theorem along_of_final {I R : S → Prop} {P : S → A → Prop} (hback : ∀ s a, R (step s a) → R s)
    (hkeeps : ∀ s a, I s → R (step s a) → I (step s a))
    (hstep : ∀ s a, I s → R (step s a) → P s a) {s : S} {as : List A} (hI : I s)
    (hR : R (as.foldl step s)) : Along step P s as ∧ I (as.foldl step s) := by
  have hearlier : ∀ (as : List A) (s : S), R (as.foldl step s) → R s := by
    intro as
    induction as with
    | nil => exact fun _ h => h
    | cons a as ih => exact fun s h => hback s a (ih (step s a) h)
  induction as generalizing s with
  | nil => exact ⟨trivial, hI⟩
  | cons a as ih =>
    have hnext : R (step s a) := hearlier as (step s a) hR
    obtain ⟨hrest, hfinal⟩ := ih (hkeeps s a hI hnext) hR
    exact ⟨⟨hstep s a hI hnext, hrest⟩, hfinal⟩

/-- Two conditions agree along a run that another machine, beside it, allows. -/
theorem along_congr_beside {T : Type} {step' : T → A → T} {R : T → A → Prop} {I : S → T → Prop}
    {P Q : S → A → Prop} (hkeeps : ∀ s t a, I s t → R t a → I (step s a) (step' t a))
    (hstep : ∀ s t a, I s t → R t a → (P s a ↔ Q s a)) {s : S} {t : T} {as : List A}
    (hI : I s t) (hR : Along step' R t as) : Along step P s as ↔ Along step Q s as := by
  induction as generalizing s t with
  | nil => rfl
  | cons a as ih =>
    obtain ⟨hallow, hrest⟩ := hR
    exact and_congr (hstep s t a hI hallow) (ih (hkeeps s t a hI hallow) hrest)

/-- Every two steps of the run that follow each other meet the condition, which is about the state
before them. -/
def Successive (step : S → A → S) (P : S → A → A → Prop) (s : S) : List A → Prop
  | a :: b :: as => P s a b ∧ Successive step P (step s a) (b :: as)
  | _ => True

/-- What every step needs, given the step before it, is what every two steps need that follow each
other. -/
theorem along_iff_successive {I : S → Prop} {Q : S → A → Prop} {P : S → A → A → Prop}
    (hkeeps : ∀ s a, I s → I (step s a))
    (hstep : ∀ s a b, I s → Q s a → (Q (step s a) b ↔ P s a b)) {s : S} {a : A} {as : List A}
    (hI : I s) (hQ : Q s a) : Along step Q s (a :: as) ↔ Successive step P s (a :: as) := by
  induction as generalizing s a with
  | nil => exact ⟨fun _ => trivial, fun _ => ⟨hQ, trivial⟩⟩
  | cons b as ih =>
    have hiff := hstep s a b hI hQ
    constructor
    · rintro ⟨-, hall⟩
      exact ⟨hiff.mp hall.1, (ih (hkeeps s a hI) hall.1).mp hall⟩
    · rintro ⟨hP, hall⟩
      exact ⟨hQ, (ih (hkeeps s a hI) (hiff.mpr hP)).mpr hall⟩

theorem successive_congr {I : S → Prop} {P P' : S → A → A → Prop}
    (hkeeps : ∀ s a, I s → I (step s a)) (hstep : ∀ s a b, I s → (P s a b ↔ P' s a b)) {s : S}
    {as : List A} (hI : I s) : Successive step P s as ↔ Successive step P' s as := by
  induction as generalizing s with
  | nil => rfl
  | cons a as ih =>
    cases as with
    | nil => rfl
    | cons b as => exact and_congr (hstep s a b hI) (ih (hkeeps s a hI))

end Runs

/-! ## Sessions -/

/-- What a peer is asked, in the session with this number. -/
structure Request (σ : Type) where
  session : Nat
  peer : σ

structure State (σ : Type) where
  /-- How many sessions were opened. -/
  opened : Nat
  /-- The peer of the session that is open. -/
  current : Option σ
  flag : Bool
  /-- What was asked for the answer that set the flag last. -/
  setBy : Option (Request σ)
  requests : List (Request σ)
  /-- The requests that were answered. -/
  answered : List (Request σ)

inductive Action (σ : Type)
  /-- A session is opened, or fails to open, and these peers are asked. -/
  | enter (peer : Option σ) (asked : List σ)
  | leave
  | answer (request : Request σ)
  | deliver (request : Request σ)
  | idle

section Sessions

variable {σ : Type}

def step (s : State σ) : Action σ → State σ
  | .enter peer asked =>
    { s with
      opened := s.opened + 1
      current := peer
      flag := false
      requests := s.requests ++ asked.map (Request.mk (s.opened + 1)) }
  | .leave => { s with current := none, flag := false }
  | .answer request => { s with answered := s.answered ++ [request] }
  | .deliver request => { s with flag := true, setBy := some request }
  | .idle => s

/-- The peer of the session alone is asked, and what is delivered was answered, and what is answered
asked. -/
def Allowed (s : State σ) : Action σ → Prop
  | .enter peer asked => ∀ p ∈ asked, peer = some p
  | .answer request => request ∈ s.requests
  | .deliver request => request ∈ s.answered
  | .leave | .idle => True

/-- The flag was set by the peer of the open session, in answer to what it was asked in it. -/
def Agrees (s : State σ) : Prop :=
  s.flag = true → ∃ request, s.setBy = some request ∧ s.current = some request.peer ∧
    request.session = s.opened

/-- An answer arrives while the session is open in which it was asked for. -/
def Timely (s : State σ) : Action σ → Prop
  | .deliver request => s.current ≠ none ∧ request.session = s.opened
  | .enter _ _ | .leave | .answer _ | .idle => True

/-- Requests are of sessions that were opened, the ones of the open session to its peer. -/
structure Sound (s : State σ) : Prop where
  answered : ∀ request ∈ s.answered, request ∈ s.requests
  opened : ∀ request ∈ s.requests, request.session ≤ s.opened
  current : ∀ request ∈ s.requests, request.session = s.opened →
    ∀ peer, s.current = some peer → peer = request.peer

theorem Sound.enter {s : State σ} (h : Sound s) {peer : Option σ} {asked : List σ}
    (hasked : ∀ p ∈ asked, peer = some p) : Sound (step s (.enter peer asked)) := by
  have hcases : ∀ request ∈ (step s (.enter peer asked)).requests,
      request ∈ s.requests ∨ ∃ p ∈ asked, ⟨s.opened + 1, p⟩ = request := by
    intro request hmem
    rcases List.mem_append.mp hmem with hold | hnew
    · exact .inl hold
    · exact .inr (List.mem_map.mp hnew)
  constructor
  · intro request hmem
    exact List.mem_append_left _ (h.answered request hmem)
  · intro request hmem
    change request.session ≤ s.opened + 1
    rcases hcases request hmem with hold | ⟨p, -, rfl⟩
    · exact Nat.le_succ_of_le (h.opened request hold)
    · exact Nat.le_refl _
  · intro request hmem hsession q hq
    rcases hcases request hmem with hold | ⟨p, hp, rfl⟩
    · have hle := h.opened request hold
      change request.session = s.opened + 1 at hsession
      omega
    · exact Option.some.inj (hq.symm.trans (hasked p hp))

/-- The step lemma of the invariant. -/
theorem Sound.step {s : State σ} (h : Sound s) {action : Action σ} (hallowed : Allowed s action) :
    Sound (step s action) := by
  cases action with
  | enter peer asked => exact h.enter hallowed
  | leave => exact ⟨h.answered, h.opened, fun _ _ _ _ hnone => (nomatch hnone)⟩
  | answer request =>
    refine ⟨fun request' hmem => ?_, h.opened, h.current⟩
    rcases List.mem_append.mp hmem with hold | hnew
    · exact h.answered request' hold
    · obtain rfl := List.mem_singleton.mp hnew
      exact hallowed
  | deliver request => exact ⟨h.answered, h.opened, h.current⟩
  | idle => exact h

/-- **In time**: one step keeps the agreement exactly if the answer that it delivers is in time. -/
theorem agrees_step_iff {s : State σ} {action : Action σ} (h : Sound s) (hagrees : Agrees s)
    (hallowed : Allowed s action) : Agrees (step s action) ↔ Timely s action := by
  cases action with
  | enter peer asked => exact ⟨fun _ => trivial, fun _ hflag => (nomatch hflag)⟩
  | leave => exact ⟨fun _ => trivial, fun _ hflag => (nomatch hflag)⟩
  | answer request => exact ⟨fun _ => trivial, fun _ => hagrees⟩
  | idle => exact ⟨fun _ => trivial, fun _ => hagrees⟩
  | deliver request =>
    constructor
    · intro hagrees'
      obtain ⟨request', hset, hcurrent, hsession⟩ := hagrees' rfl
      obtain rfl : request = request' := Option.some.inj hset
      refine ⟨fun hnone => ?_, hsession⟩
      exact Option.some_ne_none _ (hcurrent.symm.trans hnone)
    · rintro ⟨hopen, hsession⟩ -
      obtain ⟨peer, hpeer⟩ := Option.ne_none_iff_exists'.mp hopen
      have hrequest := h.answered request hallowed
      obtain rfl := h.current request hrequest hsession peer hpeer
      exact ⟨request, rfl, hpeer, hsession⟩

end Sessions

end Sessions
