import Globed.Server.Membership

/-!
# The registry under interleaving

`add_client` checks and inserts in one section, and it is the only section that registers a client.
So in every run, whatever the order of the sections: the number of clients stays within the limit,
nobody has the id 0, no session replaces another one, and a session keeps its address and its key.
-/

namespace Globed.Server

open Concurrent Bytebuffer

/-! ## One section -/

/-- What a session is known by. -/
def ClientData.identity (cd : ClientData) : SocketAddr × Int32 := (cd.address, cd.secretKey)

namespace State

variable {st : State}

/-- A CheckIn is accepted only for a client that is not registered, and if there is room. -/
theorem addClient_ok {settings : ServerSettings} {now : SystemTime} {c key : Int32}
    {peer : SocketAddr} (h : (st.addClient settings now c peer key).1 = .ok ()) :
    st.connectedClients.get c = none ∧ ¬st.Full settings ∧
      (st.addClient settings now c peer key).2.connectedClients =
        st.connectedClients.insert c (.checkedIn peer key now .empty) := by
  by_cases hno : st.connectedClients.contains c = true ∨ st.Full settings
  · obtain ⟨e, he⟩ := st.addClient_refused hno now peer key
    rw [he] at h
    cases h
  · rw [not_or] at hno
    refine ⟨?_, hno.2, ?_⟩
    · rw [← Option.not_isSome_iff_eq_none]
      exact hno.1
    · rw [st.addClient_accepted hno.1 hno.2 now peer key]

end State

/-- Every session that a section leaves in the registry was there with the same identity, or has
just been accepted under an id that was free. -/
theorem get_step (settings : ServerSettings) (o : Input) (a : Action) {st : State} {c : Int32}
    {cd' : ClientData} (h : (step settings o a st).2.connectedClients.get c = some cd') :
    (∃ cd, st.connectedClients.get c = some cd ∧ cd'.identity = cd.identity) ∨
      a = .addClient c cd'.address cd'.secretKey ∧ st.connectedClients.get c = none := by
  rcases client_step settings o a h with ⟨cd, hcd, hchanges⟩ | ⟨address, key, rfl, hnone, rfl⟩
  · refine .inl ⟨cd, hcd, ?_⟩
    cases hchanges <;> rfl
  · exact .inr ⟨rfl, hnone⟩

/-! ## The number of clients -/

theorem size_le_of_keys {m m' : FiniteMap Int32 ClientData}
    (h : ∀ c cd', m'.get c = some cd' → ∃ cd, m.get c = some cd) : m'.size ≤ m.size := by
  apply Finset.card_le_card
  intro c hc
  rw [FiniteMap.mem_keys] at hc ⊢
  obtain ⟨cd', hcd'⟩ := Option.isSome_iff_exists.mp hc
  exact Option.isSome_iff_exists.mpr (h c cd' hcd')

/-- The limit, if there is one. -/
def State.WithinLimit (settings : ServerSettings) (st : State) : Prop :=
  0 < settings.maxClients → (st.connectedClients.size : Int) ≤ settings.maxClients.toInt

theorem withinLimit_step (settings : ServerSettings) (o : Input) (a : Action) {st : State}
    (h : st.WithinLimit settings) : (step settings o a st).2.WithinLimit settings := by
  intro hpos
  have hle := h hpos
  have hne : settings.maxClients ≠ 0 := by
    intro hzero
    rw [hzero] at hpos
    exact absurd hpos (by decide)
  by_cases hadd : ∃ c peer key, a = .addClient c peer key
  · obtain ⟨c, peer, key, rfl⟩ := hadd
    by_cases hno : st.connectedClients.contains c = true ∨ st.Full settings
    · obtain ⟨e, he⟩ := st.addClient_refused hno o.now peer key
      rw [step, he]
      exact hle
    · -- there is room for one more
      rw [not_or] at hno
      have hlt : (st.connectedClients.size : Int) < settings.maxClients.toInt := by
        have hmax := settings.maxClients.toInt_lt
        have hroom : ¬Int32.ofNat st.connectedClients.size ≥ settings.maxClients :=
          fun hge => hno.2 ⟨hne, hge⟩
        rw [ge_iff_le, Int32.le_iff_toInt_le, Int32.toInt_ofNat_of_lt (by omega)] at hroom
        omega
      have hsize : (st.connectedClients.insert c (.checkedIn peer key o.now .empty)).size ≤
          st.connectedClients.size + 1 := Finset.card_insert_le _ _
      rw [step, st.addClient_accepted hno.1 hno.2 o.now peer key]
      dsimp only
      omega
  · have hsize : (step settings o a st).2.connectedClients.size ≤ st.connectedClients.size := by
      apply size_le_of_keys
      intro c cd' hcd'
      rcases get_step settings o a hcd' with ⟨cd, hcd, -⟩ | ⟨rfl, -⟩
      · exact ⟨cd, hcd⟩
      · exact absurd ⟨_, _, _, rfl⟩ hadd
    omega

/-! ## Runs -/

section Runs

variable [Bytebuffer] {settings : ServerSettings} {inputs : Input → Prop}
  {sched : Schedule Action Action.Answer Error State Request}
  {conf conf' : Config Action Action.Answer Error State Request}

theorem withinLimit_of_reach (h : (server settings inputs).Reach sched ⟨.new, []⟩ conf) :
    conf.state.WithinLimit settings := by
  refine System.Reach.invariant (I := fun st : State => st.WithinLimit settings) ?_ h ?_
  · exact fun a o st _ hst => withinLimit_step settings o a hst
  · intro hpos
    exact Int32.le_iff_toInt_le.mp (Int32.le_of_lt hpos)

/-- A run in which the client is registered in every state after the first. -/
abbrev StaysRegistered (settings : ServerSettings) (inputs : Input → Prop)
    (sched : Schedule Action Action.Answer Error State Request) (c : Int32) :
    Config Action Action.Answer Error State Request →
      Config Action Action.Answer Error State Request → Prop :=
  Relation.ReflTransGen fun conf conf' =>
    (server settings inputs).Step sched conf conf' ∧
      conf'.state.connectedClients.contains c = true

/-- One step leaves a client with its identity, if it leaves it registered. -/
theorem identity_step (hs : (server settings inputs).Step sched conf conf') {c : Int32}
    {cd cd' : ClientData} (hcd : conf.state.connectedClients.get c = some cd)
    (hcd' : conf'.state.connectedClients.get c = some cd') : cd'.identity = cd.identity := by
  cases hs with
  | start _ =>
    rw [hcd] at hcd'
    cases hcd'
    rfl
  | @act st _ _ _ a _ o _ _ _ =>
    rcases get_step settings o a hcd' with ⟨cd₀, hcd₀, heq⟩ | ⟨-, hnone⟩
    · rw [hcd] at hcd₀
      cases hcd₀
      exact heq
    · rw [hcd] at hnone
      cases hnone

theorem StaysRegistered.registered {c : Int32} {cd : ClientData}
    (h : StaysRegistered settings inputs sched c conf conf')
    (hcd : conf.state.connectedClients.get c = some cd) :
    ∃ cd', conf'.state.connectedClients.get c = some cd' := by
  cases h with
  | refl => exact ⟨cd, hcd⟩
  | tail _ hs => exact FiniteMap.contains_iff.mp hs.2

theorem identity_of_staysRegistered {c : Int32} {cd cd' : ClientData}
    (h : StaysRegistered settings inputs sched c conf conf')
    (hcd : conf.state.connectedClients.get c = some cd)
    (hcd' : conf'.state.connectedClients.get c = some cd') : cd'.identity = cd.identity := by
  induction h generalizing cd' with
  | refl =>
    rw [hcd] at hcd'
    cases hcd'
    rfl
  | @tail conf₁ conf₂ hrun hs ih =>
    obtain ⟨cd₁, hcd₁⟩ := StaysRegistered.registered hrun hcd
    exact (identity_step hs.1 hcd₁ hcd').trans (ih hcd₁)

/-- What holds of the registry in every state of every run. -/
structure RegistrySafe (settings : ServerSettings) (inputs : Input → Prop)
    (sched : Schedule Action Action.Answer Error State Request)
    (conf : Config Action Action.Answer Error State Request) : Prop where
  withinLimit : conf.state.WithinLimit settings
  no_zero : conf.state.connectedClients.contains 0 = false
  /-- A CheckIn that is accepted now takes the place of nobody. -/
  accepted : ∀ now c peer key, (conf.state.addClient settings now c peer key).1 = .ok () →
    conf.state.connectedClients.contains c = false
  /-- As long as a session is registered it keeps its address and its key. -/
  session : ∀ c cd, conf.state.connectedClients.get c = some cd →
    ∀ conf', StaysRegistered settings inputs sched c conf conf' →
      ∃ cd', conf'.state.connectedClients.get c = some cd' ∧
        cd'.address = cd.address ∧ cd'.secretKey = cd.secretKey

/-- **Registry safety under interleaving**. -/
theorem registry_safe (h : (server settings anyInput).Reach (.anyOrder Request.External) ⟨.new, []⟩
    conf) : RegistrySafe settings anyInput (.anyOrder Request.External) conf where
  withinLimit := withinLimit_of_reach h
  no_zero := FiniteMap.contains_eq_false.mpr (get_zero_of_reach h)
  accepted _ _ _ _ hok := FiniteMap.contains_eq_false.mpr (State.addClient_ok hok).1
  session c cd hcd conf' hstays := by
    obtain ⟨cd', hcd'⟩ := hstays.registered hcd
    have heq := identity_of_staysRegistered hstays hcd hcd'
    exact ⟨cd', hcd', congrArg Prod.fst heq, congrArg Prod.snd heq⟩

omit [Bytebuffer] in
/-- With client 7 on level 5. -/
theorem registry_safe_level_5 :
    letI := Bytebuffer.reference
    ∃ conf cd, conf.state.connectedClients = FiniteMap.empty.insert 7 cd ∧
      RegistrySafe ⟨30, 0, false, 60⟩ anyInput (.anyOrder Request.External) conf := by
  let := Bytebuffer.reference
  obtain ⟨st, cd, ⟨jobs, hreach, -⟩, hclients, -⟩ :=
    exists_client_7_on_level_5 (fun _ _ => trivial) (external_packet _ _) (external_packet _ _)
  exact ⟨⟨st, jobs⟩, cd, hclients, registry_safe hreach.of_serial⟩

end Runs

end Globed.Server
