import Globed.Base.Isolation
import Globed.Server.Malformed

/-!
# Level membership

Where a client is, is stored twice: in its record (`level_id`) and in the levels. The two agree
(`Placed`) whenever no task is in the middle of moving the client, if the tasks that look at the
place of one client are kept apart.
-/

namespace Globed.Server

open Concurrent Bytebuffer

/-! ## The two copies -/

namespace State

/-- The level that the record of the client names, if it is not -1, which stands for no level. -/
def levelOf (st : State) (c : Int32) : Option Int32 :=
  ((st.connectedClients.get c).map (·.levelId)).filter (· ≠ -1)

/-- The client has an entry in this level and in no other. -/
def EnteredAt (st : State) (c : Int32) (level : Option Int32) : Prop :=
  ∀ l, (st.entry l c).isSome = true ↔ level = some l

/-- The levels have the client where its record says it is. -/
def Placed (st : State) (c : Int32) : Prop := st.EnteredAt c (st.levelOf c)

variable {st st' : State} {c : Int32}

theorem EnteredAt.of_entry {level : Option Int32} (h : st.EnteredAt c level)
    (he : ∀ l, (st'.entry l c).isSome = (st.entry l c).isSome) : st'.EnteredAt c level := by
  intro l
  rw [he l]
  exact h l

theorem EnteredAt.entry_none (h : st.EnteredAt c none) (l : Int32) : st.entry l c = none := by
  rw [← Option.not_isSome_iff_eq_none, h l]
  exact nofun

theorem enteredAt_none (h : ∀ l, st.entry l c = none) : st.EnteredAt c none := by
  intro l
  rw [h l]
  simp

/-- After the removal from the level it was in, a client is in none. -/
theorem EnteredAt.removeFromLevel {level : Option Int32} {l : Int32} (h : st.EnteredAt c level)
    (hl : ∀ l', level = some l' → l' = l) : (st.removeFromLevel c l).2.EnteredAt c none := by
  refine enteredAt_none fun l' => ?_
  rw [entry_removeFromLevel]
  by_cases heq : l' = l
  · rw [if_pos ⟨heq, rfl⟩]
  · rw [if_neg fun hc => heq hc.1, ← Option.not_isSome_iff_eq_none, h l']
    exact fun hlevel => heq (hl l' hlevel)

theorem EnteredAt.unique {level : Option Int32} {l : Int32} (h : st.EnteredAt c level)
    (hl : st.EnteredAt c (some l)) : level = some l :=
  (h l).mp ((hl l).mpr rfl)

theorem EnteredAt.insertIntoLevel (h : st.EnteredAt c none) (l : Int32) :
    (st.insertIntoLevel c l).2.EnteredAt c (some l) := by
  intro l'
  rw [entry_insertIntoLevel]
  by_cases hl : l' = l
  · simp [hl]
  · rw [if_neg fun hc => hl hc.1, h.entry_none l']
    simpa using fun heq => hl heq.symm

theorem EnteredAt.storePlayerData {l : Int32} (h : st.EnteredAt c (some l)) (data : PlayerData) :
    (st.storePlayerData c l data).2.EnteredAt c (some l) := by
  have hl : (st.entry l c).isSome = true := (h l).mpr rfl
  refine h.of_entry fun l' => ?_
  unfold State.storePlayerData
  cases hlevel : st.levels.get l with
  | none => rfl
  | some level =>
    by_cases heq : l' = l
    · subst heq
      simp [entry] at hl ⊢
      simp [hl]
    · simp [entry, heq]

theorem levelOf_eq_none_of_get (h : st.connectedClients.get c = none) : st.levelOf c = none := by
  rw [levelOf, h]
  rfl

theorem levelOf_of_clients (h : st'.connectedClients = st.connectedClients) :
    st'.levelOf c = st.levelOf c := by
  rw [levelOf, h, levelOf]

theorem levelOf_of_get {cd : ClientData} (h : st.connectedClients.get c = some cd)
    (hl : cd.levelId ≠ -1) : st.levelOf c = some cd.levelId := by
  rw [levelOf, h]
  simp [Option.filter, hl]

theorem levelOf_of_get_off {cd : ClientData} (h : st.connectedClients.get c = some cd)
    (hl : cd.levelId = -1) : st.levelOf c = none := by
  rw [levelOf, h]
  simp [Option.filter, hl]

theorem contains_tickLevel (o : IterOrder Int32) (level : Int32) (players : List Int32)
    (c : Int32) : (st.tickLevel o level players).2.connectedClients.contains c =
      st.connectedClients.contains c := by
  rw [FiniteMap.contains, get_tickLevel, FiniteMap.contains]
  split
  · exact Option.isSome_map
  · rfl

/-- One iteration of `tick` leaves the record of a client alone, or resets it. -/
theorem levelOf_tickLevel (o : IterOrder Int32) (level : Int32) (players : List Int32) (c : Int32) :
    (st.tickLevel o level players).2.levelOf c = st.levelOf c ∨
      st.levels.get level = none ∧ c ∈ players ∧
        (st.tickLevel o level players).2.levelOf c = none := by
  by_cases hreset : st.levels.get level = none ∧ c ∈ players
  · refine .inr ⟨hreset.1, hreset.2, ?_⟩
    rw [levelOf, get_tickLevel, if_pos hreset]
    cases st.connectedClients.get c <;> rfl
  · left
    rw [levelOf, get_tickLevel, if_neg hreset, levelOf]

end State

/-! ## Sections that look at the place of a client -/

/-- The section reads or writes one of the two copies of the place of `c`. -/
def Action.Places (c : Int32) : Action → Prop
  | addClient clientId _ _ | takeClient clientId | setLevelId clientId _ | nameAndLevel clientId
  | exitLevel clientId | levelIdOf clientId | insertIntoLevel clientId _
  | removeFromLevel clientId _ | storePlayerData clientId _ _ => clientId = c
  | _ => False

/-- What others do to the place of `c`: nothing, but that `tick` may reset the record of a client
whose level has no entry for it. -/
def undisturbed (c : Int32) : Rely State where
  moves st st' :=
    (∀ l, (st'.entry l c).isSome = (st.entry l c).isSome) ∧
    st'.connectedClients.contains c = st.connectedClients.contains c ∧
    (st'.levelOf c = st.levelOf c ∨
      st'.levelOf c = none ∧ ∃ l, st.levelOf c = some l ∧ st.entry l c = none)
  refl _ := ⟨fun _ => rfl, rfl, .inl rfl⟩
  trans := by
    rintro s s' s'' ⟨h₁, h₂, h₃⟩ ⟨h₁', h₂', h₃'⟩
    refine ⟨fun l => (h₁' l).trans (h₁ l), h₂'.trans h₂, ?_⟩
    rcases h₃' with h₃' | ⟨hnone, l, hl, he⟩
    · rw [h₃']
      exact h₃
    · rcases h₃ with h₃ | ⟨hnone', -⟩
      · refine .inr ⟨hnone, l, h₃ ▸ hl, ?_⟩
        rw [← Option.not_isSome_iff_eq_none, ← h₁ l, he]
        exact Bool.false_ne_true
      · rw [hnone'] at hl
        cases hl

theorem placed_of_undisturbed {c : Int32} {st st' : State} (h : (undisturbed c).moves st st')
    (hp : st.Placed c) : st'.Placed c := by
  obtain ⟨he, -, hl | ⟨-, l, hl, hnone⟩⟩ := h
  · rw [State.Placed, hl]
    exact hp.of_entry he
  · -- the level that the record names has the entry
    have hsome := (hp l).mpr hl
    rw [hnone] at hsome
    cases hsome

theorem levelOf_none_of_moves {c : Int32} {st st' : State} (h : (undisturbed c).moves st st')
    (hoff : st.levelOf c = none) : st'.levelOf c = none := by
  rcases h.2.2 with heq | ⟨hnone, -⟩
  · exact heq.trans hoff
  · exact hnone

/-- The section takes nobody off a level but clients whose level is gone. -/
def Action.ResetsOnly (st : State) : Action → Prop
  | tickLevel levelId players => st.levels.get levelId = none →
      ∀ c ∈ players, st.levelOf c = none ∨ st.levelOf c = some levelId
  | _ => True

/-- **Frame**: a section that does not look at the place of `c` does not disturb it. -/
theorem undisturbed_step (settings : ServerSettings) (o : Input) {a : Action} {c : Int32}
    (ha : ¬a.Places c) {st : State} (hr : a.ResetsOnly st) :
    (undisturbed c).moves st (step settings o a st).2 := by
  have hview : ∀ {st' : State}, st'.view c = st.view c → (undisturbed c).moves st st' := by
    intro st' hv
    obtain ⟨hget, hentry⟩ := Prod.ext_iff.mp hv
    have hget' : st'.connectedClients.get c = st.connectedClients.get c := hget
    refine ⟨fun l => congrArg Option.isSome (congrFun hentry l), ?_, .inl ?_⟩
    · rw [FiniteMap.contains, hget', FiniteMap.contains]
    · rw [State.levelOf, hget', State.levelOf]
  have hmodify : ∀ {f : ClientData → ClientData} {id : Int32}, (∀ cd, (f cd).levelId = cd.levelId) →
      (undisturbed c).moves st { st with connectedClients := st.connectedClients.modify id f } := by
    intro f id hf
    refine ⟨fun l => rfl, ?_, .inl ?_⟩
    · rw [FiniteMap.contains, FiniteMap.get_modify, FiniteMap.contains]
      split
      · exact Option.isSome_map
      · rfl
    · rw [State.levelOf, FiniteMap.get_modify, State.levelOf]
      split
      · rw [Option.map_map]
        exact congrArg (Option.filter _ <| Option.map · _) (funext hf)
      · rfl
  have hsubject : ∀ {b : Action}, b.subject = some c → b.Places c ∨
      (∃ data, b = .setPlayerData c data) ∨ b = .keepalive c := by
    intro b hb
    cases b <;> cases hb
    case setPlayerData.refl data => exact .inr (.inl ⟨data, rfl⟩)
    case keepalive.refl => exact .inr (.inr rfl)
    all_goals exact .inl rfl
  cases a with
  | setPlayerData id data => exact hmodify fun _ => rfl
  | keepalive id => exact hmodify fun _ => rfl
  | tickLevel level players =>
    have hlevels : (st.tickLevel o.order level players).2.levels = st.levels :=
      State.levels_tickLevel o.order level players
    refine ⟨fun l => ?_, State.contains_tickLevel o.order level players c, ?_⟩
    · exact congrArg Option.isSome (State.entry_eq_of_levels hlevels l c)
    · rcases State.levelOf_tickLevel o.order level players c with heq | ⟨hl, hc, hnone⟩
      · exact .inl heq
      · rcases hr hl c hc with hoff | hon
        · exact .inl (hnone.trans hoff.symm)
        · exact .inr ⟨hnone, level, hon, by rw [State.entry, hl]; rfl⟩
  | _ =>
    refine hview (view_step_of_subject_ne settings o (fun hs => ?_) (by rintro _ _ ⟨⟩) st)
    rcases hsubject hs with h | ⟨_, h⟩ | h
    · exact ha h
    · cases h
    · cases h

/-- What a task may find of a client that it is moving: it is registered, and in no level. -/
structure State.Away (st : State) (c : Int32) : Prop where
  enteredAt : st.EnteredAt c none
  registered : st.connectedClients.contains c = true

theorem State.Away.of_moves {st st' : State} {c : Int32} (h : st.Away c)
    (hst : (undisturbed c).moves st st') : st'.Away c :=
  ⟨h.enteredAt.of_entry hst.1, hst.2.1.trans h.registered⟩

theorem State.Away.placed {st : State} {c : Int32} (h : st.Away c) (hl : st.levelOf c = none) :
    st.Placed c := by
  rw [State.Placed, hl]
  exact h.enteredAt

/-! ## Sends that strand a client -/

/-- A UserLevelEntry or a UserLevelExit found its client on a level. -/
def FoundOnLevel : Event Action.Answer → Prop
  | ⟨.nameAndLevel _, some (_, levelId)⟩ => levelId ≠ -1
  | ⟨.exitLevel _, some (_, levelId)⟩ => levelId ≠ -1
  | _ => False

def SendFailed : Event Action.Answer → Prop
  | ⟨.sendTo _ _, sent⟩ => sent = false
  | _ => False

/-- A send failed after the client was found on a level. -/
def Stranded (log : List (Event Action.Answer)) : Prop :=
  ∃ e₁ e₂, [e₁, e₂].Sublist log ∧ FoundOnLevel e₁ ∧ SendFailed e₂

theorem stranded_append {log : List (Event Action.Answer)} {e₁ e₂ : Event Action.Answer}
    (h₁ : e₁ ∈ log) (hfound : FoundOnLevel e₁) (hfailed : SendFailed e₂) :
    Stranded (log ++ [e₂]) :=
  ⟨e₁, e₂, (List.singleton_sublist.mpr h₁).append (.refl [e₂]), hfound, hfailed⟩

/-- The place of `c`, as a resource of the tasks. -/
def place (c : Int32) : Resource Action Action.Answer State where
  touches := Action.Places c
  consistent st := st.Placed c
  rely := undisturbed c
  fine log := ¬Stranded log
  consistent_of_moves := placed_of_undisturbed
  fine_of_append := by
    rintro log e h ⟨e₁, e₂, hsub, hfound, hfailed⟩
    exact h ⟨e₁, e₂, hsub.trans (List.sublist_append_left _ _), hfound, hfailed⟩

theorem Action.Sends.not_places {a : Action} (h : a.Sends) (c : Int32) : ¬a.Places c := by
  cases a <;> first | exact h.elim | exact id

theorem Action.ActsFor.not_places {id c : Int32} (hc : c ≠ id) {a : Action} (h : a.ActsFor id) :
    ¬a.Places c := by
  intro hp
  have hsubject : a.subject = some c := by
    cases a <;> first | exact hp.elim | exact congrArg some hp
  exact h.subject hc hsubject

theorem levelIdOfPacket_ne (x : Int32) : levelIdOfPacket x ≠ -1 := by
  unfold levelIdOfPacket
  split
  · decide
  · split
    · decide
    · assumption

/-! ## The tasks leave every client in its place -/

section Owes

variable [Bytebuffer] {settings : ServerSettings} {inputs : Input → Prop} {st : State}
  {c : Int32} {log : List (Event Action.Answer)}

theorem owes_of_not_places {α : Type} {t : Task α} (ht : t.Only fun a => ¬a.Places c)
    (hs : st.Placed c) : (place c).Owes (server settings inputs).machine t log st :=
  Resource.owes_of_only ht hs

theorem owes_of_sends {α : Type} {t : Task α} (ht : t.Only Action.Sends) (hs : st.Placed c) :
    (place c).Owes (server settings inputs).machine t log st :=
  owes_of_not_places (ht.mono fun _ ha => ha.not_places c) hs

/-- What is done for another client. -/
theorem owes_of_actsFor {id : Int32} (hc : c ≠ id) {t : Task Unit}
    (ht : t.Only (Action.ActsFor id)) (hs : st.Placed c) :
    (place c).Owes (server settings inputs).machine t log st :=
  owes_of_not_places (ht.mono fun _ ha => ha.not_places hc) hs

theorem only_of_sendAll_bind {p : Action → Prop} {buf : ByteBuffer} {f : Unit → Task Unit} :
    ∀ addrs : List SocketAddr, ((addrs.forM fun addr => sendBufTo addr buf) >>= f).Only p →
      (f ()).Only p
  | [], h => h
  | _ :: addrs, h => only_of_sendAll_bind addrs (h.2 true)

/-- Sends to a list of addresses, while the client is not in its place: if one fails, the client
stays where it is. -/
theorem owes_sendAll_bind {addrs : List SocketAddr} {buf : ByteBuffer} {f : Unit → Task Unit}
    (hfound : ∃ e ∈ log, FoundOnLevel e) (hnot : ¬(f ()).Only fun a => ¬a.Places c)
    (h : ∀ log', (place c).Owes (server settings inputs).machine (f ()) log' st) :
    (place c).Owes (server settings inputs).machine
      ((addrs.forM fun addr => sendBufTo addr buf) >>= f) log st := by
  induction addrs generalizing log with
  | nil => exact h log
  | cons addr addrs ih =>
    refine Resource.owes_pass (fun honly => ?_) (fun hp => hp) fun sent => ?_
    · exact absurd (only_of_sendAll_bind addrs (honly.2 true)) hnot
    · obtain ⟨e, he, hfound⟩ := hfound
      cases sent with
      | true => exact ih ⟨e, List.mem_append_left _ he, hfound⟩
      | false =>
        refine Resource.owes_ended trivial fun hfine => absurd ?_ hfine
        exact stranded_append he hfound rfl

theorem owes_addClientToLevel {l : Int32} (hl : l ≠ -1) (h : st.Away c) :
    (place c).Owes (server settings inputs).machine (addClientToLevel c l) log st := by
  refine Resource.owes_touch rfl fun st₁ h₁ o _ => ?_
  have hinserted : (st₁.insertIntoLevel c l).1 = true := by
    rw [State.insertIntoLevel_eq]
  simp only [server, step, hinserted]
  have hat := (h.of_moves h₁).enteredAt.insertIntoLevel l
  have hreg : (st₁.insertIntoLevel c l).2.connectedClients.contains c = true := by
    rw [State.connectedClients_insertIntoLevel]
    exact (h.of_moves h₁).registered
  refine Resource.owes_touch rfl fun st₂ h₂ _ _ => Resource.owes_ended trivial fun _ => ?_
  obtain ⟨cd, hcd⟩ := FiniteMap.contains_iff.mp (h₂.2.1.trans hreg)
  have hget : (st₂.setLevelId c l).connectedClients.get c = some { cd with levelId := l } := by
    rw [State.setLevelId, FiniteMap.get_modify, if_pos rfl, hcd, Option.map_some]
  change (st₂.setLevelId c l).EnteredAt c ((st₂.setLevelId c l).levelOf c)
  rw [State.levelOf_of_get hget hl]
  exact hat.of_entry h₂.1

theorem not_only_enter {message : String} {color : UInt8 × UInt8 × UInt8} {level : Option Int32}
    {l : Int32} :
    ¬(broadcastMessage message color level >>= fun _ => addClientToLevel c l).Only
      fun a => ¬a.Places c := by
  intro honly
  exact (honly.2 []).1 rfl

/-- The second half of a UserLevelEntry. -/
theorem owes_enter {message : String} {color : UInt8 × UInt8 × UInt8} {level : Option Int32}
    {l : Int32} (hl : l ≠ -1) (h : st.Away c)
    (hlog : st.levelOf c = none ∨ ∃ e ∈ log, FoundOnLevel e) :
    (place c).Owes (server settings inputs).machine
      (broadcastMessage message color level >>= fun _ => addClientToLevel c l) log st := by
  rcases hlog with hoff | ⟨e, he, hfound⟩
  · refine Resource.owes_bind ?_ (h.placed hoff) fun _ log' => owes_addClientToLevel hl h
    exact (only_broadcastMessage message color level).mono fun _ ha => ha.not_places c
  · refine Resource.owes_pass (fun honly => absurd honly not_only_enter) id fun addrs => ?_
    have hmem : ∃ e ∈ log ++ [⟨Action.recipients level, addrs⟩], FoundOnLevel e :=
      ⟨e, List.mem_append_left _ he, hfound⟩
    refine owes_sendAll_bind hmem (fun honly => honly.1 rfl) fun log' => ?_
    exact owes_addClientToLevel hl h

theorem owes_onUserlevelentry {bbuf : ByteReader} (hs : st.Placed c)
    (hdecodes : (readI32 bbuf).isSome = true) :
    (place c).Owes (server settings inputs).machine (onUserlevelentry c bbuf) log st := by
  obtain ⟨⟨x, rest⟩, hx⟩ := Option.isSome_iff_exists.mp hdecodes
  refine Resource.owes_touch rfl fun st₁ h₁ o _ => ?_
  have hplaced := placed_of_undisturbed h₁ hs
  cases hcd : st₁.connectedClients.get c with
  | none =>
    have hnone : st₁.nameAndLevel c = none := by
      rw [State.nameAndLevel, hcd, Option.map_none]
    simp only [server, step, hnone]
    exact Resource.owes_ended trivial fun _ => hplaced
  | some cd =>
    have hfound : st₁.nameAndLevel c = some (cd.playerData.name, cd.levelId) := by
      rw [State.nameAndLevel, hcd, Option.map_some]
    have hreg : st₁.connectedClients.contains c = true := FiniteMap.contains_iff.mpr ⟨cd, hcd⟩
    simp only [server, step, hfound, read, hx, Proc.ret_bind, Proc.bind]
    have hl := levelIdOfPacket_ne x
    by_cases hoff : cd.levelId = -1
    · have hlevel := State.levelOf_of_get_off hcd hoff
      have haway : st₁.Away c := ⟨hlevel ▸ hplaced, hreg⟩
      have hleave : leaveLevel c cd.levelId = pure () := if_neg (not_not.mpr hoff)
      rw [hleave]
      exact owes_enter hl haway (.inl hlevel)
    · have hlevel := State.levelOf_of_get hcd hoff
      have hat : st₁.EnteredAt c (some cd.levelId) := hlevel ▸ hplaced
      have hleave : leaveLevel c cd.levelId = removeClientFromLevel c cd.levelId := if_pos hoff
      rw [hleave]
      refine Resource.owes_touch rfl fun st₂ h₂ _ _ => ?_
      have haway : (st₂.removeFromLevel c cd.levelId).2.Away c := by
        refine ⟨(hat.of_entry h₂.1).removeFromLevel fun _ heq => (Option.some.inj heq).symm, ?_⟩
        rw [State.connectedClients_removeFromLevel]
        exact h₂.2.1.trans hreg
      have hlog : ∀ log' : List (Event Action.Answer), ∃ e ∈ log ++ [⟨Action.nameAndLevel c,
          some (cd.playerData.name, cd.levelId)⟩] ++ log', FoundOnLevel e := by
        intro log'
        exact ⟨_, List.mem_append_left _ (List.mem_append_right _ List.mem_cons_self), hoff⟩
      cases hlevels : (st₂.removeFromLevel c cd.levelId).1 with
      | false =>
        simp only [step, hlevels]
        exact owes_enter hl haway (.inr (hlog _))
      | true =>
        simp only [step, hlevels]
        refine Resource.owes_pass (fun honly => absurd (honly.2 ()) not_only_enter) id fun _ => ?_
        rw [List.append_assoc]
        exact owes_enter hl haway (.inr (hlog _))

/-- A client whose record names no level is taken off the one that it is in. -/
theorem owes_removeClientFromLevel_bind {level : Option Int32} {l : Int32} {f : Unit → Task Unit}
    (hat : st.EnteredAt c level) (hl : ∀ l', level = some l' → l' = l)
    (hoff : st.levelOf c = none)
    (h : ∀ log' st', st'.Placed c →
      (place c).Owes (server settings inputs).machine (f ()) log' st') :
    (place c).Owes (server settings inputs).machine (removeClientFromLevel c l >>= f) log st := by
  refine Resource.owes_touch rfl fun st₁ h₁ o _ => ?_
  have hplaced : (st₁.removeFromLevel c l).2.Placed c := by
    have hlevel : (st₁.removeFromLevel c l).2.levelOf c = none := by
      rw [State.levelOf_of_clients (st₁.connectedClients_removeFromLevel c l)]
      exact levelOf_none_of_moves h₁ hoff
    rw [State.Placed, hlevel]
    exact (hat.of_entry h₁.1).removeFromLevel hl
  cases hfound : (st₁.removeFromLevel c l).1 with
  | false =>
    simp only [server, step, hfound]
    exact h _ _ hplaced
  | true =>
    simp only [server, step, hfound]
    exact Resource.owes_pass (fun _ _ => hplaced) id fun _ => h _ _ hplaced

theorem owes_onUserlevelexit (hs : st.Placed c) :
    (place c).Owes (server settings inputs).machine (onUserlevelexit c) log st := by
  refine Resource.owes_touch rfl fun st₁ h₁ o _ => ?_
  have hplaced := placed_of_undisturbed h₁ hs
  cases hcd : st₁.connectedClients.get c with
  | none =>
    have hnone : st₁.nameAndLevel c = none := by
      rw [State.nameAndLevel, hcd, Option.map_none]
    have hsame : st₁.setLevelId c (-1) = st₁ := by
      rw [State.setLevelId, FiniteMap.modify_of_get_none hcd]
    simp only [server, step, State.exitLevel, hnone, hsame]
    exact Resource.owes_ended trivial fun _ => hplaced
  | some cd =>
    have hfound : st₁.nameAndLevel c = some (cd.playerData.name, cd.levelId) := by
      rw [State.nameAndLevel, hcd, Option.map_some]
    have hoff : (st₁.setLevelId c (-1)).levelOf c = none := by
      have hget : (st₁.setLevelId c (-1)).connectedClients.get c =
          some { cd with levelId := -1 } := by
        rw [State.setLevelId, FiniteMap.get_modify, if_pos rfl, hcd, Option.map_some]
      exact State.levelOf_of_get_off hget rfl
    have hat : (st₁.setLevelId c (-1)).EnteredAt c (st₁.levelOf c) := hplaced
    have hl : ∀ l', st₁.levelOf c = some l' → l' = cd.levelId := by
      intro l' hl'
      rw [State.levelOf, hcd, Option.map_some, Option.filter_eq_some_iff] at hl'
      exact (Option.some.inj hl'.1).symm
    have hend : ∀ log', (place c).Owes (server settings inputs).machine
        (removeClientFromLevel c cd.levelId) log' (st₁.setLevelId c (-1)) := by
      intro log'
      rw [← Proc.bind_ret (removeClientFromLevel c cd.levelId)]
      refine owes_removeClientFromLevel_bind hat hl hoff fun _ _ hp => ?_
      exact Resource.owes_ended trivial fun _ => hp
    simp only [server, step, State.exitLevel, hfound, Proc.bind]
    by_cases hon : cd.levelId = -1
    · have hstay : (st₁.setLevelId c (-1)).Placed c := by
        rw [State.Placed, hoff, ← State.levelOf_of_get_off hcd hon]
        exact hat
      refine Resource.owes_bind ?_ hstay fun _ log' => hend log'
      exact (only_broadcastMessage _ _ _).mono fun _ ha => ha.not_places c
    · refine Resource.owes_pass (fun honly => ?_) id fun addrs => ?_
      · exact absurd rfl (honly.2 []).1
      · have hmem : ∃ e ∈ log ++ [⟨Action.exitLevel c, some (cd.playerData.name, cd.levelId)⟩] ++
            [⟨Action.recipients (some cd.levelId), addrs⟩], FoundOnLevel e :=
          ⟨_, List.mem_append_left _ (List.mem_append_right _ List.mem_cons_self), hon⟩
        exact owes_sendAll_bind hmem (fun honly => honly.1 rfl) hend

omit [Bytebuffer] in
theorem removeClient_bind (id : Int32) (f : Option ClientData → Task Unit) :
    (removeClient id >>= f) = .act (.takeClient id) fun taken =>
      match taken with
      | none => f none
      | some client => leaveLevel id client.levelId >>= fun _ => f (some client) := by
  rw [removeClient, Proc.perform_bind, Proc.act_bind]
  refine congrArg _ (funext fun taken => ?_)
  cases taken with
  | none => rfl
  | some client => exact bind_assoc _ _ _

theorem owes_removeClient_bind {id : Int32} {f : Option ClientData → Task Unit}
    (hs : st.Placed c)
    (h : ∀ x log' st', st'.Placed c →
      (place c).Owes (server settings inputs).machine (f x) log' st') :
    (place c).Owes (server settings inputs).machine (removeClient id >>= f) log st := by
  by_cases hc : c = id
  · subst hc
    rw [removeClient_bind]
    refine Resource.owes_touch rfl fun st₁ h₁ o _ => ?_
    have hat : (st₁.takeClient c).2.EnteredAt c (st₁.levelOf c) := placed_of_undisturbed h₁ hs
    have hoff : (st₁.takeClient c).2.levelOf c = none := by
      apply State.levelOf_eq_none_of_get
      rw [State.takeClient, FiniteMap.get_erase, if_pos rfl]
    cases hcd : st₁.connectedClients.get c with
    | none =>
      have hfound : (st₁.takeClient c).1 = none := hcd
      rw [State.levelOf_eq_none_of_get hcd] at hat
      simp only [server, step, hfound]
      apply h none _ _
      rw [State.Placed, hoff]
      exact hat
    | some cd =>
      have hfound : (st₁.takeClient c).1 = some cd := hcd
      simp only [server, step, hfound]
      by_cases hon : cd.levelId = -1
      · have hleave : leaveLevel c cd.levelId = pure () := if_neg (not_not.mpr hon)
        rw [State.levelOf_of_get_off hcd hon] at hat
        rw [hleave]
        refine h (some cd) _ _ ?_
        rw [State.Placed, hoff]
        exact hat
      · have hleave : leaveLevel c cd.levelId = removeClientFromLevel c cd.levelId := if_pos hon
        rw [State.levelOf_of_get hcd hon] at hat
        rw [hleave]
        refine owes_removeClientFromLevel_bind hat (fun _ heq => (Option.some.inj heq).symm) hoff ?_
        intro log' st' hp
        exact h (some cd) log' st' hp
  · refine Resource.owes_bind ?_ hs fun x log' => h x log' st hs
    exact actsFor_removeClient.mono fun _ ha => ha.not_places hc

theorem not_places_answerLevel (l : Int32) :
    (answerLevel settings c l).Only fun a => ¬a.Places c := by
  unfold answerLevel
  split
  · refine ⟨id, fun level => ?_⟩
    cases level with
    | none => trivial
    | some level => exact (only_sendTo c _).mono fun _ ha => ha.not_places c
  · trivial

theorem owes_updateLevel_bind {l : Int32} {spectating : Bool} {bbuf : ByteReader}
    {f : Unit → Task Unit} (hs : st.Placed c) (hl : l ≠ -1 → st.levelOf c = some l)
    (h : ∀ log' st', st'.Placed c →
      (place c).Owes (server settings inputs).machine (f ()) log' st') :
    (place c).Owes (server settings inputs).machine (updateLevel c l spectating bbuf >>= f) log
      st := by
  unfold updateLevel
  cases spectating with
  | true => exact h log st hs
  | false =>
    cases hdata : PlayerData.decode bbuf with
    | none =>
      simp only [Bool.not_false, if_true, read, hdata, Proc.err_bind]
      exact Resource.owes_ended trivial fun _ => hs
    | some p =>
      simp only [Bool.not_false, if_true, read, hdata, Proc.ret_bind]
      split
      · next hne =>
        refine Resource.owes_touch rfl fun st₁ h₁ o _ => ?_
        have hat : st₁.EnteredAt c (some l) := by
          rw [← hl hne]
          exact hs.of_entry h₁.1
        have hlevel : st₁.levelOf c = some l := (placed_of_undisturbed h₁ hs).unique hat
        have hplaced : (st₁.storePlayerData c l p.1).2.Placed c := by
          rw [State.Placed, State.levelOf_of_clients (st₁.connectedClients_storePlayerData c l p.1),
            hlevel]
          exact hat.storePlayerData p.1
        cases hfound : (st₁.storePlayerData c l p.1).1 with
        | true =>
          simp only [server, step, hfound]
          exact h _ _ hplaced
        | false =>
          simp only [server, step, hfound]
          exact Resource.owes_ended trivial fun _ => hplaced
      · exact h log st hs

theorem owes_onUpdatedata {spectating : Bool} {bbuf : ByteReader} (hs : st.Placed c) :
    (place c).Owes (server settings inputs).machine (onUpdatedata settings c spectating bbuf) log
      st := by
  refine Resource.owes_touch rfl fun st₁ h₁ o _ => ?_
  have hplaced := placed_of_undisturbed h₁ hs
  cases hcd : st₁.connectedClients.get c with
  | none =>
    simp only [server, step, hcd, Option.map_none]
    exact Resource.owes_ended trivial fun _ => hplaced
  | some cd =>
    simp only [server, step, hcd, Option.map_some, Proc.bind]
    refine owes_updateLevel_bind hplaced (State.levelOf_of_get hcd) fun log' st' hp => ?_
    exact owes_of_not_places (not_places_answerLevel cd.levelId) hp

theorem owes_handleCheckIn {key : Int32} {peer : SocketAddr} {bbuf : ByteReader}
    (hs : st.Placed c) :
    (place c).Owes (server settings inputs).machine (handleCheckIn settings c key peer bbuf) log
      st := by
  refine Resource.owes_touch rfl fun st₁ h₁ o _ => ?_
  have hplaced := placed_of_undisturbed h₁ hs
  by_cases hno : st₁.connectedClients.contains c = true ∨ st₁.Full settings
  · obtain ⟨e, hadded⟩ := State.addClient_refused st₁ hno o.now peer key
    simp only [server, step, hadded]
    exact owes_of_sends (only_sendBufTo _ _) hplaced
  rw [not_or] at hno
  have hadded := State.addClient_accepted st₁ hno.1 hno.2 o.now peer key
  have hnone : st₁.connectedClients.get c = none := by
    rw [← Option.not_isSome_iff_eq_none]
    exact hno.1
  -- a client that was not registered is in no level
  have hat : (st₁.addClient settings o.now c peer key).2.EnteredAt c none := by
    rw [hadded, ← State.levelOf_eq_none_of_get hnone]
    exact hplaced
  have hoff : (st₁.addClient settings o.now c peer key).2.levelOf c = none := by
    have hget : (st₁.addClient settings o.now c peer key).2.connectedClients.get c =
        some (.checkedIn peer key o.now .empty) := by
      rw [hadded, FiniteMap.get_insert_self]
    exact State.levelOf_of_get_off hget rfl
  have hin : (st₁.addClient settings o.now c peer key).2.Placed c := by
    rw [State.Placed, hoff]
    exact hat
  have hok : (st₁.addClient settings o.now c peer key).1 = .ok () := by
    rw [hadded]
  simp only [server, step, hok, Proc.bind]
  cases hdata : PlayerAccountData.decode bbuf with
  | none =>
    simp only [read, hdata, Proc.err_bind]
    exact Resource.owes_ended trivial fun _ => hin
  | some p =>
    simp only [read, hdata, Proc.ret_bind]
    split
    · refine Resource.owes_pass (fun _ _ => hin) id fun sent => ?_
      cases sent with
      | false => exact Resource.owes_ended trivial fun _ => hin
      | true =>
        refine Resource.owes_touch rfl fun st₂ h₂ _ _ => Resource.owes_ended trivial fun _ => ?_
        have hgone : (st₂.takeClient c).2.levelOf c = none := by
          apply State.levelOf_eq_none_of_get
          rw [State.takeClient, FiniteMap.get_erase, if_pos rfl]
        change (st₂.takeClient c).2.EnteredAt c ((st₂.takeClient c).2.levelOf c)
        rw [hgone]
        exact hat.of_entry h₂.1
    · refine owes_of_not_places ⟨id, fun found => ?_⟩ hin
      cases found with
      | false => trivial
      | true => exact (only_sendTo c _).mono fun _ ha => ha.not_places c

/-- Every packet of a known client whose payload can be decoded leaves the client in its place. -/
theorem owes_dispatch {ptype : ClientPacketKind} {bbuf : ByteReader} (hs : st.Placed c)
    (hdecodes : payloadDecodes ptype bbuf = true) :
    (place c).Owes (server settings inputs).machine (dispatch settings ptype c bbuf) log st := by
  have hsend : ∀ (id : Int32) (data : ByteBuffer), (sendTo id data).Only fun a => ¬a.Places c :=
    fun id data => (only_sendTo id data).mono fun _ ha => ha.not_places c
  cases ptype with
  | userLevelEntry => exact owes_onUserlevelentry hs hdecodes
  | userLevelExit => exact owes_onUserlevelexit hs
  | userLevelData => exact owes_onUpdatedata hs
  | spectateNoData => exact owes_onUpdatedata hs
  | disconnect =>
    refine owes_removeClient_bind hs fun _ log' st' hp => ?_
    exact Resource.owes_ended trivial fun _ => hp
  | keepalive => exact owes_of_not_places ⟨id, fun _ => hsend _ _⟩ hs
  | levelListRequest => exact owes_of_not_places ⟨id, fun _ => hsend _ _⟩ hs
  | playerAccountDataRequest =>
    refine owes_of_not_places ((only_read _ bbuf).bind fun p => ⟨id, fun icons => ?_⟩) hs
    cases icons with
    | none => trivial
    | some icons => exact hsend _ _
  | sendTextMessage =>
    refine owes_of_not_places ?_ hs
    change (onSendtextmessage c bbuf).Only _
    unfold onSendtextmessage
    split
    · refine ⟨id, fun _ => ?_⟩
      exact (only_broadcastUserMessage _ _).mono fun _ ha => ha.not_places c
    · trivial
  | ping => exact Resource.owes_ended trivial fun _ => hs
  | checkIn => exact Resource.owes_ended trivial fun _ => hs

theorem owes_serve {ptype : ClientPacketKind} {id key : Int32} {peer : SocketAddr}
    {bbuf : ByteReader} (hs : st.Placed c) (hdecodes : payloadDecodes ptype bbuf = true) :
    (place c).Owes (server settings inputs).machine (serve settings ptype id key peer bbuf) log
      st := by
  by_cases hc : c = id
  · subst hc
    by_cases hid : c = 0
    · rw [serve, if_pos hid]
      exact owes_of_sends (only_sendBufTo _ _) hs
    by_cases hp : ptype = .checkIn
    · rw [serve, if_neg hid, if_pos hp]
      exact owes_handleCheckIn hs
    · rw [serve_verified peer bbuf hid hp]
      refine Resource.owes_pass (fun _ _ => hs) (fun hplaces => hplaces) fun verified => ?_
      cases verified with
      | ok _ => exact owes_dispatch hs hdecodes
      | error err => exact owes_of_sends (only_turnAway peer err) hs
  · exact owes_of_actsFor hc (actsFor_serve settings ptype key peer bbuf) hs

theorem owes_removeDeadClients (hs : st.Placed c) :
    (place c).Owes (server settings inputs).machine removeDeadClients log st := by
  refine Resource.owes_pass (fun _ _ => hs) id fun now => ?_
  refine Resource.owes_pass (fun _ _ => hs) id fun toRemove => ?_
  have hloop : ∀ (ids : List Int32) (log : List (Event Action.Answer)) (st : State), st.Placed c →
      (place c).Owes (server settings inputs).machine
        (ids.forM fun id => removeClient id >>= fun _ => .ret ()) log st := by
    intro ids
    induction ids with
    | nil => exact fun log st hs => Resource.owes_ended trivial fun _ => hs
    | cons id ids ih =>
      intro log st hs
      rw [Proc.forM_cons, bind_assoc]
      exact owes_removeClient_bind hs fun _ log' st' hp => ih log' st' hp
  exact hloop toRemove _ st hs

/-! ## Requests -/

/-- A packet has a header, or the id of a ping, and the payload of its kind; and cleanups do not
come from outside. -/
def Request.WellFormed : Request → Prop
  | packet buf _ =>
    (∃ ptype id key bbuf, header buf = some (ptype, id, key, bbuf) ∧
      payloadDecodes ptype bbuf = true) ∨
    ∃ bbuf, readU8 (fromBytes buf) = some (ClientPacketKind.ping.toU8, bbuf) ∧
      payloadDecodes .ping bbuf = true
  | sweep => True
  | tick => True
  | removeEmptyLevels => False

/-- **Every well-formed request leaves every client in its place.** -/
theorem owes_task {k : Request} (hk : k.WellFormed) (hs : st.Placed c) :
    (place c).Owes (server settings inputs).machine (k.task settings) [] st := by
  cases k with
  | packet buf peer =>
    rcases header_cases buf with ⟨ptype, id, key, bbuf, hheader, -, hserve⟩ | ⟨hnone, honly⟩
    · rcases hk with ⟨_, _, _, _, hheader', hdecodes⟩ | ⟨bbuf', hping, -⟩
      · rw [hheader] at hheader'
        cases hheader'
        rw [Request.task, hserve]
        exact owes_serve hs hdecodes
      · simp [header, hping] at hheader
    · refine owes_of_not_places ((honly settings peer).mono fun a ha => ?_) hs
      rcases ha with ha | rfl
      · exact ha.not_places c
      · exact id
  | sweep => exact owes_removeDeadClients hs
  | tick =>
    refine owes_of_not_places (ticks_tick.mono fun a ha => ?_) hs
    cases a <;> first | exact ha.elim | exact id
  | removeEmptyLevels => exact hk.elim

end Owes

end Globed.Server
