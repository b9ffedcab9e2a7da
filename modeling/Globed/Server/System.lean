import Globed.Server.Handlers

/-!
# The server as a system of tasks

What a section does to the two maps, seen through lookups: the record of a client, and the entry of
a client in a level. Each section works for one client (`Action.subject`), and a handler contains
only sections that work for the client whose packet it handles.
-/

namespace Globed.Server

open Concurrent

/-! ## Lookups -/

namespace State

/-- The entry of a client in a level. -/
def entry (st : State) (levelId clientId : Int32) : Option PlayerData :=
  (st.levels.get levelId).bind (·.get clientId)

variable {st : State}

theorem addClient_contains {settings : ServerSettings} {now : SystemTime} {clientId key : Int32}
    {address : SocketAddr} (h : st.connectedClients.contains clientId = true) :
    st.addClient settings now clientId address key =
      (.error (.anyhow "Client already exists, please wait a minute before reconnecting."),
        st) := by
  rw [addClient, if_pos h]

@[simp] theorem levels_addClient (settings : ServerSettings) (now : SystemTime)
    (clientId key : Int32) (address : SocketAddr) :
    (st.addClient settings now clientId address key).2.levels = st.levels := by
  unfold addClient
  split
  · rfl
  · split <;> rfl

theorem get_addClient_of_ne (settings : ServerSettings) (now : SystemTime) {clientId key c : Int32}
    (address : SocketAddr) (h : c ≠ clientId) :
    (st.addClient settings now clientId address key).2.connectedClients.get c =
      st.connectedClients.get c := by
  unfold addClient
  split
  · rfl
  · split
    · rfl
    · exact st.connectedClients.get_insert_of_ne _ h

/-- A level exists once it was entered. -/
theorem insertIntoLevel_eq (clientId levelId : Int32) :
    st.insertIntoLevel clientId levelId =
      (true, { st with
        levels := st.levels.insert levelId
          (((st.levels.get levelId).getD .empty).insert clientId .empty) }) := by
  unfold insertIntoLevel
  cases h : st.levels.get levelId with
  | none =>
    have hc : ¬st.levels.contains levelId = true := by simp [h]
    simp only [if_neg hc, FiniteMap.get_insert_self, FiniteMap.insert_insert_self,
      Option.getD_none]
  | some level =>
    have hc : st.levels.contains levelId = true := FiniteMap.contains_iff.mpr ⟨level, h⟩
    simp only [if_pos hc, h, Option.getD_some]

@[simp] theorem connectedClients_insertIntoLevel (clientId levelId : Int32) :
    (st.insertIntoLevel clientId levelId).2.connectedClients = st.connectedClients := by
  rw [insertIntoLevel_eq]

theorem entry_insertIntoLevel (clientId levelId l c : Int32) :
    (st.insertIntoLevel clientId levelId).2.entry l c =
      if l = levelId ∧ c = clientId then some .empty else st.entry l c := by
  rw [insertIntoLevel_eq]
  unfold entry
  by_cases hl : l = levelId
  · subst hl
    by_cases hc : c = clientId <;> cases h : st.levels.get l <;> simp [hc]
  · simp [hl]

@[simp] theorem connectedClients_removeFromLevel (clientId levelId : Int32) :
    (st.removeFromLevel clientId levelId).2.connectedClients = st.connectedClients := by
  unfold removeFromLevel
  split <;> rfl

theorem entry_removeFromLevel (clientId levelId l c : Int32) :
    (st.removeFromLevel clientId levelId).2.entry l c =
      if l = levelId ∧ c = clientId then none else st.entry l c := by
  unfold removeFromLevel entry
  by_cases hl : l = levelId
  · subst hl
    cases h : st.levels.get l <;> by_cases hc : c = clientId <;> simp [h, hc]
  · split <;> simp [hl]

@[simp] theorem connectedClients_storePlayerData (clientId levelId : Int32) (data : PlayerData) :
    (st.storePlayerData clientId levelId data).2.connectedClients = st.connectedClients := by
  unfold storePlayerData
  split <;> rfl

/-- Data is stored only in a level that exists. -/
theorem entry_storePlayerData (clientId levelId : Int32) (data : PlayerData) (l c : Int32) :
    (st.storePlayerData clientId levelId data).2.entry l c =
      if (l = levelId ∧ c = clientId) ∧ st.levels.contains levelId = true then some data
      else st.entry l c := by
  unfold storePlayerData entry
  cases h : st.levels.get levelId with
  | none => simp [h]
  | some level =>
    by_cases hl : l = levelId
    · subst hl
      by_cases hc : c = clientId <;> simp [FiniteMap.contains, h, hc]
    · simp [hl]

theorem entry_storePlayerData_of_ne {clientId c : Int32} (levelId l : Int32) (data : PlayerData)
    (hc : c ≠ clientId) :
    (st.storePlayerData clientId levelId data).2.entry l c = st.entry l c := by
  rw [entry_storePlayerData, if_neg fun h => hc h.1.2]

@[simp] theorem connectedClients_retainLevels :
    st.retainLevels.connectedClients = st.connectedClients := rfl

/-- The cleanup of empty levels removes no entry. -/
@[simp] theorem entry_retainLevels (l c : Int32) : st.retainLevels.entry l c = st.entry l c := by
  unfold retainLevels entry
  dsimp only
  rw [FiniteMap.get_retain]
  cases st.levels.get l with
  | none => rfl
  | some level =>
    cases hc : level.get c with
    | none => cases h : FiniteMap.isEmpty level <;> simp [Option.filter, h, hc]
    | some data => simp [Option.filter, FiniteMap.isEmpty_eq_false_of_get hc, hc]

theorem levels_foldl_setLevelId (players : List Int32) (levelId : Int32) :
    (players.foldl (fun st player => st.setLevelId player levelId) st).levels = st.levels := by
  induction players generalizing st with
  | nil => rfl
  | cons p ps ih => rw [List.foldl_cons, ih]; rfl

theorem get_foldl_setLevelId (players : List Int32) (levelId c : Int32) :
    (players.foldl (fun st player => st.setLevelId player levelId) st).connectedClients.get c =
      if c ∈ players then (st.connectedClients.get c).map ({ · with levelId })
      else st.connectedClients.get c := by
  induction players generalizing st with
  | nil => rfl
  | cons p ps ih =>
    rw [List.foldl_cons, ih, setLevelId, FiniteMap.get_modify]
    by_cases hp : c = p
    · subst hp
      cases st.connectedClients.get c <;> simp
    · simp [hp]

theorem get_tickLevel (o : IterOrder Int32) (level : Int32) (players : List Int32) (c : Int32) :
    (st.tickLevel o level players).2.connectedClients.get c =
      if st.levels.get level = none ∧ c ∈ players then
        (st.connectedClients.get c).map ({ · with levelId := -1 })
      else st.connectedClients.get c := by
  unfold tickLevel
  cases hl : st.levels.get level with
  | none => simpa using get_foldl_setLevelId players (-1) c
  | some data => simp

@[simp] theorem levels_tickLevel (o : IterOrder Int32) (levelId : Int32) (players : List Int32) :
    (st.tickLevel o levelId players).2.levels = st.levels := by
  unfold tickLevel
  split
  · exact levels_foldl_setLevelId players (-1)
  · rfl

theorem entry_eq_of_levels {st st' : State} (h : st'.levels = st.levels) (l c : Int32) :
    st'.entry l c = st.entry l c := by
  rw [entry, h, entry]

end State

/-! ## The client of a section -/

/-- The client whose record or level entry a section reads for, or writes. -/
def Action.subject : Action → Option Int32
  | addClient clientId _ _ | takeClient clientId | setLevelId clientId _ | setPlayerData clientId _
  | keepalive clientId | nameAndLevel clientId | exitLevel clientId | levelIdOf clientId
  | insertIntoLevel clientId _ | removeFromLevel clientId _ | storePlayerData clientId _ _ =>
    some clientId
  | _ => none

/-- The section works for nobody but `clientId`. -/
def Action.ActsFor (clientId : Int32) : Action → Prop
  | tickLevel _ _ => False
  | a => ∀ c, a.subject = some c → c = clientId

/-- What the two maps hold about a client. -/
def State.view (c : Int32) (st : State) : Option ClientData × (Int32 → Option PlayerData) :=
  (st.connectedClients.get c, fun l => st.entry l c)

/-- **Frame**: a section leaves alone all clients but the one it works for. -/
theorem view_step_of_subject_ne (settings : ServerSettings) (o : Input) {a : Action} {c : Int32}
    (h : a.subject ≠ some c) (ht : ∀ l players, a = .tickLevel l players → c ∉ players)
    (st : State) : (step settings o a st).2.view c = st.view c := by
  have hview : ∀ {st' : State}, st'.connectedClients.get c = st.connectedClients.get c →
      (∀ l, st'.entry l c = st.entry l c) → st'.view c = st.view c := fun h₁ h₂ =>
    Prod.ext h₁ (funext h₂)
  have hne : ∀ {id}, a.subject = some id → c ≠ id := by
    rintro id hid rfl
    exact h hid
  cases a with
  | addClient id address key =>
    exact hview (st.get_addClient_of_ne settings o.now address (hne rfl))
      (st.entry_eq_of_levels (st.levels_addClient settings o.now id key address) · c)
  | takeClient id => exact hview (FiniteMap.get_erase_of_ne _ (hne rfl)) fun _ => rfl
  | setLevelId id _ => exact hview (FiniteMap.get_modify_of_ne _ _ (hne rfl)) fun _ => rfl
  | setPlayerData id _ => exact hview (FiniteMap.get_modify_of_ne _ _ (hne rfl)) fun _ => rfl
  | keepalive id => exact hview (FiniteMap.get_modify_of_ne _ _ (hne rfl)) fun _ => rfl
  | exitLevel id => exact hview (FiniteMap.get_modify_of_ne _ _ (hne rfl)) fun _ => rfl
  | insertIntoLevel id level =>
    refine hview (by simp [step]) fun l => ?_
    have hc : ¬(l = level ∧ c = id) := fun hc => hne rfl hc.2
    rw [step, State.entry_insertIntoLevel, if_neg hc]
  | removeFromLevel id level =>
    refine hview (by simp [step]) fun l => ?_
    have hc : ¬(l = level ∧ c = id) := fun hc => hne rfl hc.2
    rw [step, State.entry_removeFromLevel, if_neg hc]
  | storePlayerData id level data =>
    exact hview (by simp [step]) fun l => State.entry_storePlayerData_of_ne level l data (hne rfl)
  | retainLevels => exact hview rfl fun l => State.entry_retainLevels l c
  | tickLevel level players =>
    refine hview ?_ (State.entry_eq_of_levels (State.levels_tickLevel o.order level players) · c)
    change (st.tickLevel o.order level players).2.connectedClients.get c = _
    unfold State.tickLevel
    split
    · exact (State.get_foldl_setLevelId players (-1) c).trans (if_neg (ht level players rfl))
    · rfl
  | _ => rfl

/-- The section works for nobody but `clientId`, and takes nobody off a level. -/
def Action.StaysFor (clientId : Int32) : Action → Prop
  | tickLevel _ _ | removeFromLevel _ _ => False
  | a => ∀ c, a.subject = some c → c = clientId

theorem Action.StaysFor.actsFor {clientId : Int32} {a : Action} (h : a.StaysFor clientId) :
    a.ActsFor clientId := by
  cases a <;> first | exact h.elim | exact h

theorem actsFor_of_staysFor {clientId : Int32} {α : Type} {t : Task α}
    (h : t.Only (Action.StaysFor clientId)) : t.Only (Action.ActsFor clientId) :=
  h.mono fun _ => Action.StaysFor.actsFor

theorem Action.ActsFor.subject {clientId : Int32} {a : Action} (h : a.ActsFor clientId) {c : Int32}
    (hc : c ≠ clientId) : a.subject ≠ some c := by
  intro hs
  cases a <;> first | exact hc (h c hs) | cases hs

theorem Action.ActsFor.not_tick {clientId : Int32} {a : Action} (h : a.ActsFor clientId) :
    ∀ l players, a ≠ .tickLevel l players := by
  rintro l players rfl
  exact h

/-! ## What the handlers contain -/

section Only

@[simp] theorem only_anyhow {p : Action → Prop} {α : Type} (msg : String) :
    (anyhow msg : Task α).Only p := trivial

/-- What may be done while data is sent. -/
def Action.Sends : Action → Prop
  | sendTo _ _ | clientAddress _ | recipients _ | userRecipients _ => True
  | _ => False

variable {clientId : Int32}

theorem Action.Sends.staysFor {a : Action} (h : a.Sends) : a.StaysFor clientId := by
  cases a <;> first | exact h.elim | exact fun _ hc => nomatch hc

theorem actsFor_removeClientFromLevel (levelId : Int32) :
    (removeClientFromLevel clientId levelId).Only (Action.ActsFor clientId) := by
  refine ⟨fun c hc => (Option.some.inj hc).symm, fun found => ?_⟩
  cases found
  · trivial
  · exact ⟨fun _ hc => (nomatch hc), fun _ => trivial⟩

theorem actsFor_leaveLevel (levelId : Int32) :
    (leaveLevel clientId levelId).Only (Action.ActsFor clientId) := by
  unfold leaveLevel
  split
  · exact actsFor_removeClientFromLevel levelId
  · trivial

theorem staysFor_addClientToLevel (levelId : Int32) :
    (addClientToLevel clientId levelId).Only (Action.StaysFor clientId) := by
  refine ⟨fun c hc => (Option.some.inj hc).symm, fun found => ?_⟩
  cases found
  · trivial
  · exact ⟨fun c hc => (Option.some.inj hc).symm, fun _ => trivial⟩

theorem actsFor_removeClient : (removeClient clientId).Only (Action.ActsFor clientId) := by
  refine ⟨fun c hc => (Option.some.inj hc).symm, fun client => ?_⟩
  cases client with
  | none => trivial
  | some client => exact (actsFor_leaveLevel client.levelId).bind fun _ => trivial

variable [Bytebuffer]

@[simp] theorem only_read {p : Action → Prop} {α : Type} (d : Decoder Bytebuffer.ByteReader α)
    (r : Bytebuffer.ByteReader) : (read d r).Only p := by
  unfold read
  split <;> trivial

theorem only_sendBufTo (addr : SocketAddr) (buf : Bytebuffer.ByteBuffer) :
    (sendBufTo addr buf).Only Action.Sends := by
  refine ⟨trivial, fun sent => ?_⟩
  cases sent <;> trivial

theorem only_sendTo (clientId : Int32) (data : Bytebuffer.ByteBuffer) :
    (sendTo clientId data).Only Action.Sends := by
  refine ⟨trivial, fun address => ?_⟩
  cases address with
  | none => trivial
  | some address => exact only_sendBufTo address data

theorem only_broadcastMessage (message : String) (color : UInt8 × UInt8 × UInt8)
    (levelId : Option Int32) : (broadcastMessage message color levelId).Only Action.Sends :=
  ⟨trivial, fun clients => .forM clients fun address _ => only_sendBufTo address _⟩

theorem only_broadcastUserMessage (senderClientId : Int32) (message : String) :
    (broadcastUserMessage senderClientId message).Only Action.Sends := by
  refine ⟨trivial, fun clients => ?_⟩
  cases clients with
  | none => trivial
  | some clients =>
    refine .forM clients fun address _ => .bind ?_ fun message => only_sendBufTo address _
    unfold cutMessage sliceTo
    split
    · split <;> trivial
    · trivial

theorem staysFor_sendTo (id : Int32) (data : Bytebuffer.ByteBuffer) :
    (sendTo id data).Only (Action.StaysFor clientId) :=
  (only_sendTo id data).mono fun _ => Action.Sends.staysFor

theorem staysFor_sendBufTo (addr : SocketAddr) (buf : Bytebuffer.ByteBuffer) :
    (sendBufTo addr buf).Only (Action.StaysFor clientId) :=
  (only_sendBufTo addr buf).mono fun _ => Action.Sends.staysFor

theorem staysFor_broadcastMessage (message : String) (color : UInt8 × UInt8 × UInt8)
    (levelId : Option Int32) :
    (broadcastMessage message color levelId).Only (Action.StaysFor clientId) :=
  (only_broadcastMessage message color levelId).mono fun _ => Action.Sends.staysFor

theorem actsFor_onUserlevelentry (bbuf : Bytebuffer.ByteReader) :
    (onUserlevelentry clientId bbuf).Only (Action.ActsFor clientId) := by
  refine ⟨fun c hc => (Option.some.inj hc).symm, fun found => ?_⟩
  cases found with
  | none => trivial
  | some found =>
    refine (actsFor_leaveLevel found.2).bind fun _ => (only_read _ bbuf).bind fun p => ?_
    refine (actsFor_of_staysFor (staysFor_broadcastMessage _ _ _)).bind fun _ => ?_
    exact actsFor_of_staysFor (staysFor_addClientToLevel _)

theorem actsFor_onUserlevelexit : (onUserlevelexit clientId).Only (Action.ActsFor clientId) := by
  refine ⟨fun c hc => (Option.some.inj hc).symm, fun found => ?_⟩
  cases found with
  | none => trivial
  | some found =>
    refine (actsFor_of_staysFor (staysFor_broadcastMessage _ _ _)).bind fun _ => ?_
    exact actsFor_removeClientFromLevel _

theorem staysFor_updateLevel (levelId : Int32) (spectating : Bool) (bbuf : Bytebuffer.ByteReader) :
    (updateLevel clientId levelId spectating bbuf).Only (Action.StaysFor clientId) := by
  unfold updateLevel
  split
  · refine (only_read _ bbuf).bind fun p => ?_
    dsimp only
    split
    · refine ⟨fun c hc => (Option.some.inj hc).symm, fun found => ?_⟩
      cases found <;> trivial
    · trivial
  · trivial

theorem staysFor_answerLevel (settings : ServerSettings) (levelId : Int32) :
    (answerLevel settings clientId levelId).Only (Action.StaysFor clientId) := by
  unfold answerLevel
  split
  · refine ⟨fun _ hc => (nomatch hc), fun level => ?_⟩
    cases level with
    | none => trivial
    | some level => exact staysFor_sendTo _ _
  · trivial

theorem staysFor_onUpdatedata (settings : ServerSettings) (spectating : Bool)
    (bbuf : Bytebuffer.ByteReader) :
    (onUpdatedata settings clientId spectating bbuf).Only (Action.StaysFor clientId) := by
  refine ⟨fun c hc => (Option.some.inj hc).symm, fun levelId => ?_⟩
  cases levelId with
  | none => trivial
  | some levelId =>
    exact (staysFor_updateLevel levelId spectating bbuf).bind fun _ => staysFor_answerLevel _ _

theorem staysFor_handleCheckIn (settings : ServerSettings) (secretKey : Int32) (peer : SocketAddr)
    (bbuf : Bytebuffer.ByteReader) :
    (handleCheckIn settings clientId secretKey peer bbuf).Only (Action.StaysFor clientId) := by
  refine ⟨fun c hc => (Option.some.inj hc).symm, fun added => ?_⟩
  cases added with
  | error e => exact staysFor_sendBufTo _ _
  | ok _ =>
    refine (only_read _ bbuf).bind fun p => ?_
    dsimp only
    split
    · refine (staysFor_sendBufTo _ _).bind fun _ => ?_
      exact ⟨fun c hc => (Option.some.inj hc).symm, fun _ => trivial⟩
    · refine ⟨fun c hc => (Option.some.inj hc).symm, fun found => ?_⟩
      cases found
      · trivial
      · exact staysFor_sendTo _ _

/-- The kinds of packets that take a client off its level. -/
def ClientPacketKind.Leaves : ClientPacketKind → Prop
  | disconnect | userLevelEntry | userLevelExit => True
  | _ => False

theorem staysFor_dispatch (settings : ServerSettings) {ptype : ClientPacketKind}
    (h : ¬ptype.Leaves) (bbuf : Bytebuffer.ByteReader) :
    (dispatch settings ptype clientId bbuf).Only (Action.StaysFor clientId) := by
  cases ptype with
  | keepalive =>
    exact ⟨fun c hc => (Option.some.inj hc).symm, fun _ => staysFor_sendTo _ _⟩
  | userLevelData => exact staysFor_onUpdatedata settings false bbuf
  | spectateNoData => exact staysFor_onUpdatedata settings true bbuf
  | playerAccountDataRequest =>
    refine (only_read _ bbuf).bind fun p => ⟨fun _ hc => (nomatch hc), fun icons => ?_⟩
    cases icons with
    | none => trivial
    | some icons => exact staysFor_sendTo _ _
  | levelListRequest => exact ⟨fun _ hc => (nomatch hc), fun _ => staysFor_sendTo _ _⟩
  | sendTextMessage =>
    change (onSendtextmessage clientId bbuf).Only _
    unfold onSendtextmessage
    split
    · refine ⟨fun _ hc => (nomatch hc), fun _ => ?_⟩
      exact (only_broadcastUserMessage _ _).mono fun _ => Action.Sends.staysFor
    · trivial
  | ping => trivial
  | checkIn => trivial
  | disconnect => exact absurd trivial h
  | userLevelEntry => exact absurd trivial h
  | userLevelExit => exact absurd trivial h

theorem actsFor_dispatch (settings : ServerSettings) (ptype : ClientPacketKind)
    (bbuf : Bytebuffer.ByteReader) :
    (dispatch settings ptype clientId bbuf).Only (Action.ActsFor clientId) := by
  cases ptype with
  | disconnect => exact actsFor_removeClient.bind fun _ => trivial
  | userLevelEntry => exact actsFor_onUserlevelentry bbuf
  | userLevelExit => exact actsFor_onUserlevelexit
  | _ => exact actsFor_of_staysFor (staysFor_dispatch settings id bbuf)

/-- What is done with a packet is done for the client whose id it carries. -/
theorem actsFor_serve (settings : ServerSettings) (ptype : ClientPacketKind) (secretKey : Int32)
    (peer : SocketAddr) (bbuf : Bytebuffer.ByteReader) :
    (serve settings ptype clientId secretKey peer bbuf).Only (Action.ActsFor clientId) := by
  unfold serve
  split
  · exact actsFor_of_staysFor (staysFor_sendBufTo _ _)
  · split
    · exact actsFor_of_staysFor (staysFor_handleCheckIn settings secretKey peer bbuf)
    · refine .bind ⟨fun _ hc => (nomatch hc), fun verified => ?_⟩
        fun _ => actsFor_dispatch settings ptype bbuf
      cases verified with
      | ok _ => trivial
      | error e =>
        exact (actsFor_of_staysFor (staysFor_sendBufTo _ _)).bind fun _ => trivial

end Only

/-! ## What sweeps and ticks contain -/

def Action.Sweeps : Action → Prop
  | now | deadClients _ | takeClient _ | removeFromLevel _ _ | spawnRemoveEmptyLevels => True
  | _ => False

def Action.Ticks : Action → Prop
  | sendTo _ _ | clientAddress _ | levelToPlayers | tickLevel _ _ => True
  | _ => False

theorem sweeps_leaveLevel (clientId levelId : Int32) :
    (leaveLevel clientId levelId).Only Action.Sweeps := by
  unfold leaveLevel
  split
  · refine ⟨trivial, fun found => ?_⟩
    cases found
    · trivial
    · exact ⟨trivial, fun _ => trivial⟩
  · trivial

theorem sweeps_removeClient (clientId : Int32) : (removeClient clientId).Only Action.Sweeps := by
  refine ⟨trivial, fun client => ?_⟩
  cases client with
  | none => trivial
  | some client => exact (sweeps_leaveLevel clientId client.levelId).bind fun _ => trivial

theorem sweeps_removeDeadClients : removeDeadClients.Only Action.Sweeps := by
  refine ⟨trivial, fun now => ⟨trivial, fun toRemove => ?_⟩⟩
  exact .forM toRemove fun id _ => (sweeps_removeClient id).bind fun _ => trivial

theorem ticks_tick [Bytebuffer] : tick.Only Action.Ticks := by
  refine ⟨trivial, fun levelToPlayers => .forM levelToPlayers fun group _ => ⟨trivial, ?_⟩⟩
  intro level
  cases level with
  | none => trivial
  | some level =>
    refine .forM level fun player _ => .bind ?_ fun _ => trivial
    refine Proc.Only.attempt ⟨trivial, fun address => ?_⟩
    cases address with
    | none => trivial
    | some address =>
      refine ⟨trivial, fun sent => ?_⟩
      cases sent <;> trivial

/-! ## The key check -/

section Verify

variable [Bytebuffer]

/-- What a packet does to a client that is not known by the key. -/
def turnAway (peer : SocketAddr) (err : Error) : Task Unit := do
  sendBufTo peer (serverDisconnect s!"Failed to verify secret key: {err.toString}")
  anyhow "disconnected client because of secret key mismatch"

/-- A packet of a known client is dispatched, any other one is turned away. -/
theorem serve_verified {settings : ServerSettings} {ptype : ClientPacketKind} {clientId key : Int32}
    (peer : SocketAddr) (bbuf : Bytebuffer.ByteReader) (hid : clientId ≠ 0)
    (hp : ptype ≠ .checkIn) :
    serve settings ptype clientId key peer bbuf =
      .act (.verifySecretKey clientId key) fun r =>
        match r with
        | .ok _ => dispatch settings ptype clientId bbuf
        | .error err => turnAway peer err := by
  rw [serve, if_neg hid, if_neg hp, verifySecretKeyOrDisconnect, Proc.perform_bind, Proc.act_bind]
  refine congrArg _ (funext fun r => ?_)
  cases r with
  | ok _ => rfl
  | error err =>
    simp only [turnAway, anyhow, bind_assoc]
    rfl

theorem only_turnAway (peer : SocketAddr) (err : Error) : (turnAway peer err).Only Action.Sends :=
  (only_sendBufTo _ _).bind fun _ => trivial

end Verify

/-! ## Packets with a header -/

section Header

variable [Bytebuffer]

open Bytebuffer

/-- The kind, the client id and the secret key at the start of a packet that is not a ping, and what
follows them. -/
def header (buf : List UInt8) : Option (ClientPacketKind × Int32 × Int32 × ByteReader) := do
  let (number, bytebuffer) ← readU8 (fromBytes buf)
  let ptype ← ClientPacketKind.tryFrom number
  if ptype = .ping then none
  else
    let (clientId, bytebuffer) ← readI32 bytebuffer
    let (secretKey, bytebuffer) ← readI32 bytebuffer
    return (ptype, clientId, secretKey, bytebuffer)

theorem header_cases (buf : List UInt8) :
    (∃ ptype clientId key bbuf, header buf = some (ptype, clientId, key, bbuf) ∧ ptype ≠ .ping ∧
      ∀ settings peer,
        handlePacket settings buf peer = serve settings ptype clientId key peer bbuf) ∨
    (header buf = none ∧ ∀ settings peer,
      (handlePacket settings buf peer).Only fun a => a.Sends ∨ a = .clientCount) := by
  unfold header handlePacket
  cases h₁ : readU8 (fromBytes buf) with
  | none => exact .inr ⟨rfl, fun _ _ => by simp [read, h₁]⟩
  | some p =>
    obtain ⟨number, r⟩ := p
    cases h₂ : ClientPacketKind.tryFrom number with
    | none => exact .inr ⟨by simp [h₂], fun _ _ => by simp [read, h₁, h₂]⟩
    | some ptype =>
      by_cases hp : ptype = .ping
      · refine .inr ⟨by simp [h₂, hp], fun settings peer => ?_⟩
        simp only [read, h₁, h₂, hp, Proc.ret_bind, if_true]
        refine (only_read _ r).bind fun q => ⟨.inr rfl, fun _ => ?_⟩
        exact (only_sendBufTo _ _).mono fun _ h => .inl h
      · cases h₃ : readI32 r with
        | none =>
          exact .inr ⟨by simp [h₂, h₃], fun _ _ => by simp [read, h₁, h₂, hp, h₃]⟩
        | some q =>
          obtain ⟨clientId, r'⟩ := q
          cases h₄ : readI32 r' with
          | none =>
            exact .inr ⟨by simp [h₂, h₃, h₄], fun _ _ => by simp [read, h₁, h₂, hp, h₃, h₄]⟩
          | some q' =>
            obtain ⟨key, bbuf⟩ := q'
            refine .inl ⟨ptype, clientId, key, bbuf, by simp [h₂, hp, h₃, h₄], hp, fun _ _ => ?_⟩
            simp [read, h₁, h₂, hp, h₃, h₄]

/-- A datagram without a header is a ping, or ends at once. -/
theorem headless_cases {buf : List UInt8} (hheader : header buf = none) (settings : ServerSettings)
    (peer : SocketAddr) :
    (∃ number r, readU8 (fromBytes buf) = some (number, r) ∧
      ClientPacketKind.tryFrom number = some .ping ∧
      handlePacket settings buf peer = handlePing peer r) ∨
    (handlePacket settings buf peer).Ended ∧
      ∀ number r, readU8 (fromBytes buf) = some (number, r) →
        ClientPacketKind.tryFrom number ≠ some .ping := by
  unfold header at hheader
  unfold handlePacket
  cases h₁ : readU8 (fromBytes buf) with
  | none =>
    refine .inr ⟨?_, fun _ _ h => by cases h⟩
    simp only [read, h₁]
    trivial
  | some p =>
    obtain ⟨number, r⟩ := p
    simp only [read, h₁, Proc.ret_bind]
    cases h₂ : ClientPacketKind.tryFrom number with
    | none =>
      refine .inr ⟨trivial, fun number' r' h => ?_⟩
      cases h
      simp [h₂]
    | some ptype =>
      by_cases hp : ptype = .ping
      · subst hp
        exact .inl ⟨number, r, rfl, h₂, if_pos rfl⟩
      · refine .inr ⟨?_, fun number' r' h => ?_⟩
        · simp only [h₁, h₂, hp, if_false, Option.bind_eq_bind, Option.bind_some] at hheader ⊢
          cases h₃ : readI32 r with
          | none => trivial
          | some q =>
            obtain ⟨clientId, r'⟩ := q
            simp only [Proc.ret_bind]
            cases h₄ : readI32 r' with
            | none => trivial
            | some q' =>
              rw [h₃, Option.bind_some, h₄] at hheader
              cases hheader
        · cases h
          simp [h₂, hp]

/-- A packet with a header is served. -/
theorem handlePacket_of_header {buf : List UInt8} {ptype : ClientPacketKind} {clientId key : Int32}
    {bbuf : ByteReader} (h : header buf = some (ptype, clientId, key, bbuf))
    (settings : ServerSettings) (peer : SocketAddr) :
    handlePacket settings buf peer = serve settings ptype clientId key peer bbuf := by
  rcases header_cases buf with ⟨_, _, _, _, h', _, hs⟩ | ⟨h', _⟩
  · rw [h] at h'
    cases h'
    exact hs settings peer
  · rw [h] at h'
    cases h'

theorem header_ne_ping {buf : List UInt8} {ptype : ClientPacketKind} {clientId key : Int32}
    {bbuf : ByteReader} (h : header buf = some (ptype, clientId, key, bbuf)) : ptype ≠ .ping := by
  rcases header_cases buf with ⟨_, _, _, _, h', hp, _⟩ | ⟨h', _⟩
  · rw [h] at h'
    cases h'
    exact hp
  · rw [h] at h'
    cases h'

end Header

/-! ## The system -/

/-- Sends may succeed or fail. -/
def anyInput : Input → Prop := fun _ => True

/-- All sends succeed. -/
def sendsSucceed : Input → Prop := fun o => o.sent = true

/-- A task that comes from outside. -/
def Request.External : Request → Prop
  | removeEmptyLevels => False
  | _ => True

theorem external_packet (buf : List UInt8) (peer : SocketAddr) :
    (Request.packet buf peer).External := trivial

theorem exists_sendsSucceed : ∃ o, sendsSucceed o :=
  ⟨⟨0, .any Int32, .any Int32, true⟩, rfl⟩

theorem exists_anyInput : ∃ o, anyInput o :=
  exists_sendsSucceed.imp fun _ _ => trivial

theorem spawned_eq {e : Event Action.Answer} {k : Request} (h : k ∈ spawned e) :
    k = .removeEmptyLevels ∧ e.1 = .spawnRemoveEmptyLevels := by
  unfold spawned at h
  split at h
  · exact ⟨List.mem_singleton.mp h, rfl⟩
  · cases h

theorem spawned_nil {e : Event Action.Answer} (h : e.1 ≠ .spawnRemoveEmptyLevels) :
    spawned e = [] := by
  unfold spawned
  split
  · exact absurd rfl h
  · rfl

section System

variable [Bytebuffer]

/-- The server, with the inputs that it may get. -/
def server (settings : ServerSettings) (inputs : Input → Prop) :
    System Action Action.Answer Error State Input Request where
  machine := { step := step settings, inputs := fun _ o => inputs o }
  task := Request.task settings
  spawned := spawned

/-- A state that the server reaches by handling the requests `arrives` one at a time, each of them
with the cleanups that it spawned. -/
def ReachableBy (settings : ServerSettings) (inputs : Input → Prop) (arrives : Request → Prop)
    (st : State) : Prop :=
  ∃ jobs, (server settings inputs).Reach (.serial arrives) ⟨.new, []⟩ ⟨st, jobs⟩ ∧
    ∀ j ∈ jobs, j.task.Ended

/-- Datagrams, sweeps and ticks arrive, and sends may fail. -/
abbrev Reachable (settings : ServerSettings) (st : State) : Prop :=
  ReachableBy settings anyInput Request.External st

/-- Every request can be handled. -/
theorem server_handles {inputs : Input → Prop} (hin : ∃ o, inputs o) (settings : ServerSettings)
    (st : State) (k : Request) : ∃ conf, (server settings inputs).Handles st k conf := by
  refine System.exists_handles (fun _ => hin) (fun e κ hκ => ?_) st k
  obtain ⟨rfl, -⟩ := spawned_eq hκ
  exact ⟨fun _ => rfl, fun _ => trivial⟩

/-- A run in which inputs are restricted is a run. -/
theorem reach_of_inputs {settings : ServerSettings} {inputs inputs' : Input → Prop}
    (hin : ∀ o, inputs o → inputs' o)
    {sched : Schedule Action Action.Answer Error State Request}
    {conf conf' : Config Action Action.Answer Error State Request}
    (h : (server settings inputs).Reach sched conf conf') :
    (server settings inputs').Reach sched conf conf' := by
  refine Relation.ReflTransGen.mono ?_ _ _ h
  intro c c' hs
  cases hs with
  | start h => exact .start h
  | act o hj ho ha => exact .act o hj (hin o ho) ha

namespace ReachableBy

variable {settings : ServerSettings} {inputs inputs' : Input → Prop} {arrives : Request → Prop}
  {st : State}

theorem new : ReachableBy settings inputs arrives .new :=
  ⟨[], .refl, by simp⟩

theorem handle (h : ReachableBy settings inputs arrives st) {k : Request} (hk : arrives k)
    {conf : Config Action Action.Answer Error State Request}
    (hconf : (server settings inputs).Handles st k conf) :
    ReachableBy settings inputs arrives conf.state := by
  obtain ⟨jobs, hreach, hq⟩ := h
  exact System.Handles.serial hreach hq hk hconf

theorem mono (hin : ∀ o, inputs o → inputs' o) {arrives' : Request → Prop}
    (har : ∀ k, arrives k → arrives' k) (h : ReachableBy settings inputs arrives st) :
    ReachableBy settings inputs' arrives' st := by
  obtain ⟨jobs, hreach, hq⟩ := h
  have hst : ∀ (s : State) (js : List (Job Action Action.Answer Error Request)) (k : Request),
      (Schedule.serial arrives).starts s js k → (Schedule.serial arrives').starts s js k :=
    fun _ _ k hk => ⟨hk.1, har k hk.2⟩
  exact ⟨jobs, reach_of_inputs hin (System.Reach.mono hst (fun _ _ _ _ => id) hreach), hq⟩

end ReachableBy

theorem Reachable.handle {settings : ServerSettings} {inputs : Input → Prop} {st : State}
    (h : Reachable settings st) {k : Request} (hk : k.External)
    {conf : Config Action Action.Answer Error State Request}
    (hconf : (server settings inputs).Handles st k conf) : Reachable settings conf.state :=
  ReachableBy.handle h hk ⟨reach_of_inputs (fun _ _ => trivial) hconf.1, hconf.2⟩

end System

end Globed.Server
