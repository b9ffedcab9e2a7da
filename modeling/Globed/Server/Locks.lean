import Globed.Base.Locks
import Globed.Server.System
import Mathlib.Order.Fin.Basic
import Mathlib.Data.Fintype.EquivFin

/-!
# The locks of the server

The tasks of the server with each acquisition and release of `connected_clients`, of `levels` and of
the lock of a level, where the source has them: a guard is held to the end of its block, or to its
`drop`. Without the locks they are the tasks of `Handlers` (`lockedServer`).

Every task takes `levels` before the lock of a level, and both before `connected_clients`, and never
takes a lock that it holds already; so they never deadlock (`server_not_deadlocked`).
-/

namespace Globed.Server

open Concurrent Bytebuffer

/-- The lock of a level lives in the map of levels. While it is held, so is `levels`, and the level
is not removed: its id stands for it. -/
inductive Lock
  | levels
  | level (levelId : Int32)
  | connectedClients
  deriving DecidableEq

/-- The order in which locks are taken. -/
def Lock.rank : Lock → Fin 3
  | levels => 0
  | level _ => 1
  | connectedClients => 2

/-- What a task reads of `levels` in order to know which lock to take. -/
inductive Look
  | hasLevel (levelId : Int32)
  | levelIds

@[reducible]
def Look.Answer : Look → Type
  | hasLevel _ => Bool
  | levelIds => List Int32

def Look.run (o : Input) : (q : Look) → State → q.Answer
  | .hasLevel levelId, st => st.levels.contains levelId
  | .levelIds, st => o.levelOrder.list st.levels.keys

/-- A task of the server, with its locks. -/
abbrev LockTask (α : Type) := LockProc Lock Look.Answer Action.Answer Error α

/-! ## The tasks -/

namespace Locked

open LockProc

variable [Bytebuffer]

abbrev look (q : Look) : LockTask q.Answer := LockProc.look q

abbrev perform (a : Action) : LockTask a.Answer := LockProc.perform a

def sendTo (clientId : Int32) (data : ByteBuffer) : LockTask Unit := do
  match ← withLock .connectedClients .read (perform (.clientAddress clientId)) with
  | none => lift (anyhow s!"Client not found by id {clientId}")
  | some clientAddr => lift (sendBufTo clientAddr data)

def broadcastUserMessage (senderClientId : Int32) (message : String) : LockTask Unit :=
  withLock .connectedClients .write (lift (Server.broadcastUserMessage senderClientId message))

def broadcastMessage (message : String) (color : UInt8 × UInt8 × UInt8)
    (levelId : Option Int32) : LockTask Unit :=
  withLock .connectedClients .write (lift (Server.broadcastMessage message color levelId))

/-- `let levels = self.levels.read().await`, and if the level exists then also its lock: where it
does not exist, the section that follows finds that out. -/
def withLevel {α : Type} (levelId : Int32) (mode : Mode) (t : LockTask α) : LockTask α :=
  withLock .levels .read do
    if ← look (.hasLevel levelId) then withLock (.level levelId) mode t else t

def removeEmptyLevels : LockTask Unit :=
  withLock .levels .write do
    let levelIds ← look .levelIds
    levelIds.forM fun levelId => withLock (.level levelId) .read (pure ())
    perform .retainLevels

def removeClientFromLevel (clientId levelId : Int32) : LockTask Unit := do
  if ← withLevel levelId .write (perform (.removeFromLevel clientId levelId)) then
    perform .spawnRemoveEmptyLevels
  else pure ()

def leaveLevel (clientId levelId : Int32) : LockTask Unit :=
  if levelId ≠ -1 then removeClientFromLevel clientId levelId else pure ()

def addClientToLevel (clientId levelId : Int32) : LockTask Unit := do
  if ← withLock .levels .write
      (withLock (.level levelId) .write (perform (.insertIntoLevel clientId levelId))) then
    withLock .connectedClients .write (perform (.setLevelId clientId levelId))
  else lift (anyhow "this should never happen, src/server.rs:140")

def removeClient (clientId : Int32) : LockTask (Option ClientData) := do
  match ← withLock .connectedClients .write (perform (.takeClient clientId)) with
  | none => pure none
  | some client =>
    leaveLevel clientId client.levelId
    return some client

def removeDeadClients : LockTask Unit := do
  let now ← perform .now
  let toRemove ← withLock .connectedClients .read (perform (.deadClients now))
  toRemove.forM fun id => do
    let _ ← removeClient id

def verifySecretKeyOrDisconnect (clientId key : Int32) (peer : SocketAddr) : LockTask Unit := do
  match ← withLock .connectedClients .read (perform (.verifySecretKey clientId key)) with
  | .ok _ => pure ()
  | .error err => lift do
    sendBufTo peer (serverDisconnect s!"Failed to verify secret key: {err.toString}")
    anyhow "disconnected client because of secret key mismatch"

def onKeepalive (clientId : Int32) : LockTask Unit := do
  let clients ← withLock .connectedClients .write (perform (.keepalive clientId))
  sendTo clientId (keepaliveResponse clients)

def onDisconnect (clientId : Int32) : LockTask Unit := do
  let _ ← removeClient clientId

def onUserlevelentry (clientId : Int32) (bbuf : ByteReader) : LockTask Unit := do
  match ← withLock .connectedClients .read (perform (.nameAndLevel clientId)) with
  | none => lift (anyhow "this should never happen, src/handlers/level.rs:21")
  | some (name, levelId) =>
    leaveLevel clientId levelId
    let (x, _) ← lift (read readI32 bbuf)
    let levelId := levelIdOfPacket x
    broadcastMessage s!"{name} joined" (30, 200, 30) (some levelId)
    addClientToLevel clientId levelId

def onUserlevelexit (clientId : Int32) : LockTask Unit := do
  match ← withLock .connectedClients .write (perform (.exitLevel clientId)) with
  | none => lift (anyhow "this happens with malformed user input, src/handlers/level.rs:55")
  | some (name, levelId) =>
    broadcastMessage s!"{name} left" (200, 30, 30) (some levelId)
    removeClientFromLevel clientId levelId

def updateLevel (clientId levelId : Int32) (spectating : Bool) (bbuf : ByteReader) :
    LockTask Unit :=
  if !spectating then do
    let (data, _) ← lift (read PlayerData.decode bbuf)
    if levelId ≠ -1 then
      if ← withLevel levelId .write (perform (.storePlayerData clientId levelId data)) then pure ()
      else lift (anyhow "this should never happen, src/handlers/level.rs:94")
    else pure ()
  else pure ()

/-- The level is sent while its lock is held. -/
def answerLevel (settings : ServerSettings) (clientId levelId : Int32) : LockTask Unit :=
  if !settings.tickBased then
    withLevel levelId .read do
      match ← perform (.levelEntries levelId) with
      | none => pure ()
      | some level => sendTo clientId (levelDataPacket level)
  else pure ()

def onUpdatedata (settings : ServerSettings) (clientId : Int32) (spectating : Bool)
    (bbuf : ByteReader) : LockTask Unit := do
  match ← withLock .connectedClients .read (perform (.levelIdOf clientId)) with
  | none => lift (anyhow "this happens with malformed user input, src/handlers/level.rs:81")
  | some levelId =>
    updateLevel clientId levelId spectating bbuf
    answerLevel settings clientId levelId

/-- `levels` is never dropped, so it is held while the list is sent. -/
def onLevellistrequest (clientId : Int32) : LockTask Unit :=
  withLock .levels .read do
    let levelIds ← look .levelIds
    levelIds.forM fun levelId => withLock (.level levelId) .read (pure ())
    let levels ← perform .levelCounts
    sendTo clientId (levelListResponse levels)

def onPlayeraccountdatarequest (clientId : Int32) (bbuf : ByteReader) : LockTask Unit := do
  let (playerId, _) ← lift (read readI32 bbuf)
  match ← withLock .connectedClients .read (perform (.accountData playerId)) with
  | none => lift (anyhow "user requested account data of non-existing player")
  | some icons => sendTo clientId (playerAccountDataResponse playerId icons)

def onSendtextmessage (clientId : Int32) (bbuf : ByteReader) : LockTask Unit := do
  match readString bbuf with
  | some (message, _) =>
    let _ ← withLock .connectedClients .write (perform (.senderInfo clientId))
    broadcastUserMessage clientId message
  | none => pure ()

def handleCheckIn (settings : ServerSettings) (clientId secretKey : Int32) (peer : SocketAddr)
    (bytebuffer : ByteReader) : LockTask Unit := do
  match ← withLock .connectedClients .write (perform (.addClient clientId peer secretKey)) with
  | .ok _ =>
    let (data, _) ← lift (read PlayerAccountData.decode bytebuffer)
    if !data.isValid then
      lift (sendBufTo peer (serverDisconnect
        "Invalid data was passed. Contact the developer if you think this is wrong."))
      let _ ← withLock .connectedClients .write (perform (.takeClient clientId))
    else if ← withLock .connectedClients .write (perform (.setPlayerData clientId data)) then
      sendTo clientId (checkedIn settings)
    else lift (anyhow "this should never happen, src/server.rs:341")
  | .error e => lift (sendBufTo peer (serverDisconnect e.toString))

def dispatch (settings : ServerSettings) (ptype : ClientPacketKind) (clientId : Int32)
    (bytebuffer : ByteReader) : LockTask Unit :=
  match ptype with
  | .keepalive => onKeepalive clientId
  | .disconnect => onDisconnect clientId
  | .userLevelEntry => onUserlevelentry clientId bytebuffer
  | .userLevelExit => onUserlevelexit clientId
  | .userLevelData => onUpdatedata settings clientId false bytebuffer
  | .spectateNoData => onUpdatedata settings clientId true bytebuffer
  | .playerAccountDataRequest => onPlayeraccountdatarequest clientId bytebuffer
  | .levelListRequest => onLevellistrequest clientId
  | .sendTextMessage => onSendtextmessage clientId bytebuffer
  | .ping | .checkIn => lift (anyhow s!"invalid PacketType: {ptype.debug}")

def handlePing (peer : SocketAddr) (bytebuffer : ByteReader) : LockTask Unit := do
  let (pingId, _) ← lift (read readI32 bytebuffer)
  let clients ← withLock .connectedClients .read (perform .clientCount)
  lift (sendBufTo peer (pingResponse pingId clients))

def serve (settings : ServerSettings) (ptype : ClientPacketKind) (clientId secretKey : Int32)
    (peer : SocketAddr) (bytebuffer : ByteReader) : LockTask Unit := do
  if clientId = 0 then
    lift (sendBufTo peer (serverDisconnect
      "You have to sign into a Geometry Dash account before connecting. If you already are, please restart your game."))
  else if ptype = .checkIn then
    handleCheckIn settings clientId secretKey peer bytebuffer
  else
    verifySecretKeyOrDisconnect clientId secretKey peer
    dispatch settings ptype clientId bytebuffer

def handlePacket (settings : ServerSettings) (buf : List UInt8) (peer : SocketAddr) :
    LockTask Unit := do
  let (number, bytebuffer) ← lift (read readU8 (fromBytes buf))
  match ClientPacketKind.tryFrom number with
  | none => lift (.err (.tryFromPrimitive number))
  | some ptype =>
    if ptype = .ping then handlePing peer bytebuffer
    else
      let (clientId, bytebuffer) ← lift (read readI32 bytebuffer)
      let (secretKey, bytebuffer) ← lift (read readI32 bytebuffer)
      serve settings ptype clientId secretKey peer bytebuffer

/-- The last part of an iteration of `tick`. -/
def sendLevel : Option (List (Int32 × PlayerData)) → LockTask Unit
  | none => pure ()
  | some level => level.forM fun (playerId, _) => do
    let _ ← (sendTo playerId (levelDataPacket level)).attempt

def tick : LockTask Unit := do
  let levelToPlayers ← withLock .connectedClients .read (perform .levelToPlayers)
  withLock .levels .read do
    levelToPlayers.forM fun (levelId, players) => do
      if ← look (.hasLevel levelId) then
        withLock (.level levelId) .read do
          sendLevel (← perform (.tickLevel levelId players))
      else
        -- clients of a level that does not exist are taken off it
        sendLevel (← withLock .connectedClients .write (perform (.tickLevel levelId players)))

def task (settings : ServerSettings) : Request → LockTask Unit
  | .packet buf peer => handlePacket settings buf peer
  | .sweep => removeDeadClients
  | .tick => tick
  | .removeEmptyLevels => removeEmptyLevels

end Locked

/-! ## The order of the locks -/

section Guarded

open LockProc

variable {held : Set Lock}

/-- What a task does, it does with its locks in order. -/
abbrev GuardedBy (held : Set Lock) {α : Type} (t : LockTask α) (t' : Task α) : Prop :=
  Guarded Lock.rank held t t'

/-- A section of `connected_clients`. -/
theorem guarded_clients {α : Type} {t : LockTask α} {t' : Task α} (mode : Mode)
    (hheld : ∀ l ∈ held, l ≠ .connectedClients)
    (h : GuardedBy (insert .connectedClients held) t t') :
    GuardedBy held (withLock .connectedClients mode t) t' := by
  refine h.withLock mode fun l hl => ?_
  have hne := hheld l hl
  cases l with
  | levels => decide
  | level levelId => exact (by decide : (1 : Fin 3) < 2)
  | connectedClients => exact absurd rfl hne

theorem guarded_level {α : Type} {t : LockTask α} {t' : Task α} (levelId : Int32) (mode : Mode)
    (h : GuardedBy {.level levelId, .levels} t t') :
    GuardedBy {.levels} (withLock (.level levelId) mode t) t' := by
  refine h.withLock mode fun l hl => ?_
  obtain rfl := hl
  exact (by decide : (0 : Fin 3) < 1)

theorem guarded_levels {α : Type} {t : LockTask α} {t' : Task α} (mode : Mode)
    (h : GuardedBy {.levels} t t') : GuardedBy ∅ (withLock .levels mode t) t' := by
  refine Guarded.withLock mode (fun l hl => False.elim hl) ?_
  rwa [insert_empty_eq]

theorem empty_ne_clients : ∀ l ∈ (∅ : Set Lock), l ≠ .connectedClients :=
  fun _ hl => False.elim hl

theorem levels_ne_clients : ∀ l ∈ ({.levels} : Set Lock), l ≠ .connectedClients := by
  rintro l rfl
  exact fun heq => nomatch heq

theorem level_ne_clients (levelId : Int32) :
    ∀ l ∈ ({.level levelId, .levels} : Set Lock), l ≠ .connectedClients := by
  rintro l (rfl | rfl) <;> exact fun heq => nomatch heq

/-- The lock of every level, one after the other. -/
theorem guarded_eachLevel {α : Type} {t : LockTask α} {t' : Task α}
    (h : GuardedBy {.levels} t t') :
    GuardedBy {.levels} (do
      let levelIds ← Locked.look .levelIds
      levelIds.forM fun levelId => withLock (.level levelId) .read (pure ())
      t) t' := by
  apply Guarded.look
  intro levelIds
  refine (Guarded.forM_silent levelIds fun levelId => ?_).bind fun _ => h
  exact guarded_level levelId .read (.ret ())

theorem guarded_withLevel {α : Type} {t : LockTask α} {t' : Task α} (levelId : Int32) (mode : Mode)
    (h : ∀ held : Set Lock, (∀ l ∈ held, l ≠ .connectedClients) → GuardedBy held t t') :
    GuardedBy ∅ (Locked.withLevel levelId mode t) t' := by
  apply guarded_levels
  apply Guarded.look
  intro found
  cases found
  · exact h _ levels_ne_clients
  · exact guarded_level levelId mode (h _ (level_ne_clients levelId))

theorem guarded_removeEmptyLevels : GuardedBy ∅ Locked.removeEmptyLevels removeEmptyLevels :=
  guarded_levels .write (guarded_eachLevel (.perform _))

theorem guarded_removeClientFromLevel (clientId levelId : Int32) :
    GuardedBy ∅ (Locked.removeClientFromLevel clientId levelId)
      (removeClientFromLevel clientId levelId) := by
  refine (guarded_withLevel levelId .write fun _ _ => .perform _).bind fun found => ?_
  cases found
  · exact .ret ()
  · exact .perform _

theorem guarded_leaveLevel (clientId levelId : Int32) :
    GuardedBy ∅ (Locked.leaveLevel clientId levelId) (leaveLevel clientId levelId) := by
  unfold Locked.leaveLevel leaveLevel
  split
  · exact guarded_removeClientFromLevel clientId levelId
  · exact .ret ()

theorem guarded_addClientToLevel (clientId levelId : Int32) :
    GuardedBy ∅ (Locked.addClientToLevel clientId levelId) (addClientToLevel clientId levelId) := by
  have hinsert : GuardedBy ∅ (withLock .levels .write (withLock (.level levelId) .write
      (Locked.perform (.insertIntoLevel clientId levelId))))
      (perform (.insertIntoLevel clientId levelId)) :=
    guarded_levels .write (guarded_level levelId .write (.perform _))
  refine hinsert.bind fun entered => ?_
  cases entered
  · exact .lift _
  · exact guarded_clients .write empty_ne_clients (.perform _)

theorem guarded_removeClient (clientId : Int32) :
    GuardedBy ∅ (Locked.removeClient clientId) (removeClient clientId) := by
  refine (guarded_clients .write empty_ne_clients (.perform _)).bind fun client => ?_
  cases client with
  | none => exact .ret none
  | some client => exact (guarded_leaveLevel clientId client.levelId).bind fun _ => .ret _

theorem guarded_removeDeadClients : GuardedBy ∅ Locked.removeDeadClients removeDeadClients := by
  refine (Guarded.perform _).bind fun now => ?_
  refine (guarded_clients .read empty_ne_clients (.perform _)).bind fun toRemove => ?_
  exact .forM toRemove fun id => (guarded_removeClient id).bind fun _ => .ret ()

variable [Bytebuffer]

theorem guarded_sendTo (hheld : ∀ l ∈ held, l ≠ .connectedClients) (clientId : Int32)
    (data : ByteBuffer) : GuardedBy held (Locked.sendTo clientId data) (sendTo clientId data) := by
  refine (guarded_clients .read hheld (.perform _)).bind fun address => ?_
  cases address with
  | none => exact .lift _
  | some address => exact .lift _

theorem guarded_broadcastMessage (message : String) (color : UInt8 × UInt8 × UInt8)
    (levelId : Option Int32) :
    GuardedBy ∅ (Locked.broadcastMessage message color levelId)
      (broadcastMessage message color levelId) :=
  guarded_clients .write empty_ne_clients (.lift _)

theorem guarded_verifySecretKeyOrDisconnect (clientId key : Int32) (peer : SocketAddr) :
    GuardedBy ∅ (Locked.verifySecretKeyOrDisconnect clientId key peer)
      (verifySecretKeyOrDisconnect clientId key peer) := by
  refine (guarded_clients .read empty_ne_clients (.perform _)).bind fun verified => ?_
  cases verified with
  | ok _ => exact .ret ()
  | error err => exact .lift _

/-! ## Packet handlers -/

theorem guarded_onUserlevelentry (clientId : Int32) (bbuf : ByteReader) :
    GuardedBy ∅ (Locked.onUserlevelentry clientId bbuf) (onUserlevelentry clientId bbuf) := by
  refine (guarded_clients .read empty_ne_clients (.perform _)).bind fun found => ?_
  cases found with
  | none => exact .lift _
  | some found =>
    refine (guarded_leaveLevel clientId found.2).bind fun _ => ?_
    refine (Guarded.lift _).bind fun p => ?_
    exact (guarded_broadcastMessage _ _ _).bind fun _ => guarded_addClientToLevel clientId _

theorem guarded_onUserlevelexit (clientId : Int32) :
    GuardedBy ∅ (Locked.onUserlevelexit clientId) (onUserlevelexit clientId) := by
  refine (guarded_clients .write empty_ne_clients (.perform _)).bind fun found => ?_
  cases found with
  | none => exact .lift _
  | some found =>
    exact (guarded_broadcastMessage _ _ _).bind fun _ =>
      guarded_removeClientFromLevel clientId found.2

theorem guarded_updateLevel (clientId levelId : Int32) (spectating : Bool) (bbuf : ByteReader) :
    GuardedBy ∅ (Locked.updateLevel clientId levelId spectating bbuf)
      (updateLevel clientId levelId spectating bbuf) := by
  unfold Locked.updateLevel updateLevel
  split
  · refine (Guarded.lift _).bind fun p => ?_
    dsimp only
    split
    · refine (guarded_withLevel levelId .write fun _ _ => .perform _).bind fun stored => ?_
      cases stored
      · exact .lift _
      · exact .ret ()
    · exact .ret ()
  · exact .ret ()

theorem guarded_answerLevel (settings : ServerSettings) (clientId levelId : Int32) :
    GuardedBy ∅ (Locked.answerLevel settings clientId levelId)
      (answerLevel settings clientId levelId) := by
  unfold Locked.answerLevel answerLevel
  split
  · apply guarded_withLevel levelId .read
    intro held hheld
    refine (Guarded.perform _).bind fun level => ?_
    cases level with
    | none => exact .ret ()
    | some level => exact guarded_sendTo hheld clientId _
  · exact .ret ()

theorem guarded_onUpdatedata (settings : ServerSettings) (clientId : Int32) (spectating : Bool)
    (bbuf : ByteReader) :
    GuardedBy ∅ (Locked.onUpdatedata settings clientId spectating bbuf)
      (onUpdatedata settings clientId spectating bbuf) := by
  refine (guarded_clients .read empty_ne_clients (.perform _)).bind fun levelId => ?_
  cases levelId with
  | none => exact .lift _
  | some levelId =>
    exact (guarded_updateLevel clientId levelId spectating bbuf).bind fun _ =>
      guarded_answerLevel settings clientId levelId

theorem guarded_onLevellistrequest (clientId : Int32) :
    GuardedBy ∅ (Locked.onLevellistrequest clientId) (onLevellistrequest clientId) := by
  apply guarded_levels
  apply guarded_eachLevel
  exact (Guarded.perform _).bind fun levels => guarded_sendTo levels_ne_clients clientId _

theorem guarded_onPlayeraccountdatarequest (clientId : Int32) (bbuf : ByteReader) :
    GuardedBy ∅ (Locked.onPlayeraccountdatarequest clientId bbuf)
      (onPlayeraccountdatarequest clientId bbuf) := by
  refine (Guarded.lift _).bind fun p => ?_
  refine (guarded_clients .read empty_ne_clients (.perform _)).bind fun icons => ?_
  cases icons with
  | none => exact .lift _
  | some icons => exact guarded_sendTo empty_ne_clients clientId _

theorem guarded_onSendtextmessage (clientId : Int32) (bbuf : ByteReader) :
    GuardedBy ∅ (Locked.onSendtextmessage clientId bbuf) (onSendtextmessage clientId bbuf) := by
  unfold Locked.onSendtextmessage onSendtextmessage
  cases readString bbuf with
  | none => exact .ret ()
  | some p =>
    refine (guarded_clients .write empty_ne_clients (.perform _)).bind fun _ => ?_
    exact guarded_clients .write empty_ne_clients (.lift _)

theorem guarded_handleCheckIn (settings : ServerSettings) (clientId secretKey : Int32)
    (peer : SocketAddr) (bbuf : ByteReader) :
    GuardedBy ∅ (Locked.handleCheckIn settings clientId secretKey peer bbuf)
      (handleCheckIn settings clientId secretKey peer bbuf) := by
  refine (guarded_clients .write empty_ne_clients (.perform _)).bind fun added => ?_
  cases added with
  | error e => exact .lift _
  | ok _ =>
    refine (Guarded.lift _).bind fun p => ?_
    dsimp only
    split
    · refine (Guarded.lift _).bind fun _ => ?_
      exact (guarded_clients .write empty_ne_clients (.perform _)).bind fun _ => .ret ()
    · refine (guarded_clients .write empty_ne_clients (.perform _)).bind fun found => ?_
      cases found
      · exact .lift _
      · exact guarded_sendTo empty_ne_clients clientId _

theorem guarded_dispatch (settings : ServerSettings) (ptype : ClientPacketKind) (clientId : Int32)
    (bbuf : ByteReader) :
    GuardedBy ∅ (Locked.dispatch settings ptype clientId bbuf)
      (dispatch settings ptype clientId bbuf) := by
  cases ptype with
  | keepalive =>
    refine (guarded_clients .write empty_ne_clients (.perform _)).bind fun clients => ?_
    exact guarded_sendTo empty_ne_clients clientId _
  | disconnect => exact (guarded_removeClient clientId).bind fun _ => .ret ()
  | userLevelEntry => exact guarded_onUserlevelentry clientId bbuf
  | userLevelExit => exact guarded_onUserlevelexit clientId
  | userLevelData => exact guarded_onUpdatedata settings clientId false bbuf
  | spectateNoData => exact guarded_onUpdatedata settings clientId true bbuf
  | playerAccountDataRequest => exact guarded_onPlayeraccountdatarequest clientId bbuf
  | levelListRequest => exact guarded_onLevellistrequest clientId
  | sendTextMessage => exact guarded_onSendtextmessage clientId bbuf
  | ping => exact .lift _
  | checkIn => exact .lift _

theorem guarded_serve (settings : ServerSettings) (ptype : ClientPacketKind)
    (clientId secretKey : Int32) (peer : SocketAddr) (bbuf : ByteReader) :
    GuardedBy ∅ (Locked.serve settings ptype clientId secretKey peer bbuf)
      (serve settings ptype clientId secretKey peer bbuf) := by
  unfold Locked.serve serve
  split
  · exact .lift _
  · split
    · exact guarded_handleCheckIn settings clientId secretKey peer bbuf
    · exact (guarded_verifySecretKeyOrDisconnect clientId secretKey peer).bind fun _ =>
        guarded_dispatch settings ptype clientId bbuf

theorem guarded_handlePacket (settings : ServerSettings) (buf : List UInt8) (peer : SocketAddr) :
    GuardedBy ∅ (Locked.handlePacket settings buf peer) (handlePacket settings buf peer) := by
  refine (Guarded.lift _).bind fun p => ?_
  dsimp only
  cases ClientPacketKind.tryFrom p.1 with
  | none => exact .lift _
  | some ptype =>
    dsimp only
    split
    · refine (Guarded.lift _).bind fun q => ?_
      refine (guarded_clients .read empty_ne_clients (.perform _)).bind fun clients => ?_
      exact .lift _
    · refine (Guarded.lift _).bind fun q => ?_
      refine (Guarded.lift _).bind fun q' => ?_
      exact guarded_serve settings ptype q.1 q'.1 peer q'.2

/-! ## Ticks -/

theorem guarded_sendLevel (hheld : ∀ l ∈ held, l ≠ .connectedClients)
    (level : List (Int32 × PlayerData)) :
    GuardedBy held (Locked.sendLevel (some level)) (level.forM fun (playerId, _) => do
      let _ ← (sendTo playerId (levelDataPacket level)).attempt) := by
  refine .forM level fun player => ?_
  exact (guarded_sendTo hheld player.1 _).attempt.bind fun _ => .ret ()

theorem guarded_tick : GuardedBy ∅ Locked.tick tick := by
  refine (guarded_clients .read empty_ne_clients (.perform _)).bind fun levelToPlayers => ?_
  apply guarded_levels
  refine .forM levelToPlayers fun group => ?_
  apply Guarded.look
  intro found
  cases found
  · refine (guarded_clients .write levels_ne_clients (.perform _)).bind fun level => ?_
    cases level with
    | none => exact .ret ()
    | some level => exact guarded_sendLevel levels_ne_clients level
  · apply guarded_level
    refine (Guarded.perform _).bind fun level => ?_
    cases level with
    | none => exact .ret ()
    | some level => exact guarded_sendLevel (level_ne_clients group.1) level

theorem guarded_task (settings : ServerSettings) (k : Request) :
    GuardedBy ∅ (Locked.task settings k) (k.task settings) := by
  cases k with
  | packet buf peer => exact guarded_handlePacket settings buf peer
  | sweep => exact guarded_removeDeadClients
  | tick => exact guarded_tick
  | removeEmptyLevels => exact guarded_removeEmptyLevels

end Guarded

/-! ## Runs with locks -/

section Runs

variable [Bytebuffer]

/-- The server, in which tasks wait for locks. -/
def lockedServer (settings : ServerSettings) (inputs : Input → Prop) :
    LockSystem Lock Action Action.Answer Look.Answer Error State Input Request where
  toSystem := server settings inputs
  look := Look.run
  lockTask := Locked.task settings
  erases k := (guarded_task settings k).erases

/-- A configuration of the server with its locks. -/
abbrev LockedConfig := LockConfig Lock Action Action.Answer Look.Answer Error State Request

variable {settings : ServerSettings} {inputs : Input → Prop} {arrives : Request → Prop} {st : State}
  {conf : LockedConfig}

/-- Without the locks, a run is one in which the sections of the tasks follow each other in any
order. -/
theorem reach_of_locked (h : (lockedServer settings inputs).Reach arrives (.initial st) conf) :
    ∃ jobs, (server settings inputs).Reach (.anyOrder arrives) ⟨st, []⟩ ⟨conf.state, jobs⟩ := by
  obtain ⟨jobs, hreach, -⟩ := LockSystem.Reach.erases h
  exact ⟨jobs, hreach⟩

/-- Unless all tasks have ended, one of them can go on. -/
theorem locked_progress (hin : ∃ o, inputs o)
    (h : (lockedServer settings inputs).Reach arrives (.initial st) conf)
    (hgoing : ∃ th ∈ conf.threads, ¬th.task.Ended) :
    ∃ conf', (lockedServer settings inputs).Step (fun _ => False) conf conf' :=
  LockSystem.Reach.progress (fun k => (guarded_task settings k).ordered) (fun _ => hin) h hgoing

/-- **No deadlock**: however many packets are handled, sweeps and ticks are made and empty levels
are cleaned up at the same time, from whatever state and in whatever order their steps are taken,
there is no set of tasks each of which waits for a lock that one of them holds or asked for before
it. -/
theorem server_not_deadlocked
    (h : (lockedServer settings anyInput).Reach Request.External (.initial st) conf) (D : Set Nat) :
    ¬conf.Deadlocked D :=
  LockSystem.Reach.not_deadlocked (fun k => (guarded_task settings k).ordered) h D

end Runs

/-- Two ticks ask for `connected_clients`, one after the other. -/
theorem server_not_deadlocked_two_ticks :
    letI := Bytebuffer.reference
    ∃ conf : LockedConfig, conf.Waits 0 .connectedClients ∧ conf.Ahead 0 1 .connectedClients ∧
      ¬conf.Deadlocked {0, 1} := by
  let := Bytebuffer.reference
  let sys := lockedServer ⟨30, 0, false, 60⟩ anyInput
  let threads := [sys.startThread .tick, sys.startThread .tick]
  have hstart : sys.Reach Request.External (.initial .new)
      ⟨.new, threads, fun _ => [], fun _ => []⟩ :=
    .tail (.single (.start (k := Request.tick) trivial)) (.start (k := Request.tick) trivial)
  have hfirst := hstart.tail (.request (i := 0) (l := .connectedClients) (m := .read) rfl
    fun ⟨_, h⟩ => nomatch h)
  have hsecond := hfirst.tail (.request (i := 1) (l := .connectedClients) (m := .read) rfl
    fun ⟨_, h⟩ => by simp at h)
  refine ⟨_, ⟨.read, ?_⟩, ⟨.read, ?_⟩, server_not_deadlocked hsecond {0, 1}⟩
  · simp
  · simp

end Globed.Server
