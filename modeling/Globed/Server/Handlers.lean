import Globed.Server.State

/-!
# The tasks of the server

`server.rs`, `handlers/generic.rs` and `handlers/level.rs`: what a datagram, a sweep for dead
clients, a tick and a cleanup of empty levels do, section by section. What is only logged is left
out.
-/

namespace Globed.Server

open Concurrent Bytebuffer

variable [Bytebuffer]

/-- Decode the next value, or end with the reader's error. -/
def read {α : Type} (d : Decoder ByteReader α) (bbuf : ByteReader) : Task (α × ByteReader) :=
  match d bbuf with
  | some p => .ret p
  | none => .err .io

abbrev perform (a : Action) : Task a.Answer := Proc.perform a

def anyhow {α : Type} (msg : String) : Task α := .err (.anyhow msg)

/-! ## Sending -/

def sendBufTo (addr : SocketAddr) (buf : ByteBuffer) : Task Unit := do
  if ← perform (.sendTo addr (asBytes buf)) then pure () else .err .io

def sendTo (clientId : Int32) (data : ByteBuffer) : Task Unit := do
  match ← perform (.clientAddress clientId) with
  | none => anyhow s!"Client not found by id {clientId}"
  | some clientAddr => sendBufTo clientAddr data

/-- `&message[0..n]`, which panics inside a character. -/
def sliceTo (message : String) (n : Nat) : Task String :=
  if h : String.Pos.Raw.IsValid message ⟨n⟩ then
    .ret ⟨message.toByteArray.extract 0 n, h.isValidUTF8_extract_zero⟩
  else .panic

/-- The text that a message is cut to. -/
def cutMessage (message : String) : Task String :=
  if message.utf8ByteSize > 80 then sliceTo message 80 else pure message

def textMessage (senderClientId : Int32) (message : String) : ByteBuffer :=
  let data := writeU8 new ServerPacketKind.textMessageSent.toU8
  let data := writeI32 data senderClientId
  writeString data message

def broadcastUserMessage (senderClientId : Int32) (message : String) : Task Unit := do
  match ← perform (.userRecipients senderClientId) with
  | none => pure ()
  | some clients => clients.forM fun address => do
    let message ← cutMessage message
    sendBufTo address (textMessage senderClientId message)

def serverBroadcast (message : String) (color : UInt8 × UInt8 × UInt8) : ByteBuffer :=
  let data := writeU8 new ServerPacketKind.serverBroadcast.toU8
  let data := writeString data message
  let data := writeU8 data color.1
  let data := writeU8 data color.2.1
  writeU8 data color.2.2

def broadcastMessage (message : String) (color : UInt8 × UInt8 × UInt8)
    (levelId : Option Int32) : Task Unit := do
  let clients ← perform (.recipients levelId)
  clients.forM fun address => sendBufTo address (serverBroadcast message color)

/-! ## Clients and levels -/

def removeEmptyLevels : Task Unit := perform .retainLevels

def removeClientFromLevel (clientId levelId : Int32) : Task Unit := do
  if ← perform (.removeFromLevel clientId levelId) then perform .spawnRemoveEmptyLevels
  else pure ()

/-- Leave the level that the client was found on. -/
def leaveLevel (clientId levelId : Int32) : Task Unit :=
  if levelId ≠ -1 then removeClientFromLevel clientId levelId else pure ()

def addClientToLevel (clientId levelId : Int32) : Task Unit := do
  if ← perform (.insertIntoLevel clientId levelId) then
    perform (.setLevelId clientId levelId)
  else anyhow "this should never happen, src/server.rs:140"

def removeClient (clientId : Int32) : Task (Option ClientData) := do
  match ← perform (.takeClient clientId) with
  | none => pure none
  | some client =>
    leaveLevel clientId client.levelId
    return some client

def removeDeadClients : Task Unit := do
  let now ← perform .now
  let toRemove ← perform (.deadClients now)
  toRemove.forM fun id => do
    let _ ← removeClient id

def serverDisconnect (message : String) : ByteBuffer :=
  writeString (writeU8 new ServerPacketKind.serverDisconnect.toU8) message

def verifySecretKeyOrDisconnect (clientId key : Int32) (peer : SocketAddr) : Task Unit := do
  match ← perform (.verifySecretKey clientId key) with
  | .ok _ => pure ()
  | .error err =>
    sendBufTo peer (serverDisconnect s!"Failed to verify secret key: {err.toString}")
    anyhow "disconnected client because of secret key mismatch"

/-! ## Packet handlers -/

def keepaliveResponse (clients : Nat) : ByteBuffer :=
  writeU32 (writeU8 new ServerPacketKind.keepaliveResponse.toU8) (.ofNat clients)

def onKeepalive (clientId : Int32) : Task Unit := do
  let clients ← perform (.keepalive clientId)
  sendTo clientId (keepaliveResponse clients)

def onDisconnect (clientId : Int32) : Task Unit := do
  let _ ← removeClient clientId

/-- The level that a level id of a packet stands for. -/
def levelIdOfPacket (x : Int32) : Int32 :=
  if x = -1 then dailyLevelId else if x = -2 then weeklyLevelId else x

def onUserlevelentry (clientId : Int32) (bbuf : ByteReader) : Task Unit := do
  match ← perform (.nameAndLevel clientId) with
  | none => anyhow "this should never happen, src/handlers/level.rs:21"
  | some (name, levelId) =>
    leaveLevel clientId levelId
    let (x, _) ← read readI32 bbuf
    let levelId := levelIdOfPacket x
    broadcastMessage s!"{name} joined" (30, 200, 30) (some levelId)
    addClientToLevel clientId levelId

def onUserlevelexit (clientId : Int32) : Task Unit := do
  match ← perform (.exitLevel clientId) with
  | none => anyhow "this happens with malformed user input, src/handlers/level.rs:55"
  | some (name, levelId) =>
    broadcastMessage s!"{name} left" (200, 30, 30) (some levelId)
    removeClientFromLevel clientId levelId

/-- The `LevelData` packet of `on_updatedata` and of `tick`. -/
def levelDataPacket (level : List (Int32 × PlayerData)) : ByteBuffer :=
  let buf := writeU8 new ServerPacketKind.levelData.toU8
  let buf := writeU16 buf (.ofNat level.length)
  level.foldl (fun buf (playerId, playerData) => playerData.encode (writeI32 buf playerId)) buf

/-- The first part of `on_updatedata`: a spectator's data is not decoded. -/
def updateLevel (clientId levelId : Int32) (spectating : Bool) (bbuf : ByteReader) : Task Unit :=
  if !spectating then do
    let (data, _) ← read PlayerData.decode bbuf
    if levelId ≠ -1 then
      if ← perform (.storePlayerData clientId levelId data) then pure ()
      else anyhow "this should never happen, src/handlers/level.rs:94"
    else pure ()
  else pure ()

/-- The second part of `on_updatedata`: unless the server sends on ticks, the level is sent. -/
def answerLevel (settings : ServerSettings) (clientId levelId : Int32) : Task Unit :=
  if !settings.tickBased then do
    match ← perform (.levelEntries levelId) with
    | none => pure ()
    | some level => sendTo clientId (levelDataPacket level)
  else pure ()

def onUpdatedata (settings : ServerSettings) (clientId : Int32) (spectating : Bool)
    (bbuf : ByteReader) : Task Unit := do
  match ← perform (.levelIdOf clientId) with
  | none => anyhow "this happens with malformed user input, src/handlers/level.rs:81"
  | some levelId =>
    updateLevel clientId levelId spectating bbuf
    answerLevel settings clientId levelId

/-- The level id of a packet that stands for a level. -/
def packetLevelId (levelId : Int32) : Int32 :=
  if levelId = dailyLevelId then -1 else if levelId = weeklyLevelId then -2 else levelId

def levelListResponse (levels : List (Int32 × Nat)) : ByteBuffer :=
  let buf := writeU8 new ServerPacketKind.levelListResponse.toU8
  let buf := writeU32 buf (.ofNat levels.length)
  levels.foldl (fun buf (levelId, players) =>
    writeU16 (writeI32 buf (packetLevelId levelId)) (.ofNat players)) buf

def onLevellistrequest (clientId : Int32) : Task Unit := do
  let levels ← perform .levelCounts
  sendTo clientId (levelListResponse levels)

def playerAccountDataResponse (playerId : Int32) (icons : PlayerAccountData) : ByteBuffer :=
  let buf := writeU8 new ServerPacketKind.playerAccountDataResponse.toU8
  let buf := writeI32 buf playerId
  icons.encode buf

def onPlayeraccountdatarequest (clientId : Int32) (bbuf : ByteReader) : Task Unit := do
  let (playerId, _) ← read readI32 bbuf
  match ← perform (.accountData playerId) with
  | none => anyhow "user requested account data of non-existing player"
  | some icons => sendTo clientId (playerAccountDataResponse playerId icons)

def onSendtextmessage (clientId : Int32) (bbuf : ByteReader) : Task Unit := do
  match readString bbuf with
  | some (message, _) =>
    let _ ← perform (.senderInfo clientId)
    broadcastUserMessage clientId message
  | none => pure ()

/-! ## Packets -/

def ClientPacketKind.debug : ClientPacketKind → String
  | checkIn => "CheckIn"
  | keepalive => "Keepalive"
  | disconnect => "Disconnect"
  | ping => "Ping"
  | playerAccountDataRequest => "PlayerAccountDataRequest"
  | levelListRequest => "LevelListRequest"
  | sendTextMessage => "SendTextMessage"
  | userLevelEntry => "UserLevelEntry"
  | userLevelExit => "UserLevelExit"
  | userLevelData => "UserLevelData"
  | spectateNoData => "SpectateNoData"

def pingResponse (pingId : Int32) (clients : Nat) : ByteBuffer :=
  let buf := writeU8 new ServerPacketKind.pingResponse.toU8
  let buf := writeI32 buf pingId
  writeU32 buf (.ofNat clients)

def checkedIn (settings : ServerSettings) : ByteBuffer :=
  writeU16 (writeU8 new ServerPacketKind.checkedIn.toU8) (.ofNat settings.tps)

/-- The CheckIn branch of `handle_packet`. -/
def handleCheckIn (settings : ServerSettings) (clientId secretKey : Int32) (peer : SocketAddr)
    (bytebuffer : ByteReader) : Task Unit := do
  match ← perform (.addClient clientId peer secretKey) with
  | .ok _ =>
    let (data, _) ← read PlayerAccountData.decode bytebuffer
    if !data.isValid then
      sendBufTo peer (serverDisconnect
        "Invalid data was passed. Contact the developer if you think this is wrong.")
      let _ ← perform (.takeClient clientId)
    else if ← perform (.setPlayerData clientId data) then
      sendTo clientId (checkedIn settings)
    else anyhow "this should never happen, src/server.rs:341"
  | .error e => sendBufTo peer (serverDisconnect e.toString)

/-- The last part of `handle_packet`, once the client is known to be the one it claims to be. -/
def dispatch (settings : ServerSettings) (ptype : ClientPacketKind) (clientId : Int32)
    (bytebuffer : ByteReader) : Task Unit :=
  match ptype with
  | .keepalive => onKeepalive clientId
  | .disconnect => onDisconnect clientId
  | .userLevelEntry => onUserlevelentry clientId bytebuffer
  | .userLevelExit => onUserlevelexit clientId
  | .userLevelData => onUpdatedata settings clientId false bytebuffer
  | .spectateNoData => onUpdatedata settings clientId true bytebuffer
  | .playerAccountDataRequest => onPlayeraccountdatarequest clientId bytebuffer
  | .levelListRequest => onLevellistrequest clientId
  | .sendTextMessage => onSendtextmessage clientId bytebuffer
  | .ping | .checkIn => anyhow s!"invalid PacketType: {ptype.debug}"

def handlePing (peer : SocketAddr) (bytebuffer : ByteReader) : Task Unit := do
  let (pingId, _) ← read readI32 bytebuffer
  let clients ← perform .clientCount
  sendBufTo peer (pingResponse pingId clients)

/-- What `handle_packet` does once the client id and the secret key are read. -/
def serve (settings : ServerSettings) (ptype : ClientPacketKind) (clientId secretKey : Int32)
    (peer : SocketAddr) (bytebuffer : ByteReader) : Task Unit := do
  if clientId = 0 then
    sendBufTo peer (serverDisconnect
      "You have to sign into a Geometry Dash account before connecting. If you already are, please restart your game.")
  else if ptype = .checkIn then
    handleCheckIn settings clientId secretKey peer bytebuffer
  else
    verifySecretKeyOrDisconnect clientId secretKey peer
    dispatch settings ptype clientId bytebuffer

def handlePacket (settings : ServerSettings) (buf : List UInt8) (peer : SocketAddr) :
    Task Unit := do
  let (number, bytebuffer) ← read readU8 (fromBytes buf)
  match ClientPacketKind.tryFrom number with
  | none => .err (.tryFromPrimitive number)
  | some ptype =>
    if ptype = .ping then handlePing peer bytebuffer
    else
      let (clientId, bytebuffer) ← read readI32 bytebuffer
      let (secretKey, bytebuffer) ← read readI32 bytebuffer
      serve settings ptype clientId secretKey peer bytebuffer

/-! ## Ticks -/

def tick : Task Unit := do
  let levelToPlayers ← perform .levelToPlayers
  levelToPlayers.forM fun (levelId, players) => do
    match ← perform (.tickLevel levelId players) with
    | none => pure ()
    | some level => level.forM fun (playerId, _) => do
      let _ ← (sendTo playerId (levelDataPacket level)).attempt

/-! ## The system -/

/-- What the buffer of `start_server` holds of a datagram. -/
def received (datagram : List UInt8) : List UInt8 := datagram.take 1024

/-- What the server may be asked to do. -/
inductive Request
  | packet (buf : List UInt8) (peer : SocketAddr)
  | sweep
  | tick
  | removeEmptyLevels

def Request.task (settings : ServerSettings) : Request → Task Unit
  | packet buf peer => handlePacket settings buf peer
  | sweep => removeDeadClients
  | tick => Server.tick
  | removeEmptyLevels => Server.removeEmptyLevels

/-- `remove_empty_levels` only spawns its work. -/
def spawned : Event Action.Answer → List Request
  | ⟨.spawnRemoveEmptyLevels, _⟩ => [.removeEmptyLevels]
  | _ => []

end Globed.Server
