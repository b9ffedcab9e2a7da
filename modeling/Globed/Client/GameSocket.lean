import Globed.Client.UdpSocket

/-!
# The game socket

`net/game_socket.cpp`: the packets that the client sends, and `recvPacket`.
-/

namespace Globed.Client

open Calls

/-! ## Receiving -/

/-- A method that reads from a buffer. -/
abbrev Parse (α : Type) := StateT ByteBuffer (Call Failure World) α

instance : MonadLift (StateT ByteBuffer (Except Failure))
    (StateT ByteBuffer (Call Failure World)) where
  monadLift d buf := liftM (d buf)

namespace GameSocket

variable (env : Env)

/-- The loop over the players of `LevelData`, with `n` players to read. -/
def readPlayers (accountId : Int32) :
    Nat → FiniteMap Int32 PlayerData → Reader (FiniteMap Int32 PlayerData)
  | 0, players => return players
  | n + 1, players => do
    let playerId ← readI32 env.target
    let playerData ← decodePlayerData env.target
    if !env.debug && playerId == accountId then readPlayers accountId n players
    else readPlayers accountId n (players.insertIfNew playerId playerData)

/-- The loop over the levels of `LevelListResponse`, with `n` levels to read. -/
def readLevels : Nat → FiniteMap Int32 UInt16 → Reader (FiniteMap Int32 UInt16)
  | 0, levels => return levels
  | n + 1, levels => do
    let levelId ← readI32 env.target
    let playerCount ← readU16 env.target
    readLevels n (levels.insertIfNew levelId playerCount)

/-- The text that the client keeps of a message. -/
def cutText (message : CString) : CString :=
  if message.length > 80 then message.take 80 else message

/-- The `switch` of `recvPacket`. -/
def parseBody : PacketType → Parse RecvPacket
  | .checkedIn => do return .checkedIn (← readU16 env.target)
  | .keepaliveResponse => do
    let now ← readNext env.highResolutionClock
    let socket ← getSocket
    let pingMs := (now - socket.keepAliveTime).toMs
    return .keepaliveResponse (← readU32 env.target) pingMs
  | .serverDisconnect => do return .serverDisconnect (← readString env.target)
  | .levelData => do
    let playerCount ← readU16 env.target
    let socket ← getSocket
    let players ← readPlayers env socket.accountId playerCount.toNat .empty
    return .levelData players
  | .pingResponse => do
    let now ← readNext env.systemClock
    let pingId ← readI32 env.target
    let socket ← getSocket
    match socket.pingTimes.get pingId with
    | none => throw .outOfRange
    | some (serverId, sentAt) =>
      let pingMs := (now - sentAt).toMs
      let playerCount ← readU32 env.target
      modifySocket fun socket => { socket with pingTimes := socket.pingTimes.erase pingId }
      return .pingResponse serverId playerCount pingMs
  | .playerAccountDataResponse => do
    let playerId ← readI32 env.target
    let playerData ← decodeAccountData env.target
    return .accountDataResponse playerId playerData
  | .levelListResponse => do
    let levelCount ← readU32 env.target
    return .levelListResponse (← readLevels env levelCount.toNat .empty)
  | .textMessageSent => do
    let sender ← readI32 env.target
    let message ← readString env.target
    return .textMessage sender (cutText message)
  | .serverBroadcast => do
    let message ← readString env.target
    let r ← readU8 env.target
    let g ← readU8 env.target
    let b ← readU8 env.target
    return .serverMessage (cutText message) (r, g, b)
  | _ => throw (.runtimeError "server sent invalid packet")

/-- The part of `recvPacket` after `receive`. -/
def parsePacket : Parse RecvPacket := do
  let packetType ← numberToPt (← readU8 env.target)
  parseBody env packetType

def recvPacket (incoming : Option Datagram) : Net RecvPacket := do
  match ← UdpSocket.receive 65536 incoming with
  | none | some [] => throw (.runtimeError "failed to receive()")
  | some bytes =>
    let (pkt, _) ← parsePacket env (.ofBytes bytes)
    return pkt

/-! ## Sending -/

def sendBuf (buf : ByteBuffer) : Net Unit := UdpSocket.sendAll env .sendBuf buf.data

def writeAuth (socket : GameSocket) (buf : ByteBuffer) : ByteBuffer :=
  let buf := buf.writeI32 env.target socket.accountId
  buf.writeI32 env.target socket.secretKey

def writeType (packetType : PacketType) : ByteBuffer :=
  ByteBuffer.new.writeI8 env.target (ptToNumber packetType).toInt8

/-- A packet of the type with the credentials of the client. -/
def packet (socket : GameSocket) (packetType : PacketType) : ByteBuffer :=
  writeAuth env socket (writeType env packetType)

/-- The packet of `sendMessage`. -/
def messagePacket (socket : GameSocket) : NetworkThreadMessage → Except Failure ByteBuffer
  | .playerLevelEntry levelID =>
    .ok ((packet env socket .userLevelEntry).writeI32 env.target levelID)
  | .playerLevelExit => .ok (packet env socket .userLevelExit)
  | .playerData data => .ok (encodePlayerData env.target data (packet env socket .userLevelData))
  | .requestPlayerAccount playerId =>
    .ok ((packet env socket .playerAccountDataRequest).writeI32 env.target playerId)
  | .requestLevelList => .ok (packet env socket .levelListRequest)
  | .spectatingNoData => .ok (packet env socket .spectateNoData)
  | .sendTextMessage message =>
    .ok ((packet env socket .sendTextMessage).writeString env.target message)
  | .menuLayerEntry | .pingServers | .centralServerChanged _ =>
    .error (.invalidArgument "tried to send invalid packet")

def sendMessage (message : NetworkThreadMessage) : Net Unit := do
  let socket ← getSocket
  let buf ← messagePacket env socket message
  sendBuf env buf

def sendHeartbeat : Net Unit := do
  let socket ← getSocket
  let buf := packet env socket .keepalive
  let now ← readNext env.highResolutionClock
  modifySocket fun socket => { socket with keepAliveTime := now }
  sendBuf env buf

def sendCheckIn : Net Unit := do
  let socket ← getSocket
  let accountData ← Call.gets fun w => w.accountData
  sendBuf env (encodeAccountData env.target accountData (packet env socket .checkIn))

def sendAccountDataRequest (playerId : Int32) : Net Unit := do
  let socket ← getSocket
  sendBuf env ((packet env socket .playerAccountDataRequest).writeI32 env.target playerId)

def sendDisconnect : Net Unit := do
  let socket ← getSocket
  sendBuf env (packet env socket .disconnect)

/-- The packet of `sendPingTo`. -/
def pingPacket (num : Int32) : ByteBuffer := (writeType env .ping).writeI32 env.target num

def sendPingTo (serverId serverIp : CString) (port : UInt16) : Net Unit := do
  let num ← readNext env.draw
  let now ← readNext env.systemClock
  modifySocket fun socket =>
    { socket with pingTimes := socket.pingTimes.insertIfNew num (serverId, now) }
  UdpSocket.sendAllTo env (pingPacket env num).data serverIp port

end GameSocket

/-- What the client may send. -/
inductive Message
  | queued (message : NetworkThreadMessage)
  | heartbeat
  | checkIn
  | accountDataRequest (playerId : Int32)
  | disconnect
  | ping (serverId serverIp : CString) (port : UInt16)
  deriving DecidableEq

namespace Message

/-- The method that sends it. -/
def send (env : Env) : Message → Net Unit
  | queued message => GameSocket.sendMessage env message
  | heartbeat => GameSocket.sendHeartbeat env
  | checkIn => GameSocket.sendCheckIn env
  | accountDataRequest playerId => GameSocket.sendAccountDataRequest env playerId
  | disconnect => GameSocket.sendDisconnect env
  | ping serverId serverIp port => GameSocket.sendPingTo env serverId serverIp port

end Message

end Globed.Client
