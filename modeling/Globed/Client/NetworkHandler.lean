import Globed.Client.GameSocket

/-!
# The network handler

`net/network_handler.cpp` and `splitAddress` of `util.cpp`: connecting to a game server and
disconnecting, the pings to all servers, and one round of each of the three threads. What is only
shown to the player is left out.
-/

namespace Globed.Client

open Calls

/-! ## Addresses -/

def isSpace (c : UInt8) : Bool := c == 32 || (9 ≤ c && c ≤ 13)

def isDigit (c : UInt8) : Bool := 48 ≤ c && c ≤ 57

/-- `std::istringstream(str) >> port`: leading space, a sign and decimal digits, what follows being
left in the stream. A minus sign negates the number modulo 2^16. -/
def extractPort (str : CString) : Option UInt16 :=
  let str := str.dropWhile isSpace
  let negative := str.head? == some 45
  let digits := (if negative || str.head? == some 43 then str.tail else str).takeWhile isDigit
  let value := digits.foldl (fun n c => 10 * n + (c.toNat - 48)) 0
  if digits = [] ∨ value > 65535 then none
  else if negative then some (0 - UInt16.ofNat value)
  else some (.ofNat value)

def splitAddress (address : CString) : Except Failure (CString × UInt16) :=
  if address.contains 58 then
    match extractPort (address.dropWhile (· ≠ 58)).tail with
    | some port => .ok (address.takeWhile (· ≠ 58), port)
    | none => .error (.invalidArgument "invalid port number")
  else .ok (address, 0)

namespace NetworkHandler

variable (env : Env)

/-! ## Connecting -/

/-- `globed_util::timestampMs` -/
def timestampMs : Net UInt64 := do
  let now ← readNext env.highResolutionClock
  return (Int64.ofInt now.toMs).toUInt64

/-- The ping and the player count of the game server are kept with those of the other servers. -/
def keepPing : Net Unit := modify fun w =>
  if w.gameSocket.established then
    { w with
      gameServersPings := w.gameServersPings.insert w.gameServerId
        (w.gameServerPing, w.gameServerPlayerCount) }
  else w

/-- The packet that the server gets unless the client leaves quietly. -/
def sayDisconnect (quiet : Bool) : Net Unit := do
  let socket ← getSocket
  if !quiet && socket.connected then
    tryCatch (GameSocket.sendDisconnect env) fun _ => pure ()
  else pure ()

/-- With `save` set, `last-server-id` is cleared. -/
def clearLastServer (save : Bool) : Net Unit :=
  if save then modify fun w => { w with lastServerId := [] } else pure ()

def disconnect (quiet save : Bool) : Net Unit := do
  sayDisconnect env quiet
  clearLastServer save
  keepPing
  GameSocket.disconnect
  modify fun w => { w with
    gameServerPlayerCount := 0
    gameServerPing := -1
    gameServerTps := 0
    gameServerLastHeartbeat := 0
    gameServerId := [] }

/-- The part of `connectToServer` after the server is found. -/
def connectTo (server : GameServer) : Net Bool := do
  let (address, port) ← splitAddress server.address
  let port := if port = 0 then 41001 else port
  let valid ← UdpSocket.connect env address port
  if valid then
    observe (.connected address port)
    modify fun w => { w with gameServerId := server.id }
    GameSocket.sendCheckIn env
    modify fun w => { w with lastServerId := server.id }
    return true
  else return false

def connectToServer (id : CString) : Net Bool := do
  disconnect env false false
  let gameServers ← Call.gets fun w => w.gameServers
  match gameServers.find? fun server => server.id == id with
  | some server => connectTo env server
  | none => return false

/-! ## Pings -/

/-- The servers to ping: all but the one with the id `gameServerId`. -/
def pingAddresses (gameServerId : CString) (gameServers : List GameServer) :
    Except Failure (FiniteMap CString (CString × UInt16)) :=
  gameServers.foldlM (fun addresses server =>
    if server.id == gameServerId then .ok addresses
    else (splitAddress server.address).map fun address => addresses.insertIfNew server.id address)
    .empty

/-- One round of the loop of `pingAllServers`. -/
def pingServer (target : CString × CString × UInt16) : Net Unit :=
  tryCatch (GameSocket.sendPingTo env target.1 target.2.1 target.2.2) fun _ => pure ()

def pingAllServers : Net Unit := do
  let w ← get
  let addresses ← pingAddresses w.gameServerId w.gameServers
  (addresses.entries env.order).forM (pingServer env)

/-! ## The threads -/

/-- What `tRecv` does with a packet. Levels, icons and texts are handed to the rest of the mod. -/
def handlePacket : RecvPacket → Net Unit
  | .checkedIn tps => do
    modifySocket fun socket => { socket with established := true }
    modify fun w =>
      match w.gameServersPings.get w.gameServerId with
      | some (ping, playerCount) =>
        { w with gameServerPing := ping, gameServerPlayerCount := playerCount }
      | none => w
    modify fun w => { w with gameServerTps := tps }
  | .keepaliveResponse playerCount ping => do
    modify fun w => { w with
      gameServerPing := ping
      gameServerPlayerCount := playerCount.toInt32 }
    let now ← timestampMs env
    modify fun w => { w with gameServerLastHeartbeat := now.toInt64 }
  | .serverDisconnect _ => disconnect env true true
  | .pingResponse serverId playerCount ping =>
    modify fun w => { w with
      gameServersPings := w.gameServersPings.insert serverId (ping, playerCount.toInt32) }
  | .levelData _ | .accountDataResponse _ _ | .levelListResponse _ | .textMessage _ _
  | .serverMessage _ _ => pure ()

/-- One round of `tRecv`, once there is something to receive. -/
def recvRound (incoming : Option Datagram) : Net Unit :=
  tryCatch
    (do
      let packet ← GameSocket.recvPacket env incoming
      handlePacket env packet)
    fun _ => pure ()

/-- The last part of a round of `tKeepalive`. -/
def checkHeartbeat : Net Unit := do
  let lastHb ← Call.gets fun w => w.gameServerLastHeartbeat
  if lastHb = 0 then pure ()
  else
    let now ← timestampMs env
    if now - lastHb.toUInt64 > 15000 then disconnect env true true else pure ()

/-- One round of `tKeepalive`. -/
def keepaliveRound : Net Unit := do
  let socket ← getSocket
  if socket.established then
    tryCatch (GameSocket.sendHeartbeat env) fun _ => pure ()
    checkHeartbeat env
  else pure ()

/-- A change of the central server ends the connection to a game server. -/
def leaveServer : Net Unit := do
  let socket ← getSocket
  if socket.established then disconnect env false true else pure ()

/-- `testCentralServer`: the new list of servers, if the central server answered with one. -/
def testCentralServer (answer : Option (List GameServer)) : Net Unit :=
  match answer with
  | some gameServers => modify fun w => { w with gameServers }
  | none => pure ()

/-- What `tMain` does with a message. The account id is that of the game, `answer` the one of the
central server. -/
def handleMessage (accountId : Int32) (answer : Option (List GameServer)) :
    NetworkThreadMessage → Net Unit
  | .centralServerChanged _ => do
    leaveServer env
    modify fun w => { w with gameServersPings := .empty, gameServers := [] }
    testCentralServer answer
    pingAllServers env
  | .menuLayerEntry => do
    modifySocket fun socket => { socket with accountId }
    if accountId = 0 then disconnect env true true
    else
      let w ← get
      if w.lastServerId ≠ [] ∧ w.gameSocket.connected = false then
        let _ ← connectToServer env w.lastServerId
      else pure ()
  | .pingServers => pingAllServers env
  | message => do
    let socket ← getSocket
    if socket.established then
      tryCatch (GameSocket.sendMessage env message) fun _ => pure ()
    else pure ()

end NetworkHandler

/-! ## Runs -/

/-- What may happen to the client. -/
inductive Event
  | connectToServer (id : CString)
  | disconnect (quiet save : Bool)
  | send (message : Message)
  | pingAllServers
  | receive (incoming : Option Datagram)
  | keepalive
  | handleMessage (accountId : Int32) (answer : Option (List GameServer))
      (message : NetworkThreadMessage)
  | updateAccountData (accountData : PlayerAccountData)

/-- The world after an event, whether its call returns or throws. -/
def Event.after (env : Env) (w : World) : Event → World
  | connectToServer id => (NetworkHandler.connectToServer env id w).2
  | disconnect quiet save => (NetworkHandler.disconnect env quiet save w).2
  | send message => (message.send env w).2
  | pingAllServers => (NetworkHandler.pingAllServers env w).2
  | receive incoming => (NetworkHandler.recvRound env incoming w).2
  | keepalive => (NetworkHandler.keepaliveRound env w).2
  | handleMessage accountId answer message =>
    (NetworkHandler.handleMessage env accountId answer message w).2
  | updateAccountData accountData => { w with accountData }

/-- The world after a run. -/
def run (env : Env) (w : World) (events : List Event) : World :=
  events.foldl (fun w event => event.after env w) w

end Globed.Client
