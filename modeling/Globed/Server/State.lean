import Globed.Base.FiniteMap
import Globed.Base.Pool
import Globed.Server.Data

/-!
# Server state

The two maps of `State` in `server.rs`, and every section of the server that runs under one of
their locks, as a function of the state. An `Action` is one such section (or a clock reading, a
send, or the start of the cleanup task); `step` runs it. Inside a section nothing else touches the
map, so a section is atomic, and the tasks of the server are trees of sections
(`Globed.Server.Handlers`).
-/

namespace Globed.Server

open Concurrent Bytebuffer

/-! ## Data model -/

inductive SocketAddr
  | v4 (ip : UInt32) (port : UInt16)
  | v6 (ip : BitVec 128) (port : UInt16) (flowinfo scopeId : UInt32)
  deriving DecidableEq

/-- Nanoseconds since a fixed point of time. -/
abbrev SystemTime := Nat

/-- Nanoseconds. -/
abbrev Duration := Nat

def Duration.fromSecs (secs : Nat) : Duration := secs * 1000000000

/-- `duration_since`: an error if `earlier` is the later one. -/
def SystemTime.durationSince (self earlier : SystemTime) : Option Duration :=
  if earlier ≤ self then some (self - earlier) else none

structure ClientData where
  address : SocketAddr
  secretKey : Int32
  levelId : Int32
  lastKeepaliveTime : SystemTime
  playerData : PlayerAccountData
  deriving DecidableEq

abbrev LevelData := FiniteMap Int32 PlayerData

def dailyLevelId : Int32 := -2000000000

def weeklyLevelId : Int32 := -2000000001

structure ServerSettings where
  tps : Nat
  maxClients : Int32
  tickBased : Bool
  kickTimeout : UInt32

/-- The field `kick_timeout` of the server's state. -/
def ServerSettings.kickDuration (settings : ServerSettings) : Duration :=
  .fromSecs settings.kickTimeout.toNat

structure State where
  levels : FiniteMap Int32 LevelData
  connectedClients : FiniteMap Int32 ClientData

def State.new : State := ⟨.empty, .empty⟩

inductive Error
  | io
  | tryFromPrimitive (number : UInt8)
  | anyhow (msg : String)
  deriving DecidableEq

def Error.toString : Error → String
  | io => "failed to fill whole buffer"
  | tryFromPrimitive number => s!"No discriminant matches the value {number}"
  | anyhow msg => msg

/-- What an action gets from outside: a reading of the clock, the orders in which the hash maps are
visited, and whether the socket sends. -/
structure Input where
  now : SystemTime
  order : IterOrder Int32
  levelOrder : IterOrder Int32
  sent : Bool

/-! ## Sections of `connected_clients` -/

namespace State

variable (st : State)

/-- The section of `add_client`. -/
def addClient (settings : ServerSettings) (now : SystemTime) (clientId : Int32)
    (address : SocketAddr) (secretKey : Int32) : Except Error Unit × State :=
  if st.connectedClients.contains clientId then
    (.error (.anyhow "Client already exists, please wait a minute before reconnecting."), st)
  else if settings.maxClients ≠ 0
      ∧ Int32.ofNat st.connectedClients.size ≥ settings.maxClients then
    (.error (.anyhow s!"This server is configured to handle a maximum of {st.connectedClients.size} clients, and cannot take any more."), st)
  else
    (.ok (), { st with
      connectedClients := st.connectedClients.insert clientId
        { address, secretKey, levelId := -1, lastKeepaliveTime := now, playerData := .empty } })

/-- `clients.remove`, in `remove_client` and for a client whose data is not valid. -/
def takeClient (clientId : Int32) : Option ClientData × State :=
  (st.connectedClients.get clientId,
    { st with connectedClients := st.connectedClients.erase clientId })

/-- The loop of `remove_dead_clients`. -/
def deadClients (settings : ServerSettings) (o : IterOrder Int32) (now : SystemTime) :
    List Int32 :=
  (st.connectedClients.entries o).filterMap fun (id, client) =>
    let elapsed := (now.durationSince client.lastKeepaliveTime).getD
      (settings.kickDuration + .fromSecs 1)
    if elapsed > settings.kickDuration then some id else none

/-- The second section of `add_client_to_level`. -/
def setLevelId (clientId levelId : Int32) : State :=
  { st with
    connectedClients := st.connectedClients.modify clientId fun client => { client with levelId } }

/-- The recipients in `broadcast_user_message`, if the sender is registered. -/
def userRecipients (o : IterOrder Int32) (senderClientId : Int32) : Option (List SocketAddr) :=
  (st.connectedClients.get senderClientId).map fun sender =>
    ((st.connectedClients.entries o).filter (·.2.levelId = sender.levelId)).map (·.2.address)

/-- The recipients in `broadcast_message`. -/
def recipients (o : IterOrder Int32) (levelId : Option Int32) : List SocketAddr :=
  ((st.connectedClients.entries o).filter fun (_, client) =>
    levelId.isNone ∨ some client.levelId = levelId).map (·.2.address)

def verifySecretKey (clientId key : Int32) : Except Error Unit :=
  match st.connectedClients.get clientId with
  | none => .error (.anyhow s!"Client not found by id {clientId}")
  | some client =>
    if client.secretKey ≠ key then .error (.anyhow "Secret key does not match") else .ok ()

/-- The section that stores the account data of a CheckIn. -/
def setPlayerData (clientId : Int32) (data : PlayerAccountData) : Bool × State :=
  (st.connectedClients.contains clientId,
    { st with
      connectedClients :=
        st.connectedClients.modify clientId fun client => { client with playerData := data } })

/-- The section of `on_keepalive`. -/
def keepalive (now : SystemTime) (clientId : Int32) : Nat × State :=
  (st.connectedClients.size,
    { st with
      connectedClients :=
        st.connectedClients.modify clientId fun client =>
          { client with lastKeepaliveTime := now } })

def nameAndLevel (clientId : Int32) : Option (String × Int32) :=
  (st.connectedClients.get clientId).map fun client => (client.playerData.name, client.levelId)

/-- The section of `on_userlevelexit`. -/
def exitLevel (clientId : Int32) : Option (String × Int32) × State :=
  (st.nameAndLevel clientId, st.setLevelId clientId (-1))

/-- The first loop of `tick`: the clients of each level. -/
def levelToPlayers (o : IterOrder Int32) : FiniteMap Int32 (List Int32) :=
  (st.connectedClients.entries o).foldl
    (fun m (id, clientData) =>
      if clientData.levelId ≠ -1 then
        m.insert clientData.levelId ((m.get clientData.levelId).getD [] ++ [id])
      else m)
    .empty

/-! ## Sections of `levels` -/

/-- The first section of `add_client_to_level`. -/
def insertIntoLevel (clientId levelId : Int32) : Bool × State :=
  let levels :=
    if st.levels.contains levelId then st.levels else st.levels.insert levelId .empty
  match levels.get levelId with
  | none => (false, { st with levels })
  | some level => (true, { st with levels := levels.insert levelId (level.insert clientId .empty) })

/-- The section of `remove_client_from_level`. -/
def removeFromLevel (clientId levelId : Int32) : Bool × State :=
  match st.levels.get levelId with
  | some level => (true, { st with levels := st.levels.insert levelId (level.erase clientId) })
  | none => (false, st)

/-- `remove_empty_levels` -/
def retainLevels : State :=
  { st with levels := st.levels.retain fun _ level => !level.isEmpty }

/-- The section of `on_updatedata` that stores the data. -/
def storePlayerData (clientId levelId : Int32) (data : PlayerData) : Bool × State :=
  match st.levels.get levelId with
  | some level =>
    (true, { st with levels := st.levels.insert levelId (level.insert clientId data) })
  | none => (false, st)

/-- The players of a level, if the level exists. -/
def levelEntries (o : IterOrder Int32) (levelId : Int32) : Option (List (Int32 × PlayerData)) :=
  (st.levels.get levelId).map (·.entries o)

/-- The levels with their numbers of players. -/
def levelCounts (o : IterOrder Int32) : List (Int32 × Nat) :=
  (st.levels.entries o).map fun (levelId, level) => (levelId, level.size)

/-- One iteration of the second loop of `tick`: the players of the level, or none if it does not
exist; then its clients are on no level any more. -/
def tickLevel (o : IterOrder Int32) (levelId : Int32) (players : List Int32) :
    Option (List (Int32 × PlayerData)) × State :=
  match st.levels.get levelId with
  | none => (none, players.foldl (fun st player => st.setLevelId player (-1)) st)
  | some level => (some (level.entries o), st)

end State

/-! ## Actions -/

inductive Action
  | now
  | sendTo (addr : SocketAddr) (buf : List UInt8)
  | spawnRemoveEmptyLevels
  | addClient (clientId : Int32) (address : SocketAddr) (secretKey : Int32)
  | takeClient (clientId : Int32)
  | deadClients (now : SystemTime)
  | setLevelId (clientId levelId : Int32)
  | clientAddress (clientId : Int32)
  | userRecipients (senderClientId : Int32)
  | recipients (levelId : Option Int32)
  | verifySecretKey (clientId key : Int32)
  | clientCount
  | setPlayerData (clientId : Int32) (data : PlayerAccountData)
  | keepalive (clientId : Int32)
  | nameAndLevel (clientId : Int32)
  | exitLevel (clientId : Int32)
  | levelIdOf (clientId : Int32)
  | accountData (playerId : Int32)
  | senderInfo (clientId : Int32)
  | levelToPlayers
  | insertIntoLevel (clientId levelId : Int32)
  | removeFromLevel (clientId levelId : Int32)
  | retainLevels
  | storePlayerData (clientId levelId : Int32) (data : PlayerData)
  | levelEntries (levelId : Int32)
  | levelCounts
  | tickLevel (levelId : Int32) (players : List Int32)

/-- What an action answers. -/
@[reducible]
def Action.Answer : Action → Type
  | now => SystemTime
  | sendTo _ _ => Bool
  | spawnRemoveEmptyLevels => Unit
  | addClient _ _ _ => Except Error Unit
  | takeClient _ => Option ClientData
  | deadClients _ => List Int32
  | setLevelId _ _ => Unit
  | clientAddress _ => Option SocketAddr
  | userRecipients _ => Option (List SocketAddr)
  | recipients _ => List SocketAddr
  | verifySecretKey _ _ => Except Error Unit
  | clientCount => Nat
  | setPlayerData _ _ => Bool
  | keepalive _ => Nat
  | nameAndLevel _ => Option (String × Int32)
  | exitLevel _ => Option (String × Int32)
  | levelIdOf _ => Option Int32
  | accountData _ => Option PlayerAccountData
  | senderInfo _ => Option (String × Int32)
  | levelToPlayers => List (Int32 × List Int32)
  | insertIntoLevel _ _ => Bool
  | removeFromLevel _ _ => Bool
  | retainLevels => Unit
  | storePlayerData _ _ _ => Bool
  | levelEntries _ => Option (List (Int32 × PlayerData))
  | levelCounts => List (Int32 × Nat)
  | tickLevel _ _ => Option (List (Int32 × PlayerData))

/-- Run one action. -/
def step (settings : ServerSettings) (o : Input) : (a : Action) → State → a.Answer × State
  | .now, st => (o.now, st)
  | .sendTo _ _, st => (o.sent, st)
  | .spawnRemoveEmptyLevels, st => ((), st)
  | .addClient clientId address secretKey, st =>
    st.addClient settings o.now clientId address secretKey
  | .takeClient clientId, st => st.takeClient clientId
  | .deadClients now, st => (st.deadClients settings o.order now, st)
  | .setLevelId clientId levelId, st => ((), st.setLevelId clientId levelId)
  | .clientAddress clientId, st => ((st.connectedClients.get clientId).map (·.address), st)
  | .userRecipients senderClientId, st => (st.userRecipients o.order senderClientId, st)
  | .recipients levelId, st => (st.recipients o.order levelId, st)
  | .verifySecretKey clientId key, st => (st.verifySecretKey clientId key, st)
  | .clientCount, st => (st.connectedClients.size, st)
  | .setPlayerData clientId data, st => st.setPlayerData clientId data
  | .keepalive clientId, st => st.keepalive o.now clientId
  | .nameAndLevel clientId, st => (st.nameAndLevel clientId, st)
  | .exitLevel clientId, st => st.exitLevel clientId
  | .levelIdOf clientId, st => ((st.connectedClients.get clientId).map (·.levelId), st)
  | .accountData playerId, st => ((st.connectedClients.get playerId).map (·.playerData), st)
  | .senderInfo clientId, st => (st.nameAndLevel clientId, st)
  | .levelToPlayers, st => ((st.levelToPlayers o.order).entries o.levelOrder, st)
  | .insertIntoLevel clientId levelId, st => st.insertIntoLevel clientId levelId
  | .removeFromLevel clientId levelId, st => st.removeFromLevel clientId levelId
  | .retainLevels, st => ((), st.retainLevels)
  | .storePlayerData clientId levelId data, st => st.storePlayerData clientId levelId data
  | .levelEntries levelId, st => (st.levelEntries o.order levelId, st)
  | .levelCounts, st => (st.levelCounts o.levelOrder, st)
  | .tickLevel levelId players, st => st.tickLevel o.order levelId players

/-- A task of the server. -/
abbrev Task (α : Type) := Proc Action Action.Answer Error α

end Globed.Server
