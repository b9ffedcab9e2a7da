import Globed.Base.Call
import Globed.Client.Data

/-!
# The state of the client

The socket (`net/udp_socket.hpp`, `net/game_socket.hpp`) with the globals that the network handler
works on, and what calls get from outside: the machine, the system calls, the clocks and the random
numbers. A `World` keeps a trace of what was sent, and of when the client was connected to a game
server.
-/

namespace Globed.Client

open Calls

/-- Nanoseconds on one of the clocks. -/
abbrev Time := Int

/-- `duration_cast<milliseconds>(d).count()` -/
def Time.toMs (d : Time) : Int := d.tdiv 1000000

/-! ## The socket -/

/-- `AF_INET` -/
def afInet : UInt16 := 2

/-- `sockaddr_in`; the port is the number that is stored in network order. -/
structure SockAddr where
  family : UInt16
  port : UInt16
  addr : UInt32
  deriving DecidableEq

structure UdpSocket where
  connected : Bool
  destAddr : SockAddr

structure GameSocket extends UdpSocket where
  established : Bool
  accountId : Int32
  secretKey : Int32
  keepAliveTime : Time
  pingTimes : FiniteMap Int32 (CString × Time)

def GameSocket.new (accountId secretKey : Int32) : GameSocket where
  connected := false
  destAddr := ⟨0, 0, 0⟩
  established := false
  accountId := accountId
  secretKey := secretKey
  keepAliveTime := 0
  pingTimes := .empty

/-- What `recvfrom` takes from the network. -/
structure Datagram where
  source : SockAddr
  data : List UInt8

/-! ## The world -/

structure GameServer where
  name : CString
  id : CString
  region : CString
  address : CString
  deriving DecidableEq

/-- The method that a datagram is sent through. -/
inductive Origin
  | sendBuf
  | sendAllTo
  deriving DecidableEq

/-- What can be seen of the client. -/
inductive Observation
  /-- The client connected to a game server at this address. -/
  | connected (serverIp : CString) (port : UInt16)
  | disconnected
  /-- A datagram was handed to `sendto`, which sent it or failed. -/
  | datagram (origin : Origin) (dest : SockAddr) (data : List UInt8) (sent : Bool)
  deriving DecidableEq

structure World where
  gameSocket : GameSocket
  accountData : PlayerAccountData
  gameServers : List GameServer
  gameServerId : CString
  gameServersPings : FiniteMap CString (Int × Int32)
  gameServerPing : Int
  gameServerPlayerCount : Int32
  gameServerTps : UInt16
  gameServerLastHeartbeat : Int64
  lastServerId : CString
  /-- How many datagrams were handed to `sendto`. -/
  sends : Nat
  /-- How often a clock was read or a number drawn. -/
  ticks : Nat
  trace : List Observation

/-- What calls get from outside, each reading a new one. -/
structure Env where
  target : Target
  debug : Bool
  inetPton : CString → Option UInt32
  sent : Nat → Bool
  systemClock : Nat → Time
  highResolutionClock : Nat → Time
  draw : Nat → Int32
  lastNetError : String
  order : IterOrder CString

/-- A method of the client. -/
abbrev Net (α : Type) := Call Failure World α

/-- Take the next reading. -/
def readNext {α : Type} (readings : Nat → α) : Net α :=
  modifyGet fun w => (readings w.ticks, { w with ticks := w.ticks + 1 })

def observe (o : Observation) : Net Unit := modify fun w => { w with trace := w.trace ++ [o] }

def getSocket : Net GameSocket := Call.gets fun w => w.gameSocket

def modifySocket (f : GameSocket → GameSocket) : Net Unit :=
  modify fun w => { w with gameSocket := f w.gameSocket }

/-- The contents of the datagrams that were handed to `sendto`. -/
def datagrams (trace : List Observation) : List (List UInt8) :=
  trace.filterMap fun o =>
    match o with
    | .datagram _ _ data _ => some data
    | .connected _ _ | .disconnected => none

theorem datagrams_append (trace trace' : List Observation) :
    datagrams (trace ++ trace') = datagrams trace ++ datagrams trace' :=
  List.filterMap_append

/-- The world after a datagram came from `source`: its address is the one that is sent to. -/
def World.heardFrom (w : World) (source : SockAddr) : World :=
  { w with gameSocket := { w.gameSocket with destAddr := source } }

/-- The characters of a C string. -/
def cStr (str : CString) : CString := str.takeWhile (· ≠ 0)

/-- The socket address that an address and a port stand for. -/
def Env.sockAddr (env : Env) (serverIp : CString) (port : UInt16) : Option SockAddr :=
  (env.inetPton (cStr serverIp)).map fun addr => ⟨afInet, port, addr⟩

/-- The game server that the client is connected to, after what was seen of it. -/
def gameServer (trace : List Observation) : Option (CString × UInt16) :=
  trace.foldl (fun server o =>
    match o with
    | .connected serverIp port => some (serverIp, port)
    | .disconnected => none
    | .datagram _ _ _ _ => server) none

@[simp] theorem gameServer_connected (trace : List Observation) (serverIp : CString)
    (port : UInt16) :
    gameServer (trace ++ [.connected serverIp port]) = some (serverIp, port) := by
  simp [gameServer]

@[simp] theorem gameServer_disconnected (trace : List Observation) :
    gameServer (trace ++ [.disconnected]) = none := by
  simp [gameServer]

@[simp] theorem gameServer_datagram (trace : List Observation) (origin : Origin) (dest : SockAddr)
    (data : List UInt8) (sent : Bool) :
    gameServer (trace ++ [.datagram origin dest data sent]) = gameServer trace := by
  simp [gameServer]

/-- The state at the start. -/
def World.new (accountId secretKey : Int32) (accountData : PlayerAccountData)
    (gameServers : List GameServer) : World where
  gameSocket := .new accountId secretKey
  accountData := accountData
  gameServers := gameServers
  gameServerId := []
  gameServersPings := .empty
  gameServerPing := -1
  gameServerPlayerCount := 0
  gameServerTps := 0
  gameServerLastHeartbeat := 0
  lastServerId := []
  sends := 0
  ticks := 0
  trace := []

/-- A little-endian machine of 64 bits. -/
def Target.x64 (android : Bool) : Target where
  littleEndian := true
  sizeBits := 64
  sizeBits_ge := by decide
  stringMax := 2 ^ 62
  android := android

/-- A network where every datagram is sent, and where `addresses` are the valid addresses. -/
noncomputable def Env.working (addresses : List (CString × UInt32)) : Env where
  target := .x64 false
  debug := false
  inetPton str := addresses.lookup str
  sent _ := true
  systemClock n := n
  highResolutionClock n := n
  draw n := .ofNat n
  lastNetError := ""
  order := .any CString

end Globed.Client
