import Globed.Base.History
import Globed.Client.PlayLayer

/-!
# The threads of the client

The main thread of the game, and `tMain`, `tRecv` and `tKeepalive` of `net/network_handler.cpp`,
share the globals of `global_data.hpp`: the socket with its session (`World`), the corrector, the
cache of account data, and two queues (`smart_message_queue.hpp`). Each access is one step. The
queues and the cache are locked for it; the corrector and the socket are so in places only, and what
happens when two threads are in them at the same moment is left out. The corrector's lists of new
and gone players are copied in one step and cleared in the next.
-/

namespace Globed.Client

open Calls Concurrent

/-! ## Queues -/

structure SmartMessageQueue (T : Type) where
  iq : List T
  /-- What was popped; the code does not keep it. -/
  popped : List T

namespace SmartMessageQueue

variable {T : Type}

def new : SmartMessageQueue T := ⟨[], []⟩

/-- Everything that was pushed. -/
def pushed (q : SmartMessageQueue T) : List T := q.popped ++ q.iq

def empty (q : SmartMessageQueue T) : Bool := q.iq.isEmpty

/-- There is no first message in an empty queue. -/
def pop (q : SmartMessageQueue T) : Option T × SmartMessageQueue T :=
  match q.iq with
  | [] => (none, q)
  | val :: iq => (some val, ⟨iq, q.popped ++ [val]⟩)

def popAll (q : SmartMessageQueue T) : List T × SmartMessageQueue T :=
  (extractLoop [] q.iq, ⟨[], q.popped ++ q.iq⟩)

def push (q : SmartMessageQueue T) (msg : T) : SmartMessageQueue T := { q with iq := q.iq ++ [msg] }

@[simp] theorem pushed_push (q : SmartMessageQueue T) (msg : T) :
    (q.push msg).pushed = q.pushed ++ [msg] := by
  simp [pushed, push]

@[simp] theorem pushed_pop (q : SmartMessageQueue T) : q.pop.2.pushed = q.pushed := by
  unfold pop
  split
  · rfl
  · next val iq h => simp [pushed, h]

@[simp] theorem pushed_popAll (q : SmartMessageQueue T) : q.popAll.2.pushed = q.pushed := by
  simp [pushed, popAll]

theorem popAll_fst (q : SmartMessageQueue T) : q.popAll.1 = q.iq := extractLoop_eq [] q.iq

end SmartMessageQueue

/-! ## Globals -/

structure GlobalData (F : Type) where
  world : World
  pCorrector : PlayerCorrector F
  accDataCache : FiniteMap Int32 PlayerAccountData
  messages : SmartMessageQueue TextMessage
  netMsgQueue : SmartMessageQueue NetworkThreadMessage

/-- The orders in which two maps are visited. -/
structure Orders where
  first : IterOrder Int32
  second : IterOrder Int32

namespace GlobalData

variable {F : Type}

/-- The globals when the threads start. -/
def new (world : World) (targetUpdateDelay : F) : GlobalData F where
  world := world
  pCorrector := ⟨targetUpdateDelay, .empty, [], []⟩
  accDataCache := .empty
  messages := .new
  netMsgQueue := .new

/-- A call on the session. -/
def call {α : Type} (g : GlobalData F) (c : Net α) : Except Failure α × GlobalData F :=
  ((c g.world).1, { g with world := (c g.world).2 })

/-- What one access does. -/
def step [Singles F] (env : Env) (o : Orders) (a : Access F) (g : GlobalData F) :
    a.Answer × GlobalData F :=
  match a with
  | .established => (g.world.gameSocket.established, g)
  | .gameServerTps => (g.world.gameServerTps, g)
  | .accountId => (g.world.gameSocket.accountId, g)
  | .accountData => (g.world.accountData, g)
  | .updateAccountData accountData => (⟨⟩, { g with world := { g.world with accountData } })
  | .connectToServer id => g.call (NetworkHandler.connectToServer env id)
  | .disconnect quiet save => g.call (NetworkHandler.disconnect env quiet save)
  | .setTargetDelta delta =>
    (⟨⟩, { g with pCorrector := { g.pCorrector with targetUpdateDelay := delta } })
  | .joinedLevel => (⟨⟩, { g with pCorrector := g.pCorrector.joinedLevel })
  | .copyGonePlayers => (g.pCorrector.playersGone, g)
  | .clearGonePlayers => (⟨⟩, { g with pCorrector := g.pCorrector.getGonePlayers.2 })
  | .copyNewPlayers => (g.pCorrector.playersNew, g)
  | .clearNewPlayers => (⟨⟩, { g with pCorrector := g.pCorrector.getNewPlayers.2 })
  | .getPlayerIds => (o.first.list g.pCorrector.playerData.keys, g)
  | .interpolate players dt playerId =>
    match g.pCorrector.interpolate players dt playerId with
    | .ok (players, pCorrector) => (.ok players, { g with pCorrector })
    | .error e => (.error e, g)
  | .cached playerId => (g.accDataCache.get playerId, g)
  | .dataCache => (g.accDataCache, g)
  | .popAllMessages => (g.messages.popAll.1, { g with messages := g.messages.popAll.2 })
  | .pushNetMsg message => (⟨⟩, { g with netMsgQueue := g.netMsgQueue.push message })
  | .engine _ | .returned _ _ | .waitForMessages => (⟨⟩, g)
  | .netMsgQueueEmpty => (g.netMsgQueue.empty, g)
  | .popNetMsg => (g.netMsgQueue.pop.1, { g with netMsgQueue := g.netMsgQueue.pop.2 })
  | .handleMessage accountId answer message =>
    g.call (NetworkHandler.handleMessage env accountId answer message)
  | .receive incoming => g.call (GameSocket.recvPacket env incoming)
  | .handlePacket packet => g.call (NetworkHandler.handlePacket env packet)
  | .feedRealData players =>
    (⟨⟩, { g with
      pCorrector := g.pCorrector.feedRealData o.first o.second
        (players.map fun _ data => data.frame Singles.value) })
  | .cacheAccData playerId data =>
    (⟨⟩, { g with accDataCache := g.accDataCache.insert playerId data })
  | .pushMessage message => (⟨⟩, { g with messages := g.messages.push message })
  | .keepaliveRound => g.call (NetworkHandler.keepaliveRound env)

end GlobalData

/-! ## Threads -/

/-- What a round of `tMain` gets from outside: the account of the game, and the answer of the
central server. -/
structure Round where
  accountId : Int32
  answer : Option (List GameServer)

/-- The threads, with what happens to them from outside. -/
inductive Thread (F : Type)
  | game (saved : SavedLists) (callbacks : List (Callback F))
  | main (rounds : List Round)
  | recv (incoming : List (Option Datagram))
  | keepalive (rounds : Nat)

section Threads

variable {F : Type} [Singles F] (env : Env)

/-- Callbacks come one after another. -/
def gameThread (game : Game F) : List (Callback F) → GameTask F Unit
  | [] => return
  | callback :: callbacks => do
    let game ← callback.run env game
    access (.returned callback game)
    gameThread game callbacks

/-- An exception that leaves the loop ends the process. -/
def tMain : List Round → GameTask F Unit
  | [] => return
  | round :: rounds => do
    access .waitForMessages
    if ← access .netMsgQueueEmpty then tMain rounds
    else
      match ← access .popNetMsg with
      | none => .panic
      | some message =>
        let _ ← Proc.ofExcept (← access (.handleMessage round.accountId round.answer message))
        tMain rounds

/-- The packets that concern a level go to the main thread, and the others to the session. -/
def handOver (packet : RecvPacket) : GameTask F Unit :=
  match packet with
  | .levelData players => access (.feedRealData players)
  | .accountDataResponse playerId data => access (.cacheAccData playerId data)
  | .textMessage sender message => access (.pushMessage ⟨sender, message, (255, 255, 255)⟩)
  | .serverMessage message color => access (.pushMessage ⟨-1, message, color⟩)
  | .checkedIn _ | .keepaliveResponse _ _ | .serverDisconnect _ | .levelListResponse _
  | .pingResponse _ _ _ => do
    let _ ← access (.handlePacket packet)

/-- One round of `tRecv`. An exception is caught. -/
def recvOnce (incoming : Option Datagram) : GameTask F Unit := do
  match ← access (.receive incoming) with
  | .ok packet => handOver packet
  | .error _ => return

def tRecv : List (Option Datagram) → GameTask F Unit
  | [] => return
  | incoming :: rest => do
    recvOnce incoming
    tRecv rest

def tKeepalive : Nat → GameTask F Unit
  | 0 => return
  | rounds + 1 => do
    let _ ← Proc.ofExcept (← access .keepaliveRound)
    tKeepalive rounds

def Thread.task : Thread F → GameTask F Unit
  | .game saved callbacks => gameThread env (.new saved) callbacks
  | .main rounds => tMain rounds
  | .recv incoming => tRecv incoming
  | .keepalive rounds => tKeepalive rounds

/-- The threads, whatever happens to them. -/
inductive ThreadName
  | game
  | main
  | recv
  | keepalive
  deriving DecidableEq

def Thread.name : Thread F → ThreadName
  | .game _ _ => .game
  | .main _ => .main
  | .recv _ => .recv
  | .keepalive _ => .keepalive

/-- The thread that performs an access. -/
def Access.thread : Access F → ThreadName
  | .established | .gameServerTps | .accountId | .accountData | .updateAccountData _
  | .connectToServer _ | .disconnect _ _ | .setTargetDelta _ | .joinedLevel | .copyGonePlayers
  | .clearGonePlayers | .copyNewPlayers | .clearNewPlayers | .getPlayerIds | .interpolate _ _ _
  | .cached _ | .dataCache | .popAllMessages | .pushNetMsg _ | .engine _ | .returned _ _ => .game
  | .waitForMessages | .netMsgQueueEmpty | .popNetMsg | .handleMessage _ _ _ => .main
  | .receive _ | .handlePacket _ | .feedRealData _ | .cacheAccData _ _ | .pushMessage _ => .recv
  | .keepaliveRound => .keepalive

/-- The client. No thread starts another one. -/
def client : System (Access F) Access.Answer Failure (GlobalData F) Orders (Thread F) where
  machine := ⟨GlobalData.step env, fun _ _ => True⟩
  task := Thread.task env
  spawned _ := []

/-- The client when its threads start. -/
abbrev ClientConfig (F : Type) := Config (Access F) Access.Answer Failure (GlobalData F) (Thread F)

/-- What happens to the client from outside. -/
structure Inputs (F : Type) where
  saved : SavedLists
  callbacks : List (Callback F)
  rounds : List Round
  incoming : List (Option Datagram)
  keepalives : Nat

def Inputs.threads (inputs : Inputs F) : List (Thread F) :=
  [.game inputs.saved inputs.callbacks, .main inputs.rounds, .recv inputs.incoming,
    .keepalive inputs.keepalives]

/-- The client reaches this configuration, its threads interleaving in any way. -/
def Runs (g : GlobalData F) (inputs : Inputs F) (c : ClientConfig F) : Prop :=
  (client env).Reach .closed ⟨g, inputs.threads.map (client env).start⟩ c

end Threads

end Globed.Client
