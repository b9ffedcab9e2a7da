import Globed.Base.Proc
import Globed.Client.CappedQueue
import Globed.Client.ChatLists
import Globed.Client.Interpolation
import Globed.Client.NetworkHandler

/-!
# The play layer

`hooked/play_layer.hpp` with what it draws of other players (`ui/game/remote_player.cpp`,
`player_progress*.cpp`), `ui/popup/spectate_*.cpp` and `hooked/pause_layer.hpp`. The engine calls
one method after another on its main thread; each is a task (`Callback.run`), since the network
threads work on the globals meanwhile. What only the main thread reads and writes is a `Game`.
-/

namespace Globed.Client

open Concurrent

/-- The arithmetic that the layer needs beside that of the corrector. -/
class Singles (F : Type) extends Decimals F where
  value : F32 → F
  bits : F → F32
  le : F → F → Bool

/-- The number that 32 bits stand for. -/
def F32.toRat (x : F32) : Rat :=
  let exponent : Nat := x.toNat / 2 ^ 23 % 256
  let mantissa : Nat := x.toNat % 2 ^ 23
  let value : Rat :=
    if exponent = 0 then mkRat (mantissa * 2) (2 ^ 150)
    else mkRat ((2 ^ 23 + mantissa) * 2 ^ exponent) (2 ^ 150)
  if x.toNat / 2 ^ 31 = 0 then value else -value

/-- The bits of a number that is not too large, rounded towards zero. -/
def F32.ofRat (x : Rat) : F32 :=
  let n : Nat := (|x| * 2 ^ 150).floor.toNat
  let exponent := n.log2 - 23
  let mantissa := if exponent = 0 then n / 2 else n / 2 ^ exponent - 2 ^ 23
  .ofNat ((if x < 0 then 2 ^ 31 else 0) + exponent * 2 ^ 23 + mantissa)

/-- Exact arithmetic. -/
instance : Singles Rat where
  value := F32.toRat
  bits := F32.ofRat
  le a b := a ≤ b

example : (F32.ofRat (-3 / 8)).toRat = -3 / 8 := by decide +kernel

/-! ## Nodes -/

/-- `DEFAULT_PLAYER_ACCOUNT_DATA` -/
def defaultPlayerAccountData : PlayerAccountData where
  cube := 1
  ship := 1
  ball := 1
  ufo := 1
  wave := 1
  robot := 1
  spider := 1
  color1 := 0
  color2 := 3
  deathEffect := 1
  glow := false
  name := [80, 108, 97, 121, 101, 114]

/-- `operator==` of `remote_player.cpp`, which does not look at the death effect. -/
def PlayerAccountData.looksLike (lhs rhs : PlayerAccountData) : Bool :=
  lhs.cube == rhs.cube && lhs.ship == rhs.ship && lhs.ball == rhs.ball && lhs.ufo == rhs.ufo &&
    lhs.wave == rhs.wave && lhs.robot == rhs.robot && lhs.spider == rhs.spider &&
    lhs.color1 == rhs.color1 && lhs.color2 == rhs.color2 && lhs.glow == rhs.glow &&
    lhs.name == rhs.name

/-- A `RemotePlayer`: what moves, and the icons and the name. -/
structure PlayerNode (F : Type) where
  player : RemotePlayer F
  data : PlayerAccountData
  isDefault : Bool

namespace PlayerNode

variable {F : Type}

/-- The icons are new ones, none of which is shown yet. -/
def updateData (node : PlayerNode F) (data : PlayerAccountData) (areDefaults : Bool) :
    PlayerNode F where
  player := { node.player with firstTick := true, lastMode := .none }
  data := data
  isDefault := if !areDefaults then false else node.isDefault

def create [Zero F] [One F] (isSecond : Bool) (settings : RemotePlayerSettings)
    (data : PlayerAccountData) : PlayerNode F :=
  let isDefault := data.looksLike defaultPlayerAccountData
  let player :=
    { isSecond, settings
      visible := true
      scaleX := 1, scaleY := 1
      x := 0, y := 0
      rotation := 0
      camX := 0, camY := 0
      haltedMovement := false, justRespawned := false, justDied := false
      firstTick := true
      lastMode := .none
      wasPractice := false, wasPaused := false, wasGrounded := false, wasDead := false }
  updateData ⟨player, data, isDefault⟩ data isDefault

end PlayerNode

/-- A `PlayerProgress` or `PlayerProgressNew`. -/
structure PlayerProgress where
  isDefault : Bool
  data : PlayerAccountData

def PlayerProgress.create : PlayerProgress := ⟨true, defaultPlayerAccountData⟩

def PlayerProgress.updateData (data : PlayerAccountData) : PlayerProgress := ⟨false, data⟩

/-! ## Chat -/

structure TextMessage where
  sender : Int32
  message : CString
  color : UInt8 × UInt8 × UInt8
  deriving DecidableEq

/-- The icon and the name beside a text, if a player sent it. -/
structure ChatLine where
  accData : Option PlayerAccountData
  text : TextMessage
  deriving DecidableEq

/-- What a call on a line does to the children of the chat box. -/
def ObjectCall.onBox (box : List ChatLine) : ObjectCall ChatLine → List ChatLine
  | .removeFromParent line => box.erase line
  | .retain _ | .release _ => box

/-! ## The layer -/

/-- The settings that say what is drawn. -/
structure DisplaySettings where
  displayProgress : Bool
  newProgress : Bool
  showSelfProgress : Bool
  rpSettings : RemotePlayerSettings

/-- `isTestMode` is a field of the engine's layer. -/
structure PlayLayer (F : Type) extends ModifiedPlayLayer where
  isTestMode : Bool
  display : DisplaySettings
  players : FiniteMap Int32 (PlayerNode F × PlayerNode F)
  playerProgresses : FiniteMap Int32 PlayerProgress
  ptTimestamp : F
  spectateLastReset : F
  wasSpectating : Bool
  readyForMP : Bool
  hasStartPositions : Bool
  justExited : Bool
  friends : Finset Int32
  selfProgress : Option PlayerProgress
  messageList : CCCappedQueue ChatLine 10
  /-- The children of the chat box, if there is one. -/
  chatBox : Option (List ChatLine)
  chatExpanded : Bool

/-- A cell of the `SpectatePopup`. -/
structure SpectateCell where
  playerId : Int32
  isSpectated : Bool

/-- What only the main thread works on. -/
structure Game (F : Type) where
  layer : Option (PlayLayer F)
  saved : SavedLists
  spectatedPlayer : Int32
  currentLevelId : Int32
  cells : List SpectateCell

/-- No level was opened yet. -/
def Game.new {F : Type} (saved : SavedLists) : Game F := ⟨none, saved, 0, 0, []⟩

/-- A `GJGameLevel`. -/
structure Level where
  levelID : Int32
  isEditor : Bool

/-- What the player does that the engine takes for input. -/
inductive PlayerInput
  | pushButton
  | releaseButton
  | practiceMode
  | normalMode
  | restart
  deriving DecidableEq

/-- What other layers have for the network thread. -/
inductive LayerMessage
  | menuLayerEntry
  | pingServers
  | centralServerChanged (server : CString)
  | requestLevelList

def LayerMessage.toMessage : LayerMessage → NetworkThreadMessage
  | .menuLayerEntry => .menuLayerEntry
  | .pingServers => .pingServers
  | .centralServerChanged server => .centralServerChanged server
  | .requestLevelList => .requestLevelList

/-- What the main thread is asked to do. -/
inductive Callback (F : Type)
  | init (level : Level) (isTestMode : Bool) (settings : GlobedGameSettings)
      (display : DisplaySettings)
  | updateTick (dt : F) (order : IterOrder Int32) (playerX : F)
  | updateStuff (order : IterOrder Int32)
  /-- The data of the two icons, the camera and the level. -/
  | sendPlayerData (data : PlayerData)
  | onQuit
  | onToggleChat
  | onSendMessage (string : CString)
  | getUserListFinished (friends : Finset Int32)
  | chatBlockUser (playerId : Int32) (orders : ListOrders)
  | chatUnblockUser (playerId : Int32) (orders : ListOrders)
  | openPlayerList
  | onSpectate (index : Nat) (seenPopup : Bool)
  | levelComplete
  | destroyPlayer
  | vfDChk
  | input (button : PlayerInput)
  | push (message : LayerMessage)
  | connectToServer (id : CString)
  | disconnect (quiet save : Bool)
  | updateAccountData (accountData : PlayerAccountData)

/-- A call of the engine's own method. -/
inductive EngineCall
  | init
  | onQuit
  | resetLevel
  | levelComplete (isTestMode : Bool)
  | destroyPlayer
  | vfDChk
  | togglePracticeMode
  | input (button : PlayerInput)
  | deathSound

/-! ## Accesses -/

/-- What the threads do to what they share. -/
inductive Access (F : Type)
  | established
  | gameServerTps
  | accountId
  | accountData
  | updateAccountData (accountData : PlayerAccountData)
  | connectToServer (id : CString)
  | disconnect (quiet save : Bool)
  | setTargetDelta (delta : F)
  | joinedLevel
  | copyGonePlayers
  | clearGonePlayers
  | copyNewPlayers
  | clearNewPlayers
  | getPlayerIds
  | interpolate (players : RemotePlayer F × RemotePlayer F) (dt : F) (playerId : Int32)
  /-- What the cache has of a player, under its lock. -/
  | cached (playerId : Int32)
  /-- The whole cache, while it is locked. -/
  | dataCache
  | popAllMessages
  | pushNetMsg (message : NetworkThreadMessage)
  | engine (call : EngineCall)
  /-- A method has returned, and the game is this. -/
  | returned (callback : Callback F) (game : Game F)
  | waitForMessages
  | netMsgQueueEmpty
  | popNetMsg
  | handleMessage (accountId : Int32) (answer : Option (List GameServer))
      (message : NetworkThreadMessage)
  | receive (incoming : Option Datagram)
  | handlePacket (packet : RecvPacket)
  | feedRealData (players : FiniteMap Int32 PlayerData)
  | cacheAccData (playerId : Int32) (data : PlayerAccountData)
  | pushMessage (message : TextMessage)
  | keepaliveRound

/-- What an access answers. -/
abbrev Access.Answer {F : Type} : Access F → Type
  | established | netMsgQueueEmpty => Bool
  | gameServerTps => UInt16
  | accountId => Int32
  | accountData => PlayerAccountData
  | connectToServer _ => Except Failure Bool
  | copyGonePlayers | copyNewPlayers | getPlayerIds => List Int32
  | interpolate _ _ _ => Except Failure (RemotePlayer F × RemotePlayer F)
  | cached _ => Option PlayerAccountData
  | dataCache => FiniteMap Int32 PlayerAccountData
  | popAllMessages => List TextMessage
  | popNetMsg => Option NetworkThreadMessage
  | receive _ => Except Failure RecvPacket
  | disconnect _ _ | handleMessage _ _ _ | handlePacket _ | keepaliveRound => Except Failure Unit
  | updateAccountData _ | setTargetDelta _ | joinedLevel | clearGonePlayers
  | clearNewPlayers | pushNetMsg _ | engine _ | returned _ _ | waitForMessages | feedRealData _
  | cacheAccData _ _ | pushMessage _ => Unit

/-- A task of the client. What is undefined is a panic. -/
abbrev GameTask (F α : Type) := Proc (Access F) Access.Answer Failure α

/-! ## Methods of the layer -/

section Methods

variable {F : Type} [Singles F]

open Floats Decimals Singles

/-- Perform one access. -/
def access (a : Access F) : GameTask F a.Answer := Proc.perform a

def sendMessage (message : NetworkThreadMessage) : GameTask F Unit := access (.pushNetMsg message)

/-- An `if` without an `else`. -/
def onlyIf (condition : Bool) (task : GameTask F Unit) : GameTask F Unit :=
  if condition then task else return

namespace PlayLayer

/-- Both maps are accessed by `at`, which throws if the key is missing. -/
def removePlayer (layer : PlayLayer F) (playerId : Int32) : GameTask F (PlayLayer F) :=
  if layer.players.contains playerId && layer.playerProgresses.contains playerId then
    return { layer with
      players := layer.players.erase playerId
      playerProgresses := layer.playerProgresses.erase playerId }
  else .err .outOfRange

def addPlayer (layer : PlayLayer F) (playerId : Int32) : GameTask F (PlayLayer F) := do
  let icons ← access (.cached playerId)
  let create (isSecond : Bool) : PlayerNode F :=
    .create isSecond layer.display.rpSettings (icons.getD defaultPlayerAccountData)
  return { layer with
    players := layer.players.insertIfNew playerId (create false, create true)
    playerProgresses := layer.playerProgresses.insertIfNew playerId .create }

/-- A player that is shown with default data gets its own, or it is asked for. -/
def refreshPlayer (layer : PlayLayer F) (playerId : Int32) : GameTask F (PlayLayer F) := do
  match layer.players.get playerId with
  | none => return layer
  | some (first, second) =>
    if first.isDefault || second.isDefault then
      match ← access (.cached playerId) with
      | some data =>
        return { layer with
          players := layer.players.insert playerId
            (first.updateData data false, second.updateData data false)
          playerProgresses := layer.playerProgresses.modify playerId fun _ => .updateData data }
      | none =>
        sendMessage (.requestPlayerAccount playerId)
        return layer
    else return layer

def updateStuff (layer : PlayLayer F) (order : IterOrder Int32) : GameTask F (PlayLayer F) := do
  if !layer.readyForMP then return layer
  let gonePlayers ← access .copyGonePlayers
  access .clearGonePlayers
  let layer ← gonePlayers.foldlM (fun layer playerId =>
    if layer.players.contains playerId then layer.removePlayer playerId else pure layer) layer
  let newPlayers ← access .copyNewPlayers
  access .clearNewPlayers
  let layer ← newPlayers.foldlM (fun layer playerId =>
    if !layer.players.contains playerId then layer.addPlayer playerId else pure layer) layer
  (order.list layer.players.keys).foldlM refreshPlayer layer

/-- The part of `updateProgress` that is about whose progress it is. -/
def updateProgress (layer : PlayLayer F) (playerId : Int32) : GameTask F (PlayLayer F) :=
  match layer.playerProgresses.get playerId with
  | none => .err .outOfRange
  | some progress =>
    if progress.isDefault then do
      match ← access (.cached playerId) with
      | some data =>
        return { layer with
          playerProgresses := layer.playerProgresses.insert playerId (.updateData data) }
      | none => return layer
    else return layer

/-- One player in the loop of `updateTick`. -/
def updatePlayer (dt : F) (layer : PlayLayer F) (playerId : Int32) : GameTask F (PlayLayer F) := do
  match layer.players.get playerId with
  | none => return layer
  | some (first, second) =>
    let (first', second') ← Proc.ofExcept
      (← access (.interpolate (first.player, second.player) dt playerId))
    let layer := { layer with
      players := layer.players.insert playerId
        ({ first with player := first' }, { second with player := second' }) }
    if layer.display.displayProgress then layer.updateProgress playerId else return layer

/-- The icons beside a message. The messages that come from the server have the sender -1. -/
def messageIcons (cache : FiniteMap Int32 PlayerAccountData) (message : TextMessage) :
    GameTask F (Option PlayerAccountData) := do
  let accountId ← access .accountId
  if message.sender = accountId then some <$> access .accountData
  else
    match cache.get message.sender with
    | some data => return some data
    | none => return if message.sender = -1 then none else some defaultPlayerAccountData

/-- Without a chat box there is no node to add the line to. -/
def showLine (layer : PlayLayer F) (line : ChatLine) : GameTask F (PlayLayer F) :=
  match layer.chatBox with
  | none => .panic
  | some box =>
    let (calls, messageList) := CCCappedQueue.push (fun _ => true) layer.messageList line
    return { layer with
      messageList, chatBox := some (calls.foldl ObjectCall.onBox (box ++ [line])) }

/-- A message is skipped, or becomes a line of the chat. -/
def addLine (cache : FiniteMap Int32 PlayerAccountData) (layer : PlayLayer F)
    (message : TextMessage) : GameTask F (PlayLayer F) := do
  let accountId ← access .accountId
  if message.sender ≠ -1 ∧ layer.isUserBlocked accountId layer.friends message.sender then
    return layer
  let accData ← messageIcons cache message
  layer.showLine ⟨accData, message⟩

def updateMessages (layer : PlayLayer F) : GameTask F (PlayLayer F) := do
  if !layer.chatExpanded then return layer
  let messages ← access .popAllMessages
  if messages.isEmpty then return layer
  let cache ← access .dataCache
  let layer ← messages.foldlM (addLine cache) layer
  -- the layout of the chat box is updated
  if layer.chatBox.isNone then .panic else return layer

end PlayLayer

namespace Game

/-- The layer is this now. -/
def withLayer (game : Game F) (layer : PlayLayer F) : Game F := { game with layer := some layer }

def leaveSpectate (game : Game F) (layer : PlayLayer F) : GameTask F (Game F) := do
  let layer := { layer with wasSpectating := false, isTestMode := layer.hasStartPositions }
  let display := layer.display
  if display.showSelfProgress && display.displayProgress && display.newProgress &&
      layer.selfProgress.isNone then .panic
  else
    access (.engine .resetLevel)
    return { game with spectatedPlayer := 0, layer := some layer }

/-- The part of `updateTick` for a player that is spectated: the game, and whether the method goes
on. The spectator is reset when the player respawns or goes back. -/
def spectate (game : Game F) (layer : PlayLayer F) (playerX : F)
    (player : PlayerNode F × PlayerNode F) : GameTask F (Game F × Bool) := do
  let layer := { layer with isTestMode := true, wasSpectating := true }
  let first := player.1.player
  let set (layer : PlayLayer F) (first : RemotePlayer F) : PlayLayer F :=
    { layer with
      players := layer.players.insert game.spectatedPlayer
        ({ player.1 with player := first }, player.2) }
  let layer := set layer { first with justDied := false }
  onlyIf first.justDied (access (.engine .deathSound))
  let posNew := first.x
  let maybeRestartedLevel :=
    (lt posNew playerX && lt (ofRat 25) (playerX - posNew)) ||
      (lt posNew (ofRat 50) && lt (ofRat 50) playerX)
  let restartedRecently :=
    le (fabs (layer.ptTimestamp - layer.spectateLastReset)) (ofRat (1 / 10))
  if first.justRespawned || (maybeRestartedLevel && !restartedRecently) then
    let layer := set layer { first with justDied := false, justRespawned := false }
    access (.engine .resetLevel)
    return (game.withLayer { layer with spectateLastReset := layer.ptTimestamp }, false)
  return (game.withLayer layer, !restartedRecently)

/-- The part of `updateTick` about spectating: the game, and whether the method goes on. -/
def updateSpectate (game : Game F) (layer : PlayLayer F) (playerX : F) :
    GameTask F (Game F × Bool) :=
  if game.spectatedPlayer ≠ 0 then
    match layer.players.get game.spectatedPlayer with
    | none => (·, false) <$> game.leaveSpectate layer
    | some player => game.spectate layer playerX player
  else if layer.wasSpectating then (·, true) <$> game.leaveSpectate layer
  else return (game.withLayer layer, true)

def updateTick (game : Game F) (layer : PlayLayer F) (dt : F) (order : IterOrder Int32)
    (playerX : F) : GameTask F (Game F) := do
  let layer := { layer with ptTimestamp := layer.ptTimestamp + dt }
  if !layer.readyForMP then return game.withLayer layer
  let layer ← (order.list layer.players.keys).foldlM (PlayLayer.updatePlayer dt) layer
  let (game, goesOn) ← game.updateSpectate layer playerX
  match game.layer with
  | some layer =>
    if goesOn then game.withLayer <$> layer.updateMessages else return game
  | none => return game

/-- The corrector is told how often data comes. -/
def setTargetDelta : GameTask F Unit := do
  let tps ← access .gameServerTps
  access (.setTargetDelta (1 / ofRat (tps.toNat : Rat)))

/-- The progress of the player itself, if it is shown. -/
def createSelfProgress (display : DisplaySettings) : GameTask F (Option PlayerProgress) :=
  if display.showSelfProgress && display.displayProgress && display.newProgress then
    (fun data => some (.updateData data)) <$> access .accountData
  else return none

/-- A level is opened. Whether the client is in a session is asked three times. -/
def init (env : Env) (game : Game F) (level : Level) (isTestMode : Bool)
    (settings : GlobedGameSettings) (display : DisplaySettings) : GameTask F (Game F) := do
  access (.engine .init)
  let _ ← access .popAllMessages
  let established ← access .established
  onlyIf established setTargetDelta
  let levelID := if env.debug && level.levelID == 0 then 1 else level.levelID
  access .joinedLevel
  let established ← access .established
  let readyForMP := (env.debug || !level.isEditor) && established
  onlyIf readyForMP (sendMessage (.playerLevelEntry levelID))
  let selfProgress ← createSelfProgress display
  let established ← access .established
  let lists := ModifiedPlayLayer.init established settings game.saved
  return { game with
    layer := some { lists with
      isTestMode, display, readyForMP, selfProgress
      hasStartPositions := isTestMode
      players := .empty
      playerProgresses := .empty
      ptTimestamp := 0
      spectateLastReset := 0
      wasSpectating := false
      justExited := false
      friends := ∅
      messageList := .new
      chatBox := if established && settings.chat then some [] else none
      chatExpanded := true }
    currentLevelId := if readyForMP then levelID else game.currentLevelId }

/-- A spectator stops. -/
def stopSpectate (game : Game F) (layer : PlayLayer F) : GameTask F (Game F) :=
  if layer.wasSpectating then game.leaveSpectate layer else return game

def onQuit (game : Game F) (layer : PlayLayer F) : GameTask F (Game F) := do
  let game ← game.stopSpectate layer
  access (.engine .onQuit)
  onlyIf layer.readyForMP (sendMessage .playerLevelExit)
  return { game with
    layer := game.layer.map fun layer => { layer with justExited := true }
    spectatedPlayer := 0
    currentLevelId := 0 }

def sendPlayerData (game : Game F) (layer : PlayLayer F) (data : PlayerData) :
    GameTask F (Game F) := do
  if !layer.readyForMP || layer.justExited then return game
  if game.spectatedPlayer ≠ 0 then
    sendMessage .spectatingNoData
    return game
  sendMessage (.playerData { data with timestamp := bits layer.ptTimestamp })
  return game

/-- The `SpectatePopup` has a cell for each player whose data is cached, and one without a button
for the player itself. Its button is only there in a session. -/
def openPlayerList (game : Game F) (layer : PlayLayer F) : GameTask F (Game F) := do
  if !(← access .established) || !layer.readyForMP then return game
  let players ← access .getPlayerIds
  let cache ← access .dataCache
  let cell (playerId : Int32) : SpectateCell := ⟨playerId, game.spectatedPlayer == playerId⟩
  return { game with cells := ((players.filter (cache.contains ·)) ++ [0]).map cell }

/-- The button of a cell. The first time there is a warning instead. -/
def onSpectate (game : Game F) (index : Nat) (seenPopup : Bool) : GameTask F (Game F) :=
  match game.cells[index]? with
  | none => return game
  | some cell =>
    if cell.playerId = 0 ∨ !seenPopup then return game
    else do
      onlyIf game.layer.isSome (access (.engine .togglePracticeMode))
      return { game with spectatedPlayer := if cell.isSpectated then 0 else cell.playerId }

/-- Block or unblock a user, and save the lists. -/
def click (game : Game F) (layer : PlayLayer F) (click : Click) : Game F :=
  let session := LevelSession.click ⟨layer.toModifiedPlayLayer, game.saved⟩ click
  { game with
    layer := some { layer with toModifiedPlayLayer := session.layer }
    saved := session.saved }

end Game

/-- A method of the layer, if there is one. -/
def Game.onLayer (game : Game F) (method : PlayLayer F → GameTask F (Game F)) :
    GameTask F (Game F) :=
  match game.layer with
  | some layer => method layer
  | none => return game

/-- What the method does, and what the game is after it. -/
def Callback.run (env : Env) (game : Game F) : Callback F → GameTask F (Game F)
  | .init level isTestMode settings display => game.init env level isTestMode settings display
  | .updateTick dt order playerX =>
    game.onLayer fun layer => game.updateTick layer dt order playerX
  | .updateStuff order => game.onLayer fun layer => game.withLayer <$> layer.updateStuff order
  | .sendPlayerData data => game.onLayer fun layer => game.sendPlayerData layer data
  | .onQuit => game.onLayer game.onQuit
  | .onToggleChat => game.onLayer fun layer =>
    if layer.chatBox.isNone then return game
    else return game.withLayer { layer with chatExpanded := !layer.chatExpanded }
  | .onSendMessage string => game.onLayer fun layer => do
    onlyIf (layer.chatBox.isSome && !string.isEmpty) (sendMessage (.sendTextMessage string))
    return game
  | .getUserListFinished friends => game.onLayer fun layer =>
    return game.withLayer { layer with friends := layer.friends ∪ friends }
  | .chatBlockUser playerId orders => game.onLayer fun layer =>
    return game.click layer ⟨.block, playerId, orders⟩
  | .chatUnblockUser playerId orders => game.onLayer fun layer =>
    return game.click layer ⟨.unblock, playerId, orders⟩
  | .openPlayerList => game.onLayer game.openPlayerList
  | .onSpectate index seenPopup => game.onSpectate index seenPopup
  | .levelComplete => game.onLayer fun layer => do
    let isTestMode := layer.wasSpectating || layer.isTestMode
    access (.engine (.levelComplete isTestMode))
    return game.withLayer { layer with isTestMode }
  | .destroyPlayer => game.onLayer fun layer => do
    onlyIf (!layer.wasSpectating) (access (.engine .destroyPlayer))
    return game
  | .vfDChk => game.onLayer fun layer => do
    onlyIf (!layer.wasSpectating) (access (.engine .vfDChk))
    return game
  | .input button => do
    onlyIf (game.spectatedPlayer == 0) (access (.engine (.input button)))
    return game
  | .push message => do
    sendMessage message.toMessage
    return game
  | .connectToServer id => do
    let _ ← Proc.ofExcept (← access (.connectToServer id))
    return game
  | .disconnect quiet save => do
    let _ ← Proc.ofExcept (← access (.disconnect quiet save))
    return game
  | .updateAccountData accountData => do
    access (.updateAccountData accountData)
    return game

end Methods

end Globed.Client
