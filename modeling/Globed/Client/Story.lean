import Globed.Client.Threads

/-!
# The story of the main thread

What the main thread did and heard so far is its `Story`: the game that it left, the texts of the
open level, and the messages for the network thread. `gameContract` says what it may count on, what
it does at each point of its story, and what each method leaves.
-/

namespace Globed.Client

open Concurrent

section Story

variable {F : Type}

/-! ## The story -/

/-- The messages say last that a level was entered. -/
def NetworkThreadMessage.entered (before : Bool) : NetworkThreadMessage → Bool
  | .playerLevelEntry _ => true
  | .playerLevelExit => false
  | .playerData _ | .menuLayerEntry | .pingServers | .centralServerChanged _
  | .requestPlayerAccount _ | .requestLevelList | .spectatingNoData | .sendTextMessage _ => before

def entered (messages : List NetworkThreadMessage) : Bool :=
  messages.foldl NetworkThreadMessage.entered false

@[simp] theorem entered_concat (messages : List NetworkThreadMessage)
    (message : NetworkThreadMessage) :
    entered (messages ++ [message]) = message.entered (entered messages) := by
  simp [entered]

/-- The layer skips the message of a user who is blocked. -/
def PlayLayer.skips (a : Int32) (layer : PlayLayer F) (message : TextMessage) : Bool :=
  decide (message.sender ≠ -1) && layer.isUserBlocked a layer.friends message.sender

def Game.skips (a : Int32) (game : Game F) (message : TextMessage) : Bool :=
  match game.layer with
  | some layer => layer.skips a message
  | none => false

/-- There is a layer without a chat box. -/
def Game.isMute (game : Game F) : Bool :=
  match game.layer with
  | some layer => layer.chatBox.isNone
  | none => false

/-- The callback opens a level. -/
def Callback.opens : Callback F → Bool
  | .init _ _ _ _ => true
  | _ => false

/-- The method does not open a level, and is not one of those that go over all players. -/
def Callback.isPlain : Callback F → Bool
  | .init _ _ _ _ | .updateTick _ _ _ | .updateStuff _ => false
  | _ => true

structure Story (F : Type) where
  /-- The game as the last method left it. -/
  game : Game F
  /-- What was taken from the queue of texts. -/
  heard : List TextMessage
  /-- What of it the open level does not skip. -/
  texts : List TextMessage
  /-- The layer without a chat box has a text. -/
  mute : Bool
  /-- What was put into the queue of the network thread. -/
  said : List NetworkThreadMessage
  /-- The players that the method at work has asked for. -/
  asked : List Int32
  /-- What `connectToServer` threw last. -/
  thrown : Option Failure

namespace Story

def start (saved : SavedLists) : Story F where
  game := .new saved
  heard := []
  texts := []
  mute := false
  said := []
  asked := []
  thrown := none

/-- The players that a message asks for. -/
def asks : NetworkThreadMessage → List Int32
  | .requestPlayerAccount playerId => [playerId]
  | _ => []

/-- The story goes on. -/
def next (a : Int32) (s : Story F) (e : Concurrent.Event (Access.Answer (F := F))) : Story F :=
  match e with
  | ⟨.returned callback game, _⟩ =>
    { s with
      game
      texts := if callback.opens then [] else s.texts
      mute := false
      asked := [] }
  | ⟨.popAllMessages, messages⟩ =>
    { s with
      heard := s.heard ++ messages
      texts := s.texts ++ messages.filter fun message => !s.game.skips a message
      mute := !messages.isEmpty && s.game.isMute }
  | ⟨.pushNetMsg message, _⟩ =>
    { s with said := s.said ++ [message], asked := s.asked ++ asks message }
  | ⟨.connectToServer _, .error e⟩ => { s with thrown := some e }
  | _ => s

end Story

/-! ## Sound layers -/

/-- The icons of a player are what was received for it, or the default ones. -/
def Genuine (given : Int32 → PlayerAccountData → Prop) (playerId : Int32)
    (data : PlayerAccountData) : Prop :=
  data = defaultPlayerAccountData ∨ given playerId data

/-- The players on the level. -/
structure Roster (given : Int32 → PlayerAccountData → Prop)
    (players : FiniteMap Int32 (PlayerNode F × PlayerNode F))
    (progresses : FiniteMap Int32 PlayerProgress) : Prop where
  keys : ∀ id, players.contains id = true → progresses.contains id = true
  icons : ∀ id node, players.get id = some node →
    Genuine given id node.1.data ∧ Genuine given id node.2.data
  progress : ∀ id progress, progresses.get id = some progress → Genuine given id progress.data

/-- The chat box shows the newest of the texts. -/
structure ChatShows (given : Int32 → PlayerAccountData → Prop) (a : Int32)
    (texts : List TextMessage) (messageList : CCCappedQueue ChatLine 10)
    (chatBox : Option (List ChatLine)) : Prop where
  box : ∀ box, chatBox = some box →
    box = messageList.queue ∧ box.map (·.text) = texts.rtake 10
  icons : ∀ line ∈ messageList.queue, ∀ data, line.accData = some data →
    line.text.sender = a ∨ Genuine given line.text.sender data

/-- What holds of a layer between two methods. -/
structure PlayLayer.Sound (given : Int32 → PlayerAccountData → Prop) (a : Int32)
    (texts : List TextMessage) (onLevel : Bool) (layer : PlayLayer F) : Prop where
  roster : Roster given layer.players layer.playerProgresses
  chat : ChatShows given a texts layer.messageList layer.chatBox
  level : layer.readyForMP = true → layer.justExited = false → onLevel = true
  testMode : layer.isTestMode = (layer.wasSpectating || layer.hasStartPositions)
  selfProgress : (layer.display.showSelfProgress && layer.display.displayProgress &&
    layer.display.newProgress) = true → layer.selfProgress.isSome = true

/-! ## The contract -/

namespace Story

/-- The answers that the main thread counts on. -/
def Told (given : Int32 → PlayerAccountData → Prop) (a : Int32) : (x : Access F) → x.Answer → Prop
  | .accountId, accountId => accountId = a
  | .disconnect _ _, answer => answer = .ok ⟨⟩
  | .interpolate _ _ _, answer => ∃ players, answer = .ok players
  | .cached playerId, answer => ∀ data, answer = some data → given playerId data
  | .dataCache, cache => ∀ playerId data, cache.get playerId = some data → given playerId data
  | _, _ => True

/-- Data is sent from a level only, and not by a spectator; a text only if there is a chat. -/
def Sends (s : Story F) : NetworkThreadMessage → Prop
  | .playerData _ => entered s.said = true ∧ s.game.spectatedPlayer = 0
  | .spectatingNoData => entered s.said = true ∧ s.game.spectatedPlayer ≠ 0
  | .sendTextMessage message =>
    message ≠ [] ∧ ∃ layer, s.game.layer = some layer ∧ layer.chatBox.isSome = true
  | .playerLevelEntry _ | .playerLevelExit | .menuLayerEntry | .pingServers
  | .centralServerChanged _ | .requestPlayerAccount _ | .requestLevelList => True

/-- What a spectator does not do to the level. -/
def Drives (s : Story F) : EngineCall → Prop
  | .destroyPlayer | .vfDChk => ∃ layer, s.game.layer = some layer ∧ layer.wasSpectating = false
  | .levelComplete isTestMode => ∃ layer, s.game.layer = some layer ∧
    isTestMode = (layer.wasSpectating || layer.hasStartPositions)
  | .input _ => s.game.spectatedPlayer = 0
  | .init | .onQuit | .resetLevel | .togglePracticeMode | .deathSound => True

/-- What a method leaves. -/
structure Leaves (given : Int32 → PlayerAccountData → Prop) (a : Int32) (s : Story F)
    (callback : Callback F) (game : Game F) : Prop where
  layer : ∀ layer, game.layer = some layer →
    layer.Sound given a (if callback.opens then [] else s.texts) (entered s.said)
  heard : s.mute = true → callback.opens = true
  known : ∀ order, callback = .updateStuff order → ∀ layer, game.layer = some layer →
    layer.readyForMP = true → ∀ id node, layer.players.get id = some node →
      node.1.isDefault = false ∧ node.2.isDefault = false ∨ id ∈ s.asked
  spectates : ∀ dt order playerX, callback = .updateTick dt order playerX →
    ∀ layer, game.layer = some layer → layer.readyForMP = true →
      (layer.wasSpectating = true ↔ game.spectatedPlayer ≠ 0) ∧
        (game.spectatedPlayer ≠ 0 → layer.players.contains game.spectatedPlayer = true)

def Does (given : Int32 → PlayerAccountData → Prop) (a : Int32) (s : Story F) : Access F → Prop
  | .pushNetMsg message => s.Sends message
  | .engine call => s.Drives call
  | .returned callback game => s.Leaves given a callback game
  | access => access.thread = .game

end Story

/-- What the main thread counts on and owes. It fails only if `connectToServer` does, or if a text
has no place. -/
def gameContract (given : Int32 → PlayerAccountData → Prop) (a : Int32) (saved : SavedLists) :
    Contract (Access.Answer (F := F)) Failure (Story F) where
  start := .start saved
  next := Story.next a
  told _ := Story.Told given a
  does := Story.Does given a
  throws s e := s.thrown = some e
  panics s := s.mute = true

end Story

end Globed.Client
