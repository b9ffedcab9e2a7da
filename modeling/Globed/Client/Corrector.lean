import Globed.Client.Data
import Mathlib.Algebra.Order.Field.Rat

/-!
# The corrector

`correction/corrector.cpp`: the last two frames of every player on the level, made smoother where a
frame came late, and the players that joined or left the level since they were last asked for. The
arithmetic of `float` is a parameter (`Floats`).
-/

namespace Globed.Client

/-! ## Frames -/

/-- The arithmetic of `float`. -/
class Floats (F : Type) extends Zero F, One F, Add F, Sub F, Mul F, Div F where
  two : F
  /-- The `epsilon` of `closeEqual`, `0.002f`. -/
  epsilon : F
  fabs : F → F
  lt : F → F → Bool
  lerp : F → F → F → F
  midpoint : F → F → F

/-- Exact arithmetic. -/
instance : Floats Rat where
  two := 2
  epsilon := 1 / 500
  fabs a := |a|
  lt a b := a < b
  lerp a b t := a + t * (b - a)
  midpoint a b := (a + b) / 2

/-- `SpecificIconData` -/
structure IconFrame (F : Type) where
  x : F
  y : F
  rot : F
  gameMode : IconGameMode
  isHidden : Bool
  isDashing : Bool
  isUpsideDown : Bool
  isMini : Bool
  isGrounded : Bool

/-- `PlayerData` -/
structure Frame (F : Type) where
  timestamp : F
  player1 : IconFrame F
  player2 : IconFrame F
  camX : F
  camY : F
  isPractice : Bool
  isDead : Bool
  isPaused : Bool

def SpecificIconData.frame {F : Type} (value : F32 → F) (data : SpecificIconData) :
    IconFrame F where
  x := value data.x
  y := value data.y
  rot := value data.rot
  gameMode := data.gameMode
  isHidden := data.isHidden
  isDashing := data.isDashing
  isUpsideDown := data.isUpsideDown
  isMini := data.isMini
  isGrounded := data.isGrounded

/-- The frame of a packet. -/
def PlayerData.frame {F : Type} (value : F32 → F) (data : PlayerData) : Frame F where
  timestamp := value data.timestamp
  player1 := data.player1.frame value
  player2 := data.player2.frame value
  camX := value data.camX
  camY := value data.camY
  isPractice := data.isPractice
  isDead := data.isDead
  isPaused := data.isPaused

structure PlayerCorrectionData (F : Type) where
  timestamp : F
  realTimestamp : F
  newerFrame : Frame F
  olderFrame : Frame F
  sentPackets : Int
  extrapolatedFrames : Int

structure PlayerCorrector (F : Type) where
  targetUpdateDelay : F
  playerData : FiniteMap Int32 (PlayerCorrectionData F)
  playersGone : List Int32
  playersNew : List Int32

section Corrector

variable {F : Type} [Floats F]

open Floats

def emptyIconData : IconFrame F where
  x := 0
  y := 0
  rot := 0
  gameMode := .cube
  isHidden := true
  isDashing := false
  isUpsideDown := false
  isMini := false
  isGrounded := true

def emptyPlayerData : Frame F where
  timestamp := 0
  player1 := emptyIconData
  player2 := emptyIconData
  camX := 0
  camY := 0
  isPractice := false
  isDead := false
  isPaused := false

def closeEqual (f1 f2 : F) : Bool := lt (fabs (f2 - f1)) epsilon

/-! ## Estimated frames -/

/-- Take the numbers of an icon together by `f`, and the rest from the newer one. -/
def IconFrame.blend (f : F → F → F) (older newer : IconFrame F) : IconFrame F :=
  { newer with x := f older.x newer.x, y := f older.y newer.y, rot := f older.rot newer.rot }

/-- Take the numbers of a frame together by `f`, and the rest from the newer one. -/
def Frame.blend (f : F → F → F) (older newer : Frame F) : Frame F :=
  { newer with
    timestamp := f older.timestamp newer.timestamp
    player1 := older.player1.blend f newer.player1
    player2 := older.player2.blend f newer.player2
    camX := f older.camX newer.camX
    camY := f older.camY newer.camY }

namespace PlayerCorrector

def getMidPoint (older newer : Frame F) : Frame F := older.blend midpoint newer

def getExtrapolatedFrame (c : PlayerCorrector F) (older newer : Frame F) : Frame F :=
  let passedTimeRatio := c.targetUpdateDelay / (newer.timestamp - older.timestamp)
  older.blend (fun a b => lerp a b (1 + passedTimeRatio)) newer

/-- Whether the frame was modified, the frame, and the data with the number of modified frames. -/
def maybeEstimateFrame (c : PlayerCorrector F) (pData : PlayerCorrectionData F) (fresh : Frame F) :
    Bool × Frame F × PlayerCorrectionData F :=
  if pData.extrapolatedFrames > 3 then (false, fresh, pData)
  else
    let delta := fresh.timestamp - pData.newerFrame.timestamp
    let counted := { pData with extrapolatedFrames := pData.extrapolatedFrames + 1 }
    if closeEqual delta c.targetUpdateDelay then (false, fresh, pData)
    else if closeEqual delta 0 then
      (true, c.getExtrapolatedFrame pData.olderFrame pData.newerFrame, counted)
    else if closeEqual delta (c.targetUpdateDelay * two) then
      (true, getMidPoint pData.newerFrame fresh, counted)
    else (false, fresh, pData)

/-! ## Feeding -/

/-- A player that was not there before. -/
def newPlayer (data : Frame F) : PlayerCorrectionData F where
  timestamp := data.timestamp
  realTimestamp := data.timestamp
  newerFrame := data
  olderFrame := emptyPlayerData
  sentPackets := 0
  extrapolatedFrames := 0

/-- The next frame of a player that was there before. -/
def updatePlayer (c : PlayerCorrector F) (pData : PlayerCorrectionData F) (data : Frame F) :
    PlayerCorrectionData F :=
  let (wasExtrapolated, final, pData) := c.maybeEstimateFrame pData data
  { pData with
    olderFrame := pData.newerFrame
    sentPackets := pData.sentPackets + 1
    timestamp := pData.newerFrame.timestamp
    newerFrame := final
    extrapolatedFrames := if wasExtrapolated then pData.extrapolatedFrames else 0 }

/-- One iteration of the first loop of `feedRealData`. -/
def feedPlayer (c : PlayerCorrector F) (playerId : Int32) (data : Frame F) : PlayerCorrector F :=
  match c.playerData.get playerId with
  | none =>
    { c with
      playersNew := c.playersNew ++ [playerId]
      playerData := c.playerData.insert playerId (newPlayer data) }
  | some pData =>
    { c with playerData := c.playerData.insert playerId (c.updatePlayer pData data) }

/-- The players of a level, visited in the order `o`; then `o'` is the order of `playerData`. -/
def feedRealData (c : PlayerCorrector F) (o o' : IterOrder Int32)
    (data : FiniteMap Int32 (Frame F)) : PlayerCorrector F :=
  let c := (data.entries o).foldl (fun c (playerId, data) => c.feedPlayer playerId data) c
  let toRemove := (o'.list c.playerData.keys).filter fun playerId => !data.contains playerId
  { c with
    playersGone := c.playersGone ++ toRemove
    playerData := toRemove.foldl .erase c.playerData }

def joinedLevel (c : PlayerCorrector F) : PlayerCorrector F :=
  { c with playerData := .empty, playersGone := [], playersNew := [] }

def getNewPlayers (c : PlayerCorrector F) : List Int32 × PlayerCorrector F :=
  (c.playersNew, { c with playersNew := [] })

def getGonePlayers (c : PlayerCorrector F) : List Int32 × PlayerCorrector F :=
  (c.playersGone, { c with playersGone := [] })

/-! ## The players of the corrector -/

variable {c : PlayerCorrector F}

theorem keys_feedPlayer (playerId : Int32) (data : Frame F) :
    (c.feedPlayer playerId data).playerData.keys = insert playerId c.playerData.keys := by
  unfold feedPlayer
  split <;> rfl

theorem playersGone_feedPlayer (playerId : Int32) (data : Frame F) :
    (c.feedPlayer playerId data).playersGone = c.playersGone := by
  unfold feedPlayer
  split <;> rfl

/-- A player is new if it was not there. -/
theorem mem_playersNew_feedPlayer {playerId id : Int32} (data : Frame F) :
    id ∈ (c.feedPlayer playerId data).playersNew ↔
      id ∈ c.playersNew ∨ id = playerId ∧ id ∉ c.playerData.keys := by
  unfold feedPlayer
  split
  · rename_i hnone
    rw [List.mem_append, List.mem_singleton, c.playerData.mem_keys]
    refine or_congr_right (iff_self_and.mpr ?_)
    rintro rfl
    simp [hnone]
  · rename_i pData hsome
    refine (or_iff_left ?_).symm
    rintro ⟨rfl, hnot⟩
    exact hnot ((c.playerData.mem_keys id).mpr (by simp [hsome]))

/-- The first loop of `feedRealData`. -/
theorem feedPlayers (players : List (Int32 × Frame F)) (c : PlayerCorrector F) :
    let c' := players.foldl (fun c (playerId, data) => c.feedPlayer playerId data) c
    (∀ id, id ∈ c'.playerData.keys ↔ id ∈ players.map Prod.fst ∨ id ∈ c.playerData.keys) ∧
      (∀ id, id ∈ c'.playersNew ↔
        id ∈ c.playersNew ∨ id ∈ players.map Prod.fst ∧ id ∉ c.playerData.keys) ∧
      c'.playersGone = c.playersGone := by
  induction players generalizing c with
  | nil => simp
  | cons player players ih =>
    obtain ⟨hkeys, hnew, hgone⟩ := ih (c.feedPlayer player.1 player.2)
    refine ⟨fun id => ?_, fun id => ?_, hgone.trans (playersGone_feedPlayer _ _)⟩
    · rw [List.foldl_cons, hkeys, keys_feedPlayer, Finset.mem_insert, List.map_cons, List.mem_cons,
        or_left_comm, or_assoc]
    · rw [List.foldl_cons, hnew, keys_feedPlayer, mem_playersNew_feedPlayer, Finset.mem_insert,
        List.map_cons, List.mem_cons]
      by_cases hid : id = player.1
      · simp [hid]
      · simp [hid]

theorem mem_keys_foldl_erase {V : Type} (ids : List Int32) (m : FiniteMap Int32 V) (id : Int32) :
    id ∈ (ids.foldl .erase m).keys ↔ id ∈ m.keys ∧ id ∉ ids := by
  induction ids generalizing m with
  | nil => simp
  | cons playerId ids ih =>
    rw [List.foldl_cons, ih, List.mem_cons, not_or, ← and_assoc]
    exact and_congr_left' ((Finset.mem_erase).trans and_comm)

/-- The data of which players is there, which are new and which are gone after they were fed. -/
theorem mem_feedRealData (c : PlayerCorrector F) (o o' : IterOrder Int32)
    (data : FiniteMap Int32 (Frame F)) :
    (c.feedRealData o o' data).playerData.keys = data.keys ∧
      (∀ id, id ∈ (c.feedRealData o o' data).playersNew ↔
        id ∈ c.playersNew ∨ id ∈ data.keys ∧ id ∉ c.playerData.keys) ∧
      ∀ id, id ∈ (c.feedRealData o o' data).playersGone ↔
        id ∈ c.playersGone ∨ id ∈ c.playerData.keys ∧ id ∉ data.keys := by
  obtain ⟨hkeys, hnew, hgone⟩ := feedPlayers (data.entries o) c
  simp only [FiniteMap.map_fst_entries, o.mem] at hkeys hnew
  have hcontains : ∀ id, (!data.contains id) = true ↔ id ∉ data.keys := by
    intro id
    simp [FiniteMap.contains, data.mem_keys]
  refine ⟨?_, hnew, fun id => ?_⟩
  · ext id
    unfold feedRealData
    dsimp only
    rw [mem_keys_foldl_erase, List.mem_filter, o'.mem, hkeys, hcontains]
    tauto
  · unfold feedRealData
    dsimp only
    rw [List.mem_append, List.mem_filter, o'.mem, hkeys, hcontains, hgone]
    tauto

end PlayerCorrector

end Corrector

end Globed.Client
