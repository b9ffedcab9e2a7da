import Globed.Client.Estimation
import Mathlib.Order.Interval.Set.UnorderedInterval

/-!
# Interpolated positions

`interpolate` of `correction/corrector.cpp` draws a player between its two buffered frames, at a
clock that the renderer advances and every frame sets back. With frames in time the clock stays
between the two frames from the second one on. Beside the first one is an artificial frame at
time 0, so only a first frame at the start of a level is drawn in its place
(`interpolatesBetween_iff`).
-/

namespace Globed.Client

/-- The constants that are written as decimals. -/
class Decimals (F : Type) extends Floats F where
  ofRat : Rat → F

instance : Decimals Rat where
  ofRat := id

/-! ## Remote players -/

/-- The settings that `tick` reads. -/
structure RemotePlayerSettings where
  practiceIcon : Bool
  deathEffects : Bool

/-- The nodes of a player: where they are, how they look, and what the last tick was told. -/
structure RemotePlayer (F : Type) where
  isSecond : Bool
  settings : RemotePlayerSettings
  visible : Bool
  scaleX : F
  scaleY : F
  x : F
  y : F
  rotation : F
  camX : F
  camY : F
  haltedMovement : Bool
  justRespawned : Bool
  justDied : Bool
  firstTick : Bool
  lastMode : IconGameMode
  wasPractice : Bool
  wasPaused : Bool
  wasGrounded : Bool
  wasDead : Bool

namespace RemotePlayer

variable {F : Type}

def setScale (player : RemotePlayer F) (scale : F) : RemotePlayer F :=
  { player with scaleX := scale, scaleY := scale }

def setActiveIcon (player : RemotePlayer F) (mode : IconGameMode) :
    Except Failure (RemotePlayer F) :=
  if mode = .none then
    .error (.invalidArgument "Did you really try to set active mode to IconGameMode::NONE?")
  else .ok { player with lastMode := mode }

/-- Which icon is shown is `lastMode`; the icons beside the name, the animations and the death
effect are drawn by what is stored here. -/
def tick (player : RemotePlayer F) (data : IconFrame F) (practice dead paused : Bool) :
    Except Failure (RemotePlayer F) := do
  let player ← if data.gameMode ≠ player.lastMode then player.setActiveIcon data.gameMode
    else .ok player
  let icons := player.settings.practiceIcon
  let grounded := data.isGrounded
  let died := dead != player.wasDead && dead && player.settings.deathEffects && !player.isSecond
  return { player with
    wasPractice :=
      if icons && (practice != player.wasPractice || player.firstTick) then practice
      else player.wasPractice
    wasPaused :=
      if icons && (paused != player.wasPaused || player.firstTick) then paused
      else player.wasPaused
    wasGrounded :=
      if grounded != player.wasGrounded || player.firstTick then grounded else player.wasGrounded
    wasDead := dead
    justDied := player.justDied || died
    justRespawned := player.justRespawned || dead != player.wasDead && !dead
    firstTick := false }

end RemotePlayer

/-! ## Interpolation -/

/-- The data of one of the two icons. -/
def Frame.icon {F : Type} (frame : Frame F) (isSecond : Bool) : IconFrame F :=
  if isSecond then frame.player2 else frame.player1

namespace PlayerCorrector

section Interpolation

variable {F : Type} [Decimals F]

open Floats Decimals

/-- How far the clock is from the older frame, in delays. -/
def timeDeltaRatio (c : PlayerCorrector F) (data : PlayerCorrectionData F) : F :=
  (data.timestamp - data.olderFrame.timestamp) / c.targetUpdateDelay

/-- The first part of `interpolateSpecific`: whether the icon is seen, and its size. -/
def display (player : RemotePlayer F) (data : PlayerCorrectionData F) (isSecond : Bool) :
    RemotePlayer F :=
  let newerData := data.newerFrame.icon isSecond
  if !newerData.isHidden then
    let scale := if newerData.isMini then ofRat (6 / 10) else 1
    let player := { player with visible := !data.newerFrame.isDead }.setScale scale
    if newerData.gameMode ≠ .cube then
      { player with scaleY := scale * (if newerData.isUpsideDown then ofRat (-1) else 1) }
    else player
  else { player with visible := false }

/-- The last part of `interpolateSpecific`: where the icon is. -/
def move (c : PlayerCorrector F) (player : RemotePlayer F) (data : PlayerCorrectionData F)
    (frameDelta : F) (isSecond : Bool) : RemotePlayer F :=
  let olderData := data.olderFrame.icon isSecond
  let newerData := data.newerFrame.icon isSecond
  let gamemode := newerData.gameMode
  let wholeTimeDelta := c.targetUpdateDelay
  let targetDelayIncrement := frameDelta / c.targetUpdateDelay
  let timeDeltaRatio := c.timeDeltaRatio data
  let dashDelta := ofRat 900 * wholeTimeDelta
  { player with
    haltedMovement := false
    x := lerp olderData.x newerData.x timeDeltaRatio
    y :=
      if gamemode = .spider ∧ newerData.isGrounded then olderData.y
      else lerp olderData.y newerData.y timeDeltaRatio
    camX :=
      if !isSecond then lerp data.olderFrame.camX data.newerFrame.camX timeDeltaRatio
      else player.camX
    camY :=
      if !isSecond then lerp data.olderFrame.camY data.newerFrame.camY timeDeltaRatio
      else player.camY
    rotation :=
      if newerData.isDashing ∧ (gamemode = .cube ∨ gamemode = .ball) then
        player.rotation + (if newerData.isUpsideDown then dashDelta * ofRat (-1) else dashDelta) *
          targetDelayIncrement
      else if lt (fabs (newerData.rot - olderData.rot)) (ofRat 360) then
        lerp olderData.rot newerData.rot timeDeltaRatio
      else newerData.rot }

def interpolateSpecific (c : PlayerCorrector F) (player : RemotePlayer F) (frameDelta : F)
    (playerId : Int32) (isSecond : Bool) : Except Failure (RemotePlayer F) := do
  let some data := c.playerData.get playerId | throw .outOfRange
  let wasFirstTick := player.firstTick
  let player ← (display player data isSecond).tick (data.newerFrame.icon isSecond)
    data.newerFrame.isPractice data.newerFrame.isDead data.newerFrame.isPaused
  if (data.newerFrame.isDead || data.newerFrame.isPaused) && !wasFirstTick then
    return { player with haltedMovement := true }
  return c.move player data frameDelta isSecond

/-- Both icons are drawn at the same clock, which is advanced then. -/
def interpolate (c : PlayerCorrector F) (player : RemotePlayer F × RemotePlayer F) (frameDelta : F)
    (playerId : Int32) : Except Failure ((RemotePlayer F × RemotePlayer F) × PlayerCorrector F) :=
  if c.playerData.contains playerId then do
    let first ← c.interpolateSpecific player.1 frameDelta playerId false
    let second ← c.interpolateSpecific player.2 frameDelta playerId true
    return ((first, second), { c with
      playerData := c.playerData.modify playerId fun data =>
        { data with timestamp := data.timestamp + frameDelta } })
  else return (player, c)

/-! ## One call -/

variable {c : PlayerCorrector F} {player player' : RemotePlayer F} {frameDelta : F} {id : Int32}
  {isSecond : Bool} {data : PlayerCorrectionData F}

/-- The mode of the player's icon can be shown. -/
def Showable (player : RemotePlayer F) (data : PlayerCorrectionData F) (isSecond : Bool) : Prop :=
  (data.newerFrame.icon isSecond).gameMode = .none → player.lastMode = .none

/-- The mode of the player's icon can be shown, and it is playing, or is drawn for the first
time. -/
def Moves (player : RemotePlayer F) (data : PlayerCorrectionData F) (isSecond : Bool) : Prop :=
  Showable player data isSecond ∧
    (data.newerFrame.isDead = true ∨ data.newerFrame.isPaused = true → player.firstTick = true)

omit [Decimals F] in
/-- A tick fails exactly if it has to switch to no icon. -/
theorem tick_ok_iff {icon : IconFrame F} {practice dead paused : Bool} :
    (∃ player', player.tick icon practice dead paused = .ok player') ↔
      (icon.gameMode = .none → player.lastMode = .none) := by
  unfold RemotePlayer.tick RemotePlayer.setActiveIcon
  by_cases hmode : icon.gameMode = player.lastMode
  · rw [if_neg (not_not.mpr hmode)]
    exact ⟨fun _ hnone => hmode.symm.trans hnone, fun _ => ⟨_, rfl⟩⟩
  · rw [if_pos hmode]
    by_cases hnone : icon.gameMode = .none
    · rw [if_pos hnone]
      constructor
      · rintro ⟨_, hok⟩
        cases hok
      · intro h
        exact absurd (hnone.trans (h hnone).symm) hmode
    · rw [if_neg hnone]
      exact ⟨fun _ h => absurd h hnone, fun _ => ⟨_, rfl⟩⟩

theorem lastMode_display : (display player data isSecond).lastMode = player.lastMode := by
  unfold display
  dsimp only
  split_ifs <;> rfl

theorem tick_display_ok_iff :
    (∃ ticked, (display player data isSecond).tick (data.newerFrame.icon isSecond)
      data.newerFrame.isPractice data.newerFrame.isDead data.newerFrame.isPaused = .ok ticked) ↔
      Showable player data isSecond := by
  rw [tick_ok_iff, lastMode_display, Showable]

/-- A call throws exactly if the mode cannot be shown. -/
theorem interpolateSpecific_ok_iff (hget : c.playerData.get id = some data) :
    (∃ player', c.interpolateSpecific player frameDelta id isSecond = .ok player') ↔
      Showable player data isSecond := by
  rw [← tick_display_ok_iff]
  unfold interpolateSpecific
  simp only [hget]
  cases hticked : (display player data isSecond).tick (data.newerFrame.icon isSecond)
      data.newerFrame.isPractice data.newerFrame.isDead data.newerFrame.isPaused with
  | error e =>
    refine iff_of_false ?_ ?_
    · rintro ⟨_, hok⟩
      cases hok
    · rintro ⟨_, hok⟩
      cases hok
  | ok ticked =>
    refine iff_of_true ?_ ⟨ticked, rfl⟩
    cases hhalts : (data.newerFrame.isDead || data.newerFrame.isPaused) && !player.firstTick with
    | true => exact ⟨_, rfl⟩
    | false => exact ⟨_, rfl⟩

/-- A call for a player that moves sets its position. -/
theorem interpolateSpecific_of_moves (frameDelta : F) (hget : c.playerData.get id = some data)
    (hmoves : Moves player data isSecond) :
    ∃ ticked, c.interpolateSpecific player frameDelta id isSecond =
      .ok (c.move ticked data frameDelta isSecond) := by
  obtain ⟨ticked, hticked⟩ := tick_display_ok_iff.mpr hmoves.1
  have hplays : ((data.newerFrame.isDead || data.newerFrame.isPaused) && !player.firstTick) =
      false := by
    have h := hmoves.2
    grind
  refine ⟨ticked, ?_⟩
  unfold interpolateSpecific
  simp only [hget, hticked, hplays]
  rfl

/-- A call for another player does not. -/
theorem interpolateSpecific_of_not_moves (hget : c.playerData.get id = some data)
    (hmoves : ¬Moves player data isSecond)
    (hok : c.interpolateSpecific player frameDelta id isSecond = .ok player') :
    player'.haltedMovement = true := by
  unfold interpolateSpecific at hok
  simp only [hget] at hok
  cases hticked : (display player data isSecond).tick (data.newerFrame.icon isSecond)
      data.newerFrame.isPractice data.newerFrame.isDead data.newerFrame.isPaused with
  | error e =>
    rw [hticked] at hok
    cases hok
  | ok ticked =>
    have hmode := tick_display_ok_iff.mp ⟨ticked, hticked⟩
    have hhalts : ((data.newerFrame.isDead || data.newerFrame.isPaused) && !player.firstTick) =
        true := by
      by_contra hplays
      refine hmoves ⟨hmode, ?_⟩
      grind
    rw [hticked, hhalts] at hok
    cases hok
    rfl

/-! ## Runs -/

/-- The network thread feeds the players of the level, or the renderer draws one of them. -/
inductive Event (F : Type)
  | feed (call : Feed F)
  | interpolate (player : RemotePlayer F × RemotePlayer F) (frameDelta : F) (playerId : Int32)

/-- An exception leaves the corrector as it was. -/
def step (c : PlayerCorrector F) : Event F → PlayerCorrector F
  | .feed call => c.feed call
  | .interpolate player frameDelta playerId =>
    match c.interpolate player frameDelta playerId with
    | .ok (_, c') => c'
    | .error _ => c

/-- Drawing a player advances its clock at most. -/
theorem step_interpolate (c : PlayerCorrector F) (players : RemotePlayer F × RemotePlayer F)
    (frameDelta : F) (playerId : Int32) :
    c.step (.interpolate players frameDelta playerId) = c ∨
      c.step (.interpolate players frameDelta playerId) =
        { c with
          playerData := c.playerData.modify playerId fun data =>
            { data with timestamp := data.timestamp + frameDelta } } := by
  unfold step interpolate
  by_cases hcontains : c.playerData.contains playerId = true
  · cases hfirst : c.interpolateSpecific players.1 frameDelta playerId false with
    | error e =>
      left
      simp only [hcontains, hfirst]
      rfl
    | ok first =>
      cases hsecond : c.interpolateSpecific players.2 frameDelta playerId true with
      | error e =>
        left
        simp only [hcontains, hfirst, hsecond]
        rfl
      | ok second =>
        right
        simp only [hcontains, hfirst, hsecond]
        rfl
  · left
    simp only [if_neg hcontains]
    rfl

theorem targetUpdateDelay_step (c : PlayerCorrector F) (event : Event F) :
    (c.step event).targetUpdateDelay = c.targetUpdateDelay := by
  cases event with
  | feed call => exact targetUpdateDelay_feed c call
  | interpolate players frameDelta playerId =>
    rcases step_interpolate c players frameDelta playerId with h | h <;> rw [h]

theorem get_step_interpolate {players : RemotePlayer F × RemotePlayer F} {playerId : Int32}
    {data' : PlayerCorrectionData F}
    (hget : (c.step (.interpolate players frameDelta playerId)).playerData.get id = some data') :
    ∃ data, c.playerData.get id = some data ∧
      (data' = data ∨
        playerId = id ∧ data' = { data with timestamp := data.timestamp + frameDelta }) := by
  rcases step_interpolate c players frameDelta playerId with h | h
  · rw [h] at hget
    exact ⟨data', hget, .inl rfl⟩
  · rw [h, FiniteMap.get_modify] at hget
    by_cases hid : id = playerId
    · rw [if_pos hid, Option.map_eq_some_iff] at hget
      obtain ⟨data, hdata, rfl⟩ := hget
      exact ⟨data, hdata, .inr ⟨hid.symm, rfl⟩⟩
    · rw [if_neg hid] at hget
      exact ⟨data', hget, .inl rfl⟩

end Interpolation

section Exact

open Floats Sessions

variable {c : PlayerCorrector Rat} {player player' : RemotePlayer Rat} {frameDelta : Rat}
  {id : Int32} {isSecond : Bool} {data : PlayerCorrectionData Rat}

/-! ## Between the frames -/

theorem lerp_mem_uIcc {a b t : Rat} (h₀ : 0 ≤ t) (h₁ : t ≤ 1) : lerp a b t ∈ Set.uIcc a b := by
  change a + t * (b - a) ∈ Set.uIcc a b
  rw [Set.mem_uIcc]
  rcases le_total a b with hab | hab
  · have hlow := mul_nonneg h₀ (sub_nonneg.mpr hab)
    have hhigh := mul_le_of_le_one_left (sub_nonneg.mpr hab) h₁
    exact .inl ⟨by linarith, by linarith⟩
  · have hlow := mul_nonneg h₀ (sub_nonneg.mpr hab)
    have hhigh := mul_le_of_le_one_left (sub_nonneg.mpr hab) h₁
    exact .inr ⟨by linarith, by linarith⟩

/-- If the call sets a position, the ratio is in range, and what is shown is between the frames. -/
def Between (id : Int32) (c : PlayerCorrector Rat) (player : RemotePlayer Rat) (frameDelta : Rat)
    (isSecond : Bool) : Prop :=
  ∀ data player', c.playerData.get id = some data →
    c.interpolateSpecific player frameDelta id isSecond = .ok player' →
    player'.haltedMovement = false →
    (0 ≤ c.timeDeltaRatio data ∧ c.timeDeltaRatio data ≤ 1) ∧
      player'.x ∈ Set.uIcc (data.olderFrame.icon isSecond).x (data.newerFrame.icon isSecond).x ∧
      (isSecond = false →
        player'.camX ∈ Set.uIcc data.olderFrame.camX data.newerFrame.camX ∧
        player'.camY ∈ Set.uIcc data.olderFrame.camY data.newerFrame.camY)

theorem between_iff (hget : c.playerData.get id = some data) :
    Between id c player frameDelta isSecond ↔
      (Moves player data isSecond → 0 ≤ c.timeDeltaRatio data ∧ c.timeDeltaRatio data ≤ 1) := by
  constructor
  · intro h hmoves
    obtain ⟨ticked, hok⟩ := interpolateSpecific_of_moves frameDelta hget hmoves
    exact (h data _ hget hok rfl).1
  · intro h data' player' hget' hok hset
    obtain rfl : data = data' := Option.some.inj (hget.symm.trans hget')
    by_cases hmoves : Moves player data isSecond
    · obtain ⟨hlow, hhigh⟩ := h hmoves
      obtain ⟨ticked, hok'⟩ := interpolateSpecific_of_moves frameDelta hget hmoves
      obtain rfl := Except.ok.inj (hok'.symm.trans hok)
      refine ⟨⟨hlow, hhigh⟩, lerp_mem_uIcc hlow hhigh, ?_⟩
      rintro rfl
      exact ⟨lerp_mem_uIcc hlow hhigh, lerp_mem_uIcc hlow hhigh⟩
    · rw [interpolateSpecific_of_not_moves hget hmoves hok] at hset
      cases hset

/-- The icons of the player that are drawn, the second of them only if the first one could be, are
drawn between the frames. -/
def InterpolatesBetween (id : Int32) (c : PlayerCorrector Rat) : Event Rat → Prop
  | .feed _ => True
  | .interpolate player frameDelta playerId => playerId = id →
    Between id c player.1 frameDelta false ∧
      ((∃ first, c.interpolateSpecific player.1 frameDelta id false = .ok first) →
        Between id c player.2 frameDelta true)

/-- While a player has one frame only, its clock is within one delay of the start of the level
whenever it is drawn. -/
def FirstInRange (id : Int32) (c : PlayerCorrector Rat) : Event Rat → Prop
  | .feed _ => True
  | .interpolate player _ playerId => playerId = id →
    ∀ data, c.playerData.get id = some data → data.sentPackets = 0 →
      Moves player.1 data false ∨ Showable player.1 data false ∧ Moves player.2 data true →
      0 ≤ data.timestamp ∧ data.timestamp ≤ c.targetUpdateDelay

/-! ## Frames in time -/

/-- The timestamp of a player's last frame, and the frame deltas since it was fed. -/
structure Pace where
  timestamp : Rat
  elapsed : Rat

namespace Pace

def after (id : Int32) (pace : Option Pace) : Event Rat → Option Pace
  | .feed call => (call.data.get id).map fun frame => ⟨frame.timestamp, 0⟩
  | .interpolate _ frameDelta playerId =>
    if playerId = id then pace.map fun p => { p with elapsed := p.elapsed + frameDelta } else pace

/-- A frame comes one delay after the one before it, and no more than one delay passes in
between. -/
def InTime (id : Int32) (delay : Rat) (pace : Option Pace) : Event Rat → Prop
  | .feed call => ∀ p frame, pace = some p → call.data.get id = some frame →
    frame.timestamp = p.timestamp + delay
  | .interpolate _ frameDelta playerId => playerId = id → ∀ p, pace = some p →
    0 ≤ frameDelta ∧ p.elapsed + frameDelta ≤ delay

end Pace

/-- The buffered frames of a player that keeps pace: the artificial one and its first, or two that
are one delay apart, with the clock in between. -/
structure Buffered (data : PlayerCorrectionData Rat) (p : Pace) (delay : Rat) : Prop where
  newer : data.newerFrame.timestamp = p.timestamp
  packets : 0 ≤ data.sentPackets
  elapsed : p.elapsed ≤ delay
  first : data.sentPackets = 0 → data.olderFrame.timestamp = 0
  clock : data.sentPackets ≠ 0 → data.olderFrame.timestamp ≤ data.timestamp ∧
    data.timestamp - data.olderFrame.timestamp ≤ p.elapsed

/-- Every player that is there keeps pace. -/
structure InPace (id : Int32) (delay : Rat) (c : PlayerCorrector Rat) (pace : Option Pace) :
    Prop where
  delay_eq : c.targetUpdateDelay = delay
  buffered : ∀ data, c.playerData.get id = some data →
    ∃ p, pace = some p ∧ Buffered data p delay

/-- A frame in time is stored as it is. -/
theorem estimate_in_time {fresh : Frame Rat}
    (h : fresh.timestamp = data.newerFrame.timestamp + c.targetUpdateDelay) :
    c.estimate data fresh = .fresh := by
  have hdelta : fresh.timestamp - data.newerFrame.timestamp = c.targetUpdateDelay := by
    rw [h, add_sub_cancel_left]
  have hin : closeEqual c.targetUpdateDelay c.targetUpdateDelay = true := by
    rw [closeEqual_iff, sub_self, abs_zero]
    norm_num
  simp [estimate, hdelta, hin]

theorem InPace.feed {delay : Rat} {pace : Option Pace} {call : Feed Rat} (hdelay : 0 < delay)
    (h : InPace id delay c pace) (hin : Pace.InTime id delay pace (.feed call)) :
    InPace id delay (c.feed call) (Pace.after id pace (.feed call)) := by
  refine ⟨(targetUpdateDelay_feed c call).trans h.delay_eq, fun data hget => ?_⟩
  obtain ⟨frame, hframe, ⟨-, rfl⟩ | ⟨before, hbefore, rfl⟩⟩ := get_feed_eq_some hget
  · refine ⟨⟨frame.timestamp, 0⟩, by rw [Pace.after, hframe]; rfl, ?_⟩
    exact ⟨rfl, le_refl _, hdelay.le, fun _ => rfl, fun hne => absurd rfl hne⟩
  · obtain ⟨p, rfl, hp⟩ := h.buffered before hbefore
    have hlater : frame.timestamp = before.newerFrame.timestamp + c.targetUpdateDelay := by
      rw [hp.newer, h.delay_eq]
      exact hin p frame rfl hframe
    have hstored := (updatePlayer_of_fresh (estimate_in_time hlater)).1
    refine ⟨⟨frame.timestamp, 0⟩, by rw [Pace.after, hframe]; rfl, ?_⟩
    have hpackets : (c.updatePlayer before frame).sentPackets = before.sentPackets + 1 := by
      rw [updatePlayer_eq]
    have hclock : (c.updatePlayer before frame).timestamp =
        (c.updatePlayer before frame).olderFrame.timestamp := by
      rw [updatePlayer_eq]
    have hlow := hp.packets
    refine ⟨by rw [hstored], by omega, hdelay.le, fun hzero => by omega, fun _ => ?_⟩
    rw [hclock]
    exact ⟨le_refl _, (sub_self _).le⟩

theorem InPace.interpolate {delay : Rat} {pace : Option Pace}
    {players : RemotePlayer Rat × RemotePlayer Rat} {playerId : Int32}
    (h : InPace id delay c pace)
    (hin : Pace.InTime id delay pace (.interpolate players frameDelta playerId)) :
    InPace id delay (c.step (.interpolate players frameDelta playerId))
      (Pace.after id pace (.interpolate players frameDelta playerId)) := by
  refine ⟨(targetUpdateDelay_step c _).trans h.delay_eq, fun data' hget => ?_⟩
  obtain ⟨data, hdata, hcases⟩ := get_step_interpolate hget
  obtain ⟨p, rfl, hp⟩ := h.buffered data hdata
  by_cases hid : playerId = id
  · obtain ⟨hnonneg, hsum⟩ := hin hid p rfl
    refine ⟨{ p with elapsed := p.elapsed + frameDelta }, by rw [Pace.after, if_pos hid]; rfl, ?_⟩
    rcases hcases with rfl | ⟨-, rfl⟩
    · refine ⟨hp.newer, hp.packets, hsum, hp.first, fun hne => ?_⟩
      obtain ⟨hlow, hhigh⟩ := hp.clock hne
      exact ⟨hlow, by dsimp only; linarith⟩
    · refine ⟨hp.newer, hp.packets, hsum, hp.first, fun hne => ?_⟩
      obtain ⟨hlow, hhigh⟩ := hp.clock hne
      dsimp only at hlow hhigh ⊢
      exact ⟨by linarith, by linarith⟩
  · rcases hcases with rfl | ⟨hid', -⟩
    · exact ⟨p, by rw [Pace.after, if_neg hid], hp⟩
    · exact absurd hid' hid

/-- The step lemma of the positions: with two real frames the clock is in range anyway. -/
theorem interpolatesBetween_iff_first {delay : Rat} {pace : Option Pace} {event : Event Rat}
    (hdelay : 0 < delay) (h : InPace id delay c pace) :
    InterpolatesBetween id c event ↔ FirstInRange id c event := by
  cases event with
  | feed call => exact Iff.rfl
  | interpolate player frameDelta playerId =>
    refine forall_congr' fun _ => ?_
    cases hget : c.playerData.get id with
    | none => simp [Between, hget]
    | some data =>
      obtain ⟨p, -, hp⟩ := h.buffered data hget
      have hpos : 0 < c.targetUpdateDelay := h.delay_eq ▸ hdelay
      have hratio : 0 ≤ c.timeDeltaRatio data ∧ c.timeDeltaRatio data ≤ 1 ↔
          (data.sentPackets = 0 →
            0 ≤ data.timestamp ∧ data.timestamp ≤ c.targetUpdateDelay) := by
        unfold timeDeltaRatio
        rw [le_div_iff₀ hpos, div_le_one₀ hpos, zero_mul, sub_nonneg]
        by_cases hfirst : data.sentPackets = 0
        · simp [hp.first hfirst, hfirst]
        · obtain ⟨hlow, hhigh⟩ := hp.clock hfirst
          have helapsed := hp.elapsed
          have hsmall : data.timestamp - data.olderFrame.timestamp ≤ c.targetUpdateDelay := by
            rw [h.delay_eq]
            linarith
          simp [hfirst, hlow, hsmall]
      rw [between_iff hget, between_iff hget, interpolateSpecific_ok_iff hget, hratio]
      constructor
      · rintro ⟨h₁, h₂⟩ data' hdata hfirst (hmoves | ⟨hshown, hmoves⟩)
        all_goals obtain rfl := Option.some.inj hdata
        · exact h₁ hmoves hfirst
        · exact h₂ hshown hmoves hfirst
      · intro hall
        exact ⟨fun hmoves hfirst => hall data rfl hfirst (.inl hmoves),
          fun hshown hmoves hfirst => hall data rfl hfirst (.inr ⟨hshown, hmoves⟩)⟩

/-- **Positions**: if the frames of a player come in time, it is drawn between the two buffered
frames always exactly if this holds for its first frame, beside an artificial one at time 0. -/
theorem interpolatesBetween_iff (c : PlayerCorrector Rat) (hdelay : 0 < c.targetUpdateDelay)
    (id : Int32) (events : List (Event Rat))
    (hin : Along (Pace.after id) (Pace.InTime id c.targetUpdateDelay) none events) :
    Along step (InterpolatesBetween id) c.joinedLevel events ↔
      Along step (FirstInRange id) c.joinedLevel events := by
  refine along_congr_beside (I := InPace id c.targetUpdateDelay) ?_ ?_ ⟨rfl, ?_⟩ hin
  · intro c' pace event h hevent
    cases event with
    | feed call => exact h.feed hdelay hevent
    | interpolate players frameDelta playerId => exact h.interpolate hevent
  · intro c' pace event h hevent
    exact interpolatesBetween_iff_first hdelay h
  · intro data hget
    cases hget

/-- A player that was just created. -/
def created (isSecond : Bool) : RemotePlayer Rat where
  isSecond := isSecond
  settings := ⟨true, true⟩
  visible := true
  scaleX := 1
  scaleY := 1
  x := 0
  y := 0
  rotation := 0
  camX := 0
  camY := 0
  haltedMovement := false
  justRespawned := false
  justDied := false
  firstTick := true
  lastMode := .none
  wasPractice := false
  wasPaused := false
  wasGrounded := false
  wasDead := false

theorem interpolatesBetween_iff_at_start :
    Along step (InterpolatesBetween 1) (waiting 1).joinedLevel
      [.feed (.one (standing 0)), .interpolate (created false, created true) (1 / 2) 1,
        .feed (.one (standing 1))] := by
  refine (interpolatesBetween_iff (waiting 1) (by decide +kernel) 1 _ ?_).mpr ?_
  · refine ⟨?_, ?_, ?_, trivial⟩
    · intro p frame hp
      cases hp
    · rintro - p hp
      obtain rfl := Option.some.inj hp
      decide +kernel
    · intro p frame hp hframe
      obtain rfl := Option.some.inj hp
      obtain rfl := Option.some.inj hframe
      decide +kernel
  · refine ⟨trivial, ?_, trivial, trivial⟩
    rintro - data hget - -
    change (feed _ _).playerData.get 1 = some data at hget
    rw [get_feed] at hget
    obtain rfl := Option.some.inj hget
    rw [targetUpdateDelay_step]
    decide +kernel

/-- A player that was on the level for some time is drawn far ahead of its first frame. -/
theorem first_frame_far_ahead :
    ¬Along step (InterpolatesBetween 1) (waiting 1).joinedLevel
      [.feed (.one (standing 5)), .interpolate (created false, created true) 0 1] := by
  rintro ⟨-, h, -⟩
  have hget : ((waiting 1).joinedLevel.step (.feed (.one (standing 5)))).playerData.get 1 =
      some (newPlayer (standing 5)) := by
    change (feed _ _).playerData.get 1 = _
    rw [get_feed]
    rfl
  have hratio := (between_iff hget).mp (h rfl).1 ⟨fun hnone => (nomatch hnone), fun _ => rfl⟩
  unfold timeDeltaRatio at hratio
  rw [targetUpdateDelay_step] at hratio
  exact absurd hratio.2 (by decide +kernel)

end Exact

end PlayerCorrector

end Globed.Client
