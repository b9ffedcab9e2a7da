import Globed.Base.Sessions
import Globed.Client.Corrector
import Mathlib.Tactic.FieldSimp
import Mathlib.Tactic.Linarith
import Mathlib.Tactic.Ring

/-!
# Estimated frames

What `maybeEstimateFrame` puts in place of the frames of a player, over all that is fed. Of one
player the corrector is a machine of its own (`get_feedRealData`). It estimates four frames in a row
at most (`estimation_bounded`). It judges a frame by the one that is buffered, though, not by the
one that was received before it: after an estimate it takes frames in time for repeated ones
(`replacesRepeated_iff`), and where it takes a frame as it is whatever its timestamp, it is one
repeated frame away from a division by zero (`extrapolatesApart_iff`).
-/

namespace Globed.Client.PlayerCorrector

section Estimation

open Floats Sessions

variable {F : Type} [Floats F] {c c' : PlayerCorrector F} {pData : PlayerCorrectionData F}
  {fresh : Frame F} {id : Int32}

/-! ## One frame -/

/-- What becomes the newer frame. -/
inductive Estimate
  | fresh
  | extrapolated
  | midpoint
  deriving DecidableEq

/-- The branches of `maybeEstimateFrame`. -/
def estimate (c : PlayerCorrector F) (pData : PlayerCorrectionData F) (fresh : Frame F) :
    Estimate :=
  let delta := fresh.timestamp - pData.newerFrame.timestamp
  if pData.extrapolatedFrames > 3 then .fresh
  else if closeEqual delta c.targetUpdateDelay then .fresh
  else if closeEqual delta 0 then .extrapolated
  else if closeEqual delta (c.targetUpdateDelay * two) then .midpoint
  else .fresh

/-- The outputs of `maybeEstimateFrame`. -/
def output (c : PlayerCorrector F) (pData : PlayerCorrectionData F) (fresh : Frame F) :
    Estimate → Frame F
  | .fresh => fresh
  | .extrapolated => c.getExtrapolatedFrame pData.olderFrame pData.newerFrame
  | .midpoint => getMidPoint pData.newerFrame fresh

theorem maybeEstimateFrame_eq (c : PlayerCorrector F) (pData : PlayerCorrectionData F)
    (fresh : Frame F) :
    c.maybeEstimateFrame pData fresh =
      match c.estimate pData fresh with
      | .fresh => (false, fresh, pData)
      | e => (true, c.output pData fresh e,
          { pData with extrapolatedFrames := pData.extrapolatedFrames + 1 }) := by
  unfold maybeEstimateFrame estimate
  dsimp only
  split_ifs <;> rfl

theorem estimated_iff :
    (c.maybeEstimateFrame pData fresh).1 = true ↔ c.estimate pData fresh ≠ .fresh := by
  rw [maybeEstimateFrame_eq]
  cases c.estimate pData fresh <;> simp

/-- An update moves the newer frame to the older one, and counts the estimates in a row. -/
theorem updatePlayer_eq (c : PlayerCorrector F) (pData : PlayerCorrectionData F)
    (fresh : Frame F) :
    c.updatePlayer pData fresh =
      { pData with
        olderFrame := pData.newerFrame
        sentPackets := pData.sentPackets + 1
        timestamp := pData.newerFrame.timestamp
        newerFrame := c.output pData fresh (c.estimate pData fresh)
        extrapolatedFrames :=
          if c.estimate pData fresh = .fresh then 0 else pData.extrapolatedFrames + 1 } := by
  unfold updatePlayer
  rw [maybeEstimateFrame_eq]
  cases c.estimate pData fresh <;> rfl

/-- A frame that is stored as it was received ends the estimates. -/
theorem updatePlayer_of_fresh (h : c.estimate pData fresh = .fresh) :
    (c.updatePlayer pData fresh).newerFrame = fresh ∧
      (c.updatePlayer pData fresh).extrapolatedFrames = 0 := by
  simp [updatePlayer_eq, h, output]

theorem extrapolatedFrames_of_estimated (h : c.estimate pData fresh ≠ .fresh) :
    (c.updatePlayer pData fresh).extrapolatedFrames = pData.extrapolatedFrames + 1 := by
  simp [updatePlayer_eq, h]

theorem estimate_of_gt (h : pData.extrapolatedFrames > 3) : c.estimate pData fresh = .fresh := by
  simp [estimate, h]

/-! ## One player -/

/-- What a call of `feedRealData` makes of the data of one player. -/
def receive (c : PlayerCorrector F) :
    Option (PlayerCorrectionData F) → Option (Frame F) → Option (PlayerCorrectionData F)
  | _, none => none
  | none, some frame => some (newPlayer frame)
  | some pData, some frame => some (c.updatePlayer pData frame)

theorem targetUpdateDelay_feedPlayer (playerId : Int32) (frame : Frame F) :
    (c.feedPlayer playerId frame).targetUpdateDelay = c.targetUpdateDelay := by
  unfold feedPlayer
  split <;> rfl

theorem get_feedPlayer (playerId : Int32) (frame : Frame F) :
    (c.feedPlayer playerId frame).playerData.get id =
      if id = playerId then c.receive (c.playerData.get id) (some frame)
      else c.playerData.get id := by
  unfold feedPlayer
  by_cases h : id = playerId
  · subst h
    cases hget : c.playerData.get id <;> simp [receive]
  · cases c.playerData.get playerId <;> simp [h]

/-- Of the corrector, only the delay matters. -/
theorem estimate_congr (h : c.targetUpdateDelay = c'.targetUpdateDelay) :
    c.estimate pData fresh = c'.estimate pData fresh := by
  simp only [estimate, h]

theorem output_congr (h : c.targetUpdateDelay = c'.targetUpdateDelay) (e : Estimate) :
    c.output pData fresh e = c'.output pData fresh e := by
  cases e <;> simp only [output, getExtrapolatedFrame, h]

theorem receive_congr (h : c.targetUpdateDelay = c'.targetUpdateDelay)
    (pData : Option (PlayerCorrectionData F)) (frame : Option (Frame F)) :
    c.receive pData frame = c'.receive pData frame := by
  cases pData <;> cases frame <;>
    simp only [receive, updatePlayer_eq, estimate_congr h, output_congr h]

/-- The first loop of `feedRealData` visits every player once. -/
theorem get_feedPlayers (players : List (Int32 × Frame F)) (c : PlayerCorrector F) (id : Int32)
    (hnodup : (players.map Prod.fst).Nodup) :
    let c' := players.foldl (fun c (playerId, data) => c.feedPlayer playerId data) c
    c'.targetUpdateDelay = c.targetUpdateDelay ∧
      (∀ frame, (id, frame) ∈ players →
        c'.playerData.get id = c.receive (c.playerData.get id) (some frame)) ∧
      (id ∉ players.map Prod.fst → c'.playerData.get id = c.playerData.get id) := by
  induction players generalizing c with
  | nil => simp
  | cons player players ih =>
    obtain ⟨playerId, data⟩ := player
    obtain ⟨hnot, hnodup⟩ := List.nodup_cons.mp hnodup
    obtain ⟨hdelay, hin, hout⟩ := ih (c.feedPlayer playerId data) hnodup
    have hdelay' := targetUpdateDelay_feedPlayer (c := c) playerId data
    refine ⟨hdelay.trans hdelay', fun frame hmem => ?_, fun hnew => ?_⟩
    · rw [List.foldl_cons]
      rcases List.mem_cons.mp hmem with heq | hrest
      · obtain ⟨rfl, rfl⟩ := Prod.mk.inj heq
        rw [hout hnot, get_feedPlayer, if_pos rfl]
      · have hne : id ≠ playerId := by
          rintro rfl
          exact hnot (List.mem_map.mpr ⟨_, hrest, rfl⟩)
        rw [hin frame hrest, get_feedPlayer, if_neg hne, receive_congr hdelay']
    · rw [List.map_cons, List.mem_cons, not_or] at hnew
      rw [List.foldl_cons, hout hnew.2, get_feedPlayer, if_neg hnew.1]

theorem get_foldl_erase {V : Type} (ids : List Int32) (m : FiniteMap Int32 V) (id : Int32) :
    (ids.foldl .erase m).get id = if id ∈ ids then none else m.get id := by
  induction ids generalizing m with
  | nil => simp
  | cons playerId ids ih =>
    rw [List.foldl_cons, ih, FiniteMap.get_erase]
    by_cases h : id = playerId <;> simp [h]

/-- One call feeds every player for itself, in whatever order it visits them. -/
theorem get_feedRealData (c : PlayerCorrector F) (o o' : IterOrder Int32)
    (data : FiniteMap Int32 (Frame F)) (id : Int32) :
    (c.feedRealData o o' data).targetUpdateDelay = c.targetUpdateDelay ∧
      (c.feedRealData o o' data).playerData.get id =
        c.receive (c.playerData.get id) (data.get id) := by
  obtain ⟨hdelay, hin, hout⟩ :=
    get_feedPlayers (data.entries o) c id (data.nodup_keys_entries o)
  refine ⟨hdelay, ?_⟩
  have hgone := (mem_feedRealData c o o' data).1
  cases hget : data.get id with
  | none =>
    have hnot : id ∉ (c.feedRealData o o' data).playerData.keys := by
      rw [hgone, data.mem_keys, hget]
      simp
    rw [FiniteMap.mem_keys, Bool.not_eq_true, Option.isSome_eq_false_iff,
      Option.isNone_iff_eq_none] at hnot
    rw [hnot, receive]
  | some frame =>
    rw [← hin frame (FiniteMap.mem_entries.mpr hget)]
    unfold feedRealData
    dsimp only
    rw [get_foldl_erase, if_neg]
    simp [FiniteMap.contains, hget]

/-! ## Calls of feedRealData -/

/-- A call of `feedRealData`. -/
structure Feed (F : Type) where
  o : IterOrder Int32
  o' : IterOrder Int32
  data : FiniteMap Int32 (Frame F)

def feed (c : PlayerCorrector F) (call : Feed F) : PlayerCorrector F :=
  c.feedRealData call.o call.o' call.data

@[simp] theorem targetUpdateDelay_feed (c : PlayerCorrector F) (call : Feed F) :
    (c.feed call).targetUpdateDelay = c.targetUpdateDelay :=
  (get_feedRealData c call.o call.o' call.data 0).1

theorem get_feed (c : PlayerCorrector F) (call : Feed F) (id : Int32) :
    (c.feed call).playerData.get id = c.receive (c.playerData.get id) (call.data.get id) :=
  (get_feedRealData c call.o call.o' call.data id).2

/-- Each player is a machine of its own, fed with its own frames. -/
theorem get_run (c : PlayerCorrector F) (calls : List (Feed F)) (id : Int32) :
    (calls.foldl feed c).playerData.get id =
      (calls.map fun call => call.data.get id).foldl c.receive (c.playerData.get id) := by
  suffices h : ∀ c', c'.targetUpdateDelay = c.targetUpdateDelay →
      (calls.foldl feed c').playerData.get id =
        (calls.map fun call => call.data.get id).foldl c.receive (c'.playerData.get id) from h c rfl
  induction calls with
  | nil => intros; rfl
  | cons call calls ih =>
    intro c' hdelay
    rw [List.foldl_cons, ih _ ((targetUpdateDelay_feed c' call).trans hdelay), get_feed,
      receive_congr hdelay, List.map_cons, List.foldl_cons]

/-- What a player is after a call, by whether it was there before. -/
theorem get_feed_eq_some {call : Feed F} (h : (c.feed call).playerData.get id = some pData) :
    ∃ frame, call.data.get id = some frame ∧
      (c.playerData.get id = none ∧ pData = newPlayer frame ∨
        ∃ before, c.playerData.get id = some before ∧ pData = c.updatePlayer before frame) := by
  rw [get_feed] at h
  cases hframe : call.data.get id with
  | none => cases hget : c.playerData.get id <;> simp [hframe, hget, receive] at h
  | some frame =>
    refine ⟨frame, rfl, ?_⟩
    cases hget : c.playerData.get id with
    | none => simp_all [receive]
    | some before => simp_all [receive]

/-! ## Few estimates in a row -/

/-- The counters of all players are in range. -/
def Counted (c : PlayerCorrector F) : Prop :=
  ∀ id pData, c.playerData.get id = some pData →
    0 ≤ pData.extrapolatedFrames ∧ pData.extrapolatedFrames ≤ 4

omit [Floats F] in
theorem counted_joinedLevel (c : PlayerCorrector F) : c.joinedLevel.Counted := by
  intro id pData h
  cases h

/-- The counter goes up only from three or less. -/
theorem Counted.feed (h : c.Counted) (call : Feed F) : (c.feed call).Counted := by
  intro id pData hget
  obtain ⟨frame, -, ⟨-, rfl⟩ | ⟨before, hbefore, rfl⟩⟩ := get_feed_eq_some hget
  · simp [newPlayer]
  · have hcount := h id before hbefore
    by_cases hfresh : c.estimate before frame = .fresh
    · rw [(updatePlayer_of_fresh hfresh).2]
      omega
    · have hle : ¬before.extrapolatedFrames > 3 := fun hgt => hfresh (estimate_of_gt hgt)
      rw [extrapolatedFrames_of_estimated hfresh]
      omega

theorem counted_run (c : PlayerCorrector F) (calls : List (Feed F)) :
    (calls.foldl feed c.joinedLevel).Counted :=
  List.foldlRecOn calls feed (counted_joinedLevel c) fun _ h call _ => h.feed call

/-- An update of the player for which an estimate takes the place of the frame that was received. -/
def Estimated (id : Int32) (c : PlayerCorrector F) (call : Feed F) : Prop :=
  ∃ pData frame, c.playerData.get id = some pData ∧ call.data.get id = some frame ∧
    (c.maybeEstimateFrame pData frame).1 = true

/-- The two frames that are made up from what the corrector has of the player. -/
def Synthesized (c : PlayerCorrector F) (pData : PlayerCorrectionData F) (fresh stored : Frame F) :
    Prop :=
  stored = c.getExtrapolatedFrame pData.olderFrame pData.newerFrame ∨
    stored = getMidPoint pData.newerFrame fresh

/-- An update that estimates stores a frame that is made up, and counts it. -/
def StoresEstimate (id : Int32) (c : PlayerCorrector F) (call : Feed F) : Prop :=
  ∃ before frame after, c.playerData.get id = some before ∧ call.data.get id = some frame ∧
    (c.feed call).playerData.get id = some after ∧ c.Synthesized before frame after.newerFrame ∧
    after.extrapolatedFrames = before.extrapolatedFrames + 1

/-- Any other update stores what was received, and starts to count from 0 again. -/
def StoresReceived (id : Int32) (c : PlayerCorrector F) (call : Feed F) : Prop :=
  ∃ frame after, call.data.get id = some frame ∧ (c.feed call).playerData.get id = some after ∧
    after.newerFrame = frame ∧ after.extrapolatedFrames = 0

/-- What an estimate is made of. -/
theorem synthesized_output (h : c.estimate pData fresh ≠ .fresh) :
    c.Synthesized pData fresh (c.output pData fresh (c.estimate pData fresh)) := by
  cases hest : c.estimate pData fresh with
  | fresh => exact absurd hest h
  | extrapolated => exact .inl rfl
  | midpoint => exact .inr rfl

theorem storesEstimate_of_estimated {call : Feed F} (h : Estimated id c call) :
    StoresEstimate id c call := by
  obtain ⟨before, frame, hbefore, hframe, hestimated⟩ := h
  have hest := estimated_iff.mp hestimated
  refine ⟨before, frame, c.updatePlayer before frame, hbefore, hframe, ?_, ?_,
    extrapolatedFrames_of_estimated hest⟩
  · rw [get_feed, hbefore, hframe, receive]
  · rw [updatePlayer_eq]
    exact synthesized_output hest

theorem storesReceived_of_not_estimated {call : Feed F} {frame : Frame F}
    (hframe : call.data.get id = some frame) (h : ¬Estimated id c call) :
    StoresReceived id c call := by
  cases hget : c.playerData.get id with
  | none =>
    refine ⟨frame, newPlayer frame, hframe, ?_, rfl, rfl⟩
    rw [get_feed, hget, hframe, receive]
  | some before =>
    have hfresh : c.estimate before frame = .fresh := by
      by_contra hest
      exact h ⟨before, frame, hget, hframe, estimated_iff.mpr hest⟩
    refine ⟨frame, c.updatePlayer before frame, hframe, ?_, updatePlayer_of_fresh hfresh⟩
    rw [get_feed, hget, hframe, receive]

theorem targetUpdateDelay_run (c : PlayerCorrector F) (calls : List (Feed F)) :
    (calls.foldl feed c).targetUpdateDelay = c.targetUpdateDelay :=
  List.foldlRecOn (motive := fun c' => c'.targetUpdateDelay = c.targetUpdateDelay) calls feed rfl
    fun _ h call _ => (targetUpdateDelay_feed _ call).trans h

/-- Whether an update estimates is found out from the frames of the player alone. -/
theorem estimated_run (calls : List (Feed F)) {call : Feed F} {frame : Frame F}
    (hframe : call.data.get id = some frame)
    (hget : (calls.map fun call => call.data.get id).foldl c.receive (c.playerData.get id) =
      some pData)
    (h : c.estimate pData frame ≠ .fresh) : Estimated id (calls.foldl feed c) call := by
  refine ⟨pData, frame, (get_run c calls id).trans hget, hframe, estimated_iff.mpr ?_⟩
  rwa [estimate_congr (targetUpdateDelay_run c calls)]

/-- Estimates in a row are counted. -/
theorem counter_of_estimated {calls : List (Feed F)} (h : Along feed (Estimated id) c calls)
    (hget : c.playerData.get id = some pData) :
    ∃ pData', (calls.foldl feed c).playerData.get id = some pData' ∧
      pData'.extrapolatedFrames = pData.extrapolatedFrames + calls.length := by
  induction calls generalizing c pData with
  | nil => exact ⟨pData, hget, by simp⟩
  | cons call calls ih =>
    obtain ⟨⟨before, frame, hbefore, hframe, hestimated⟩, hrest⟩ := h
    obtain rfl : before = pData := Option.some.inj (hbefore.symm.trans hget)
    have hnext : (c.feed call).playerData.get id = some (c.updatePlayer before frame) := by
      rw [get_feed, hget, hframe, receive]
    obtain ⟨pData', hget', hcount⟩ := ih hrest hnext
    refine ⟨pData', hget', ?_⟩
    rw [hcount, extrapolatedFrames_of_estimated (estimated_iff.mp hestimated), List.length_cons]
    push_cast
    omega

/-- **Bounded estimation**: the counter of a player is between 0 and 4; an update of a player stores
an estimate or what was received; no more than four updates in a row store an estimate, and the one
after four of them stores what was received and starts to count from 0 again. -/
theorem estimation_bounded (c : PlayerCorrector F) (calls : List (Feed F)) (id : Int32) :
    let c' := calls.foldl feed c.joinedLevel
    (∀ pData, c'.playerData.get id = some pData →
      0 ≤ pData.extrapolatedFrames ∧ pData.extrapolatedFrames ≤ 4) ∧
    (∀ call, (call.data.get id).isSome →
      (Estimated id c' call → StoresEstimate id c' call) ∧
      (¬Estimated id c' call → StoresReceived id c' call)) ∧
    ∀ estimates, Along feed (Estimated id) c' estimates →
      estimates.length ≤ 4 ∧
      (estimates.length = 4 → ∀ call, (call.data.get id).isSome →
        StoresReceived id (estimates.foldl feed c') call) := by
  intro c'
  have hcounted : c'.Counted := counted_run c calls
  refine ⟨hcounted id, fun call hcall => ?_, fun estimates hestimates => ?_⟩
  · obtain ⟨frame, hframe⟩ := Option.isSome_iff_exists.mp hcall
    exact ⟨storesEstimate_of_estimated, storesReceived_of_not_estimated hframe⟩
  cases estimates with
  | nil => simp
  | cons first rest =>
    obtain ⟨pData, -, hget, -, -⟩ := hestimates.1
    obtain ⟨pData', hget', hcount⟩ := counter_of_estimated hestimates hget
    have hbound : Counted ((first :: rest).foldl feed c') :=
      List.foldlRecOn (first :: rest) feed hcounted fun _ h call _ => h.feed call
    have hlow := (hcounted id pData hget).1
    have hhigh := (hbound id pData' hget').2
    refine ⟨by omega, fun hfour call hcall => ?_⟩
    have hforced : pData'.extrapolatedFrames > 3 := by omega
    obtain ⟨frame, hframe⟩ := Option.isSome_iff_exists.mp hcall
    refine storesReceived_of_not_estimated hframe ?_
    rintro ⟨before, frame', hbefore, -, hestimated⟩
    obtain rfl : before = pData' := Option.some.inj (hbefore.symm.trans hget')
    exact estimated_iff.mp hestimated (estimate_of_gt hforced)

/-- A player that stands still, at this time. -/
def standing (timestamp : Rat) : Frame Rat := { emptyPlayerData with timestamp }

/-- A call that feeds player 1 alone. -/
noncomputable def Feed.one (frame : Frame Rat) : Feed Rat where
  o := .any Int32
  o' := .any Int32
  data := FiniteMap.empty.insert 1 frame

@[simp] theorem get_one (frame : Frame Rat) : (Feed.one frame).data.get 1 = some frame := rfl

/-- A corrector before the first player came. -/
def waiting (delay : Rat) : PlayerCorrector Rat := ⟨delay, .empty, [], []⟩

/-- After a repeated frame the next three, all in time, are replaced as well, and the one after them
is stored. -/
theorem estimation_bounded_four :
    let c' := [Feed.one (standing 1), .one (standing 2)].foldl feed (waiting 1).joinedLevel
    let estimates :=
      [Feed.one (standing 2), .one (standing 3), .one (standing 4), .one (standing 5)]
    Along feed (Estimated 1) c' estimates ∧
      StoresReceived 1 (estimates.foldl feed c') (.one (standing 6)) := by
  intro c' estimates
  let c := (waiting 1).joinedLevel
  have h₁ : Estimated 1 c' (.one (standing 2)) :=
    estimated_run (c := c) [.one (standing 1), .one (standing 2)] rfl rfl (by decide +kernel)
  have h₂ : Estimated 1 (c'.feed (.one (standing 2))) (.one (standing 3)) :=
    estimated_run (c := c) [.one (standing 1), .one (standing 2), .one (standing 2)] rfl rfl
      (by decide +kernel)
  have h₃ : Estimated 1 ((c'.feed (.one (standing 2))).feed (.one (standing 3)))
      (.one (standing 4)) :=
    estimated_run (c := c)
      [.one (standing 1), .one (standing 2), .one (standing 2), .one (standing 3)] rfl rfl
      (by decide +kernel)
  have h₄ : Estimated 1
      (((c'.feed (.one (standing 2))).feed (.one (standing 3))).feed (.one (standing 4)))
      (.one (standing 5)) :=
    estimated_run (c := c)
      [.one (standing 1), .one (standing 2), .one (standing 2), .one (standing 3),
        .one (standing 4)] rfl rfl (by decide +kernel)
  have hestimates : Along feed (Estimated 1) c' estimates := ⟨h₁, h₂, h₃, h₄, trivial⟩
  have hbounded := estimation_bounded (waiting 1) [.one (standing 1), .one (standing 2)] 1
  exact ⟨hestimates, (hbounded.2.2 estimates hestimates).2 rfl (.one (standing 6)) rfl⟩

end Estimation

section Exact

open Floats Sessions

variable {c : PlayerCorrector Rat} {pData : PlayerCorrectionData Rat} {fresh : Frame Rat}
  {id : Int32} {call call' : Feed Rat}

/-! ## Exact arithmetic -/

theorem closeEqual_iff {a b : Rat} : closeEqual a b = true ↔ |b - a| < 1 / 500 := by
  simp [closeEqual, lt, fabs, epsilon]

/-- An extrapolated frame is one delay later than the newer of two frames that are apart. -/
theorem timestamp_getExtrapolatedFrame {older newer : Frame Rat}
    (h : older.timestamp ≠ newer.timestamp) :
    (c.getExtrapolatedFrame older newer).timestamp = newer.timestamp + c.targetUpdateDelay := by
  have hne : newer.timestamp - older.timestamp ≠ 0 := sub_ne_zero.mpr h.symm
  change older.timestamp + (1 + c.targetUpdateDelay / (newer.timestamp - older.timestamp)) *
    (newer.timestamp - older.timestamp) = _
  rw [add_mul, div_mul_cancel₀ _ hne]
  ring

theorem timestamp_getMidPoint (older newer : Frame Rat) :
    (getMidPoint older newer).timestamp = (older.timestamp + newer.timestamp) / 2 := rfl

/-- A frame with the timestamp of the one that is buffered is only stored if the counter or the
delay leave no choice. -/
theorem estimate_of_eq (hdelay : 0 < c.targetUpdateDelay)
    (h : fresh.timestamp = pData.newerFrame.timestamp) :
    c.estimate pData fresh =
      if 3 < pData.extrapolatedFrames ∨ c.targetUpdateDelay < 1 / 500 then .fresh
      else .extrapolated := by
  have hzero : fresh.timestamp - pData.newerFrame.timestamp = 0 := sub_eq_zero.mpr h
  have hin : closeEqual 0 c.targetUpdateDelay = true ↔ c.targetUpdateDelay < 1 / 500 := by
    rw [closeEqual_iff, sub_zero, abs_of_pos hdelay]
  have hsame : closeEqual (0 : Rat) 0 = true := closeEqual_iff.mpr (by norm_num)
  unfold estimate
  dsimp only
  rw [hzero, hsame]
  by_cases hforced : 3 < pData.extrapolatedFrames
  · simp [hforced]
  · simp [hforced, hin]

/-- A midpoint is taken only towards a frame with another timestamp. -/
theorem ne_of_midpoint (h : c.estimate pData fresh = .midpoint) :
    fresh.timestamp ≠ pData.newerFrame.timestamp := by
  intro heq
  have hsame : closeEqual (0 : Rat) 0 = true := closeEqual_iff.mpr (by norm_num)
  unfold estimate at h
  dsimp only at h
  rw [sub_eq_zero.mpr heq, hsame] at h
  split_ifs at h with h₁ h₂ h₃ h₄
  exact h₃ rfl

/-! ## Divisions -/

/-- If the call extrapolates for the player, then from two frames with different timestamps. -/
def ExtrapolatesApart (id : Int32) (c : PlayerCorrector Rat) (call : Feed Rat) : Prop :=
  ∀ pData frame, c.playerData.get id = some pData → call.data.get id = some frame →
    c.estimate pData frame = .extrapolated →
    pData.olderFrame.timestamp ≠ pData.newerFrame.timestamp

/-- The player's frame is stored as it is, beside a frame with the same timestamp: that of the
artificial one before its first, or one that is buffered. -/
def Stalls (id : Int32) (c : PlayerCorrector Rat) (call : Feed Rat) : Prop :=
  ∃ frame, call.data.get id = some frame ∧
    (c.playerData.get id = none ∧ frame.timestamp = 0 ∨
      ∃ pData, c.playerData.get id = some pData ∧
        frame.timestamp = pData.newerFrame.timestamp ∧
        (3 < pData.extrapolatedFrames ∨ c.targetUpdateDelay < 1 / 500))

/-- The second call repeats the player's frame of the first. -/
def Repeats (id : Int32) (delay : Rat) (call call' : Feed Rat) : Prop :=
  ∃ frame frame', call.data.get id = some frame ∧ call'.data.get id = some frame' ∧
    closeEqual (frame'.timestamp - frame.timestamp) 0 = true ∧
    closeEqual (frame'.timestamp - frame.timestamp) delay = false

/-- After a call that did not divide by zero the two frames have one timestamp only if it stalled,
and then it stored what was received. -/
theorem stalls_iff (hdelay : 0 < c.targetUpdateDelay) (hapart : ExtrapolatesApart id c call)
    {frame : Frame Rat} (hframe : call.data.get id = some frame)
    (hget : (c.feed call).playerData.get id = some pData) :
    (pData.olderFrame.timestamp = pData.newerFrame.timestamp ↔ Stalls id c call) ∧
      (Stalls id c call → pData.newerFrame = frame ∧ pData.extrapolatedFrames = 0) := by
  obtain ⟨frame', hframe', ⟨hnew, rfl⟩ | ⟨before, hbefore, rfl⟩⟩ := get_feed_eq_some hget
  · obtain rfl : frame = frame' := Option.some.inj (hframe.symm.trans hframe')
    have hstalls : Stalls id c call ↔ frame.timestamp = 0 := by
      simp [Stalls, hframe, hnew]
    rw [hstalls]
    exact ⟨eq_comm, fun _ => ⟨rfl, rfl⟩⟩
  · obtain rfl : frame = frame' := Option.some.inj (hframe.symm.trans hframe')
    have hstalls : Stalls id c call ↔ frame.timestamp = before.newerFrame.timestamp ∧
        (3 < before.extrapolatedFrames ∨ c.targetUpdateDelay < 1 / 500) := by
      simp [Stalls, hframe, hbefore]
    have hfresh : Stalls id c call → c.estimate before frame = .fresh := by
      intro h
      rw [estimate_of_eq hdelay (hstalls.mp h).1, if_pos (hstalls.mp h).2]
    refine ⟨?_, fun h => updatePlayer_of_fresh (hfresh h)⟩
    rw [hstalls]
    cases hest : c.estimate before frame with
    | fresh =>
      rw [(updatePlayer_of_fresh hest).1, updatePlayer_eq]
      refine ⟨fun heq => ⟨heq.symm, ?_⟩, fun h => h.1.symm⟩
      by_contra hfree
      rw [estimate_of_eq hdelay heq.symm, if_neg hfree] at hest
      cases hest
    | extrapolated =>
      have hne := hapart before frame hbefore hframe hest
      have hlater : (c.updatePlayer before frame).newerFrame.timestamp =
          before.newerFrame.timestamp + c.targetUpdateDelay := by
        rw [updatePlayer_eq, hest]
        exact timestamp_getExtrapolatedFrame hne
      rw [hlater, updatePlayer_eq]
      constructor
      · intro heq
        dsimp only at heq
        linarith
      · intro h
        rw [hfresh (hstalls.mpr h)] at hest
        cases hest
    | midpoint =>
      have hne := ne_of_midpoint hest
      constructor
      · intro heq
        rw [updatePlayer_eq, hest] at heq
        dsimp only [output] at heq
        rw [timestamp_getMidPoint] at heq
        exact absurd (by linarith) hne
      · intro h
        exact absurd h.1 hne

/-- The step lemma of the divisions. -/
theorem extrapolatesApart_feed_iff (hdelay : 0 < c.targetUpdateDelay)
    (hapart : ExtrapolatesApart id c call) :
    ExtrapolatesApart id (c.feed call) call' ↔
      ¬(Stalls id c call ∧ Repeats id c.targetUpdateDelay call call') := by
  constructor
  · rintro hnext ⟨hstalls, frame, frame', hframe, hframe', hsame, hearly⟩
    obtain ⟨pData, hget⟩ : ∃ pData, (c.feed call).playerData.get id = some pData := by
      rw [get_feed, hframe]
      cases c.playerData.get id <;> exact ⟨_, rfl⟩
    obtain ⟨heq, hstored⟩ := stalls_iff hdelay hapart hframe hget
    obtain ⟨hnewer, hcount⟩ := hstored hstalls
    refine hnext pData frame' hget hframe' ?_ (heq.mpr hstalls)
    simp [estimate, hnewer, hcount, hsame, hearly]
  · rintro hnot pData frame' hget hframe' hest heq
    obtain ⟨frame, hframe, -⟩ := get_feed_eq_some hget
    obtain ⟨hiff, hstored⟩ := stalls_iff hdelay hapart hframe hget
    have hstalls := hiff.mp heq
    obtain ⟨hnewer, hcount⟩ := hstored hstalls
    refine hnot ⟨hstalls, frame, frame', hframe, hframe', ?_⟩
    unfold estimate at hest
    rw [hnewer, hcount, targetUpdateDelay_feed] at hest
    dsimp only at hest
    split_ifs at hest with h₁ h₂ h₃
    exact ⟨h₃, Bool.eq_false_iff.mpr h₂⟩

/-- **Divisions by zero**: from when the level was joined, no frame is extrapolated from two frames
with one timestamp exactly if no frame of the player is repeated that was stored beside a frame with
its timestamp. -/
theorem extrapolatesApart_iff (c : PlayerCorrector Rat) (hdelay : 0 < c.targetUpdateDelay)
    (calls : List (Feed Rat)) (id : Int32) :
    Along feed (ExtrapolatesApart id) c.joinedLevel calls ↔
      Successive feed
        (fun c call call' => ¬(Stalls id c call ∧ Repeats id c.targetUpdateDelay call call'))
        c.joinedLevel calls := by
  cases calls with
  | nil => exact Iff.rfl
  | cons call calls =>
    refine along_iff_successive (I := fun c => 0 < c.targetUpdateDelay) ?_ ?_ hdelay ?_
    · intro c call hc
      rwa [targetUpdateDelay_feed]
    · intro c call call' hc hapart
      exact extrapolatesApart_feed_iff hc hapart
    · intro pData frame hget
      cases hget

theorem extrapolatesApart_iff_repeated :
    Along feed (ExtrapolatesApart 1) (waiting 1).joinedLevel
      [.one (standing 1), .one (standing 2), .one (standing 2)] := by
  refine (extrapolatesApart_iff (waiting 1) (by decide +kernel) _ 1).mpr ⟨?_, ?_, trivial⟩
  · rintro ⟨-, frame, frame', hframe, hframe', hsame, -⟩
    obtain rfl := Option.some.inj hframe
    obtain rfl := Option.some.inj hframe'
    exact absurd hsame (by decide +kernel)
  · rintro ⟨⟨frame, hframe, ⟨hnone, -⟩ | ⟨pData, hget, heq, -⟩⟩, -⟩
    · rw [get_feed] at hnone
      cases hnone
    · rw [get_feed] at hget
      obtain rfl := Option.some.inj hget
      obtain rfl := Option.some.inj hframe
      exact absurd heq (by decide +kernel)

/-- The server fills in `PlayerData::empty` until a client sent its data. -/
theorem empty_twice_divides_by_zero :
    ¬Along feed (ExtrapolatesApart 1) (waiting 1).joinedLevel
      [.one emptyPlayerData, .one emptyPlayerData] := by
  rintro ⟨-, hapart, -⟩
  refine hapart (newPlayer emptyPlayerData) emptyPlayerData ?_ rfl ?_ rfl
  · rw [get_feed]
    rfl
  · rw [estimate_congr (targetUpdateDelay_feed _ _)]
    decide +kernel

/-! ## Replaced frames -/

/-- If the second call extrapolates for the player, then it repeats the frame of the first one, and
is not one delay later. -/
def ReplacesRepeated (id : Int32) (c : PlayerCorrector Rat) (call call' : Feed Rat) : Prop :=
  ∀ frame frame' pData, call.data.get id = some frame → call'.data.get id = some frame' →
    (c.feed call).playerData.get id = some pData →
    (c.feed call).estimate pData frame' = .extrapolated →
    |frame'.timestamp - frame.timestamp| < 1 / 500 ∧
      frame'.timestamp ≠ frame.timestamp + c.targetUpdateDelay

/-- An estimate is buffered when the second call comes, and the player's frame has its timestamp,
but does not repeat the one of the first call. -/
def MeetsEstimate (id : Int32) (c : PlayerCorrector Rat) (call call' : Feed Rat) : Prop :=
  ∃ frame frame' pData, call.data.get id = some frame ∧ call'.data.get id = some frame' ∧
    (c.feed call).playerData.get id = some pData ∧
    pData.extrapolatedFrames ≠ 0 ∧ pData.extrapolatedFrames ≤ 3 ∧
    closeEqual (frame'.timestamp - pData.newerFrame.timestamp) 0 = true ∧
    closeEqual (frame'.timestamp - frame.timestamp) 0 = false

/-- Without an estimate, what is buffered is what was received. -/
theorem newerFrame_of_not_estimated (hcounted : c.Counted) {frame : Frame Rat}
    (hframe : call.data.get id = some frame)
    (hget : (c.feed call).playerData.get id = some pData) (hcount : pData.extrapolatedFrames = 0) :
    pData.newerFrame = frame := by
  obtain ⟨frame', hframe', ⟨-, rfl⟩ | ⟨before, hbefore, rfl⟩⟩ := get_feed_eq_some hget
  · exact Option.some.inj (hframe'.symm.trans hframe)
  · obtain rfl : frame = frame' := Option.some.inj (hframe.symm.trans hframe')
    by_cases hfresh : c.estimate before frame = .fresh
    · exact (updatePlayer_of_fresh hfresh).1
    · have hlow := (hcounted id before hbefore).1
      rw [extrapolatedFrames_of_estimated hfresh] at hcount
      omega

/-- The step lemma of the replaced frames. -/
theorem replacesRepeated_feed_iff (hcounted : c.Counted) (hdelay : 1 / 250 < c.targetUpdateDelay) :
    ReplacesRepeated id c call call' ↔ ¬MeetsEstimate id c call call' := by
  have hzero : ∀ a : Rat, closeEqual a 0 = true ↔ |a| < 1 / 500 := by
    intro a
    rw [closeEqual_iff, zero_sub, abs_neg]
  constructor
  · rintro h ⟨frame, frame', pData, hframe, hframe', hget, -, hcount, hsame, hother⟩
    have hapart : closeEqual (frame'.timestamp - pData.newerFrame.timestamp)
        c.targetUpdateDelay = false := by
      rw [Bool.eq_false_iff, ne_eq, closeEqual_iff, not_lt, le_abs]
      have hnear := abs_lt.mp ((hzero _).mp hsame)
      exact .inl (by linarith)
    have hnot : ¬pData.extrapolatedFrames > 3 := by omega
    obtain ⟨hrepeated, -⟩ := h frame frame' pData hframe hframe' hget
      (by simp [estimate, hnot, hapart, hsame])
    exact Bool.eq_false_iff.mp hother ((hzero _).mpr hrepeated)
  · intro hmeets frame frame' pData hframe hframe' hget hest
    have hcases : ¬pData.extrapolatedFrames > 3 ∧
        closeEqual (frame'.timestamp - pData.newerFrame.timestamp) 0 = true := by
      unfold estimate at hest
      dsimp only at hest
      split_ifs at hest with h₁ h₂ h₃
      exact ⟨h₁, h₃⟩
    have hrepeated : |frame'.timestamp - frame.timestamp| < 1 / 500 := by
      rw [← hzero]
      by_contra hother
      by_cases hcount : pData.extrapolatedFrames = 0
      · have hnewer := newerFrame_of_not_estimated hcounted hframe hget hcount
        exact hother (hnewer ▸ hcases.2)
      · exact hmeets ⟨frame, frame', pData, hframe, hframe', hget, hcount, by omega, hcases.2,
          Bool.eq_false_iff.mpr hother⟩
    refine ⟨hrepeated, fun hlater => ?_⟩
    have hnear := (abs_lt.mp hrepeated).2
    linarith

/-- **Replaced frames**: from when the level was joined, an extrapolated frame takes the place of
repeated ones only exactly if no other frame of the player meets an estimate. -/
theorem replacesRepeated_iff (c : PlayerCorrector Rat) (hdelay : 1 / 250 < c.targetUpdateDelay)
    (calls : List (Feed Rat)) (id : Int32) :
    Successive feed (ReplacesRepeated id) c.joinedLevel calls ↔
      Successive feed (fun c call call' => ¬MeetsEstimate id c call call') c.joinedLevel calls := by
  refine successive_congr (I := fun c => c.Counted ∧ 1 / 250 < c.targetUpdateDelay) ?_ ?_
    ⟨counted_joinedLevel c, hdelay⟩
  · intro c call h
    exact ⟨h.1.feed call, (targetUpdateDelay_feed c call).symm ▸ h.2⟩
  · intro c call call' h
    exact replacesRepeated_feed_iff h.1 h.2

theorem replacesRepeated_iff_midway :
    Successive feed (ReplacesRepeated 1) (waiting 1).joinedLevel
      [.one (standing 1), .one (standing 3), .one (standing 3)] := by
  refine (replacesRepeated_iff (waiting 1) (by decide +kernel) _ 1).mpr ⟨?_, ?_, trivial⟩
  · rintro ⟨frame, frame', pData, -, -, hget, hcount, -⟩
    rw [get_feed] at hget
    obtain rfl := Option.some.inj hget
    exact hcount rfl
  · rintro ⟨frame, frame', pData, hframe, hframe', -, -, -, -, hother⟩
    obtain rfl := Option.some.inj hframe
    obtain rfl := Option.some.inj hframe'
    exact absurd hother (by decide +kernel)

/-- After one frame was repeated, the next ones come in time and are lost. -/
theorem in_time_replaced_after_repeated :
    ¬Successive feed (ReplacesRepeated 1) (waiting 1).joinedLevel
      [.one (standing 1), .one (standing 2), .one (standing 2), .one (standing 3)] := by
  rintro ⟨-, -, h, -⟩
  have hget := get_run (waiting 1).joinedLevel
    [.one (standing 1), .one (standing 2), .one (standing 2)] 1
  have hdiscarded := h (standing 2) (standing 3) _ rfl rfl hget <| by
    rw [estimate_congr (targetUpdateDelay_feed _ _), estimate_congr (targetUpdateDelay_feed _ _),
      estimate_congr (targetUpdateDelay_feed _ _)]
    decide +kernel
  rw [targetUpdateDelay_feed, targetUpdateDelay_feed] at hdiscarded
  exact hdiscarded.2 (by decide +kernel)

end Exact

end Globed.Client.PlayerCorrector
