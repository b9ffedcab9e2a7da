import Globed.Base.BinarySearch
import Globed.Client.ByteBuffer
import Mathlib.Algebra.Order.Group.Int
import Mathlib.Order.Bounds.Basic

/-!
# The lines of a chat message

`ui/game/chat_message.cpp`. A message is broken into lines by a binary search for the number of
characters that fit. It ends one character too late: the line that is cut off is never narrower than
the place for it, unless it is the whole text (`breaksRight_iff`). Without its last character it is
(`cut_but_last`), and no character is lost (`concat_init`).
-/

namespace Globed.Client

open BinarySearch

/-! ## Breaking a text -/

section Lines

variable {F : Type} [LinearOrder F]

/-- `calcTextSize` is the width of a text that is drawn at a scale. -/
def findLowerCharacterBound (calcTextSize : CString → F → F) (text : CString)
    (scale maxSize : F) : Nat :=
  partitionPoint (fun mid => calcTextSize (text.take mid) scale < maxSize) 0 text.length

def splitAt (text : CString) (length : Nat) : CString × CString :=
  if length ≥ text.length then (text, []) else (text.take length, text.drop length)

/-- The texts of the labels of a message. -/
structure ChatMessage where
  line1 : CString
  line2 : Option CString
  line3 : Option CString
  deriving DecidableEq

/-- The part of `init` that fills the labels. The message of a player stands behind an icon and a
name, whose widths are given. -/
def ChatMessage.init [Sub F] [Zero F] (calcTextSize : CString → F → F) (textScale : F)
    (accData : Option (F × F)) (message : CString) (lineWidth : F) : ChatMessage :=
  let firstLineMsgWidth :=
    match accData with
    | some (spWidth, nameWidth) => lineWidth - spWidth - nameWidth
    | none => 0
  let (firstLineMsg, restMsg) :=
    splitAt message (findLowerCharacterBound calcTextSize message textScale firstLineMsgWidth)
  if restMsg = [] then ⟨firstLineMsg, none, none⟩
  else
    let (secondLineMsg, restMsg2) :=
      splitAt restMsg (findLowerCharacterBound calcTextSize restMsg textScale lineWidth)
    ⟨firstLineMsg, some secondLineMsg, if restMsg2 = [] then none else some restMsg2⟩

theorem splitAt_eq (text : CString) (length : Nat) :
    splitAt text length = (text.take length, text.drop length) := by
  unfold splitAt
  split
  · next h => rw [List.take_of_length_le h, List.drop_of_length_le h]
  · rfl

/-- All characters of a message are shown, in their order. -/
theorem concat_init [Sub F] [Zero F] (calcTextSize : CString → F → F) (textScale : F)
    (accData : Option (F × F)) (message : CString) (lineWidth : F) :
    let lines := ChatMessage.init calcTextSize textScale accData message lineWidth
    lines.line1 ++ lines.line2.getD [] ++ lines.line3.getD [] = message := by
  intro lines
  unfold lines ChatMessage.init
  generalize (match accData with
    | some (spWidth, nameWidth) => lineWidth - spWidth - nameWidth
    | none => 0) = firstLineMsgWidth
  simp only [splitAt_eq]
  generalize findLowerCharacterBound calcTextSize message textScale firstLineMsgWidth = n
  generalize findLowerCharacterBound calcTextSize (message.drop n) textScale lineWidth = m
  have hsplit := List.take_append_drop n message
  have hsplit' := List.take_append_drop m (message.drop n)
  by_cases hrest : message.drop n = []
  · rw [if_pos hrest]
    rw [hrest, List.append_nil] at hsplit
    simp [hsplit]
  · rw [if_neg hrest]
    by_cases hrest' : (message.drop n).drop m = []
    · rw [if_pos hrest']
      rw [hrest', List.append_nil] at hsplit'
      simp [hsplit', hsplit]
    · rw [if_neg hrest']
      rw [Option.getD_some, Option.getD_some, List.append_assoc, hsplit', hsplit]

end Lines

/-! ## What fits -/

section Fits

variable {F : Type} [LinearOrder F] {calcTextSize : CString → F → F} {text : CString}
  {scale maxSize : F} {k : Nat}

/-- No longer prefix of the text is narrower. -/
def GrowsWith (calcTextSize : CString → F → F) (text : CString) (scale : F) : Prop :=
  ∀ i j, i ≤ j → calcTextSize (text.take i) scale ≤ calcTextSize (text.take j) scale

theorem findLowerCharacterBound_le :
    findLowerCharacterBound calcTextSize text scale maxSize ≤ text.length :=
  (partitionPoint_mem (Nat.zero_le _)).2

/-- The shorter texts are those that are narrower than the place. -/
theorem lt_findLowerCharacterBound_iff (hgrows : GrowsWith calcTextSize text scale)
    (hk : k < text.length) :
    k < findLowerCharacterBound calcTextSize text scale maxSize ↔
      calcTextSize (text.take k) scale < maxSize := by
  refine (lt_partitionPoint_iff ?_ (Nat.zero_le k) hk).trans decide_eq_true_iff
  intro i j hij hj
  rw [decide_eq_true_iff] at hj ⊢
  exact lt_of_le_of_lt (hgrows i j hij) hj

/-- Without its last character, the line that is cut off is narrower than the place. -/
theorem cut_but_last (hgrows : GrowsWith calcTextSize text scale)
    (hk : k < findLowerCharacterBound calcTextSize text scale maxSize) :
    calcTextSize (text.take k) scale < maxSize :=
  (lt_findLowerCharacterBound_iff hgrows
    (Nat.lt_of_lt_of_le hk findLowerCharacterBound_le)).mp hk

/-- The whole text is cut off if it is narrower than the place. -/
theorem findLowerCharacterBound_of_lt (hgrows : GrowsWith calcTextSize text scale)
    (hwhole : calcTextSize text scale < maxSize) :
    findLowerCharacterBound calcTextSize text scale maxSize = text.length := by
  refine Nat.le_antisymm findLowerCharacterBound_le (Nat.le_of_not_lt fun hlt => ?_)
  have hcut := (lt_findLowerCharacterBound_iff hgrows hlt).not.mp (Nat.lt_irrefl _)
  have hle := hgrows _ text.length (Nat.le_of_lt hlt)
  rw [List.take_length] at hle
  exact hcut (lt_of_le_of_lt hle hwhole)

/-- Otherwise what is cut off is not narrower than the place. -/
theorem cut_not_lt (hgrows : GrowsWith calcTextSize text scale)
    (hwhole : maxSize ≤ calcTextSize text scale) :
    maxSize ≤ calcTextSize
      (text.take (findLowerCharacterBound calcTextSize text scale maxSize)) scale := by
  have hle : findLowerCharacterBound calcTextSize text scale maxSize ≤ text.length :=
    findLowerCharacterBound_le
  rcases Nat.eq_or_lt_of_le hle with heq | hlt
  · rwa [heq, List.take_length]
  · exact not_lt.mp ((lt_findLowerCharacterBound_iff hgrows hlt).not.mp (Nat.lt_irrefl _))

/-- The number of characters is the greatest that is narrower than the place, and the line that is
cut off after them fits. -/
structure BreaksRight (calcTextSize : CString → F → F) (text : CString) (scale maxSize : F) :
    Prop where
  greatest : IsGreatest {k | k ≤ text.length ∧ calcTextSize (text.take k) scale < maxSize}
    (findLowerCharacterBound calcTextSize text scale maxSize)
  fits : calcTextSize
    (splitAt text (findLowerCharacterBound calcTextSize text scale maxSize)).1 scale < maxSize

/-- **Line breaks**: a text is broken where it should be exactly if it need not be broken, being
narrower than the place as a whole. -/
theorem breaksRight_iff (calcTextSize : CString → F → F) (text : CString) (scale maxSize : F)
    (hgrows : GrowsWith calcTextSize text scale) :
    BreaksRight calcTextSize text scale maxSize ↔ calcTextSize text scale < maxSize := by
  constructor
  · intro h
    refine lt_of_not_ge fun hwhole => ?_
    exact absurd h.greatest.1.2 (not_lt.mpr (cut_not_lt hgrows hwhole))
  · intro hwhole
    have hlength := findLowerCharacterBound_of_lt hgrows hwhole
    constructor
    · rw [hlength]
      refine ⟨⟨Nat.le_refl _, ?_⟩, fun k hk => hk.1⟩
      rwa [List.take_length]
    · rwa [hlength, splitAt_eq, List.take_length]

end Fits

/-! ### Characters of one width -/

/-- Every character is ten wide. -/
def monospaced (text : CString) (_ : Int) : Int := 10 * text.length

theorem growsWith_monospaced (text : CString) (scale : Int) : GrowsWith monospaced text scale := by
  intro i j hij
  simp only [monospaced, List.length_take]
  omega

theorem breaksRight_iff_short : BreaksRight monospaced [97, 98, 99] 1 35 :=
  (breaksRight_iff monospaced [97, 98, 99] 1 35 (growsWith_monospaced _ _)).mpr (by decide)

/-- One character of `abc` fits into 15, but `ab` is cut off, which is 20 wide. -/
theorem cut_too_late :
    findLowerCharacterBound monospaced [97, 98, 99] 1 15 = 2 ∧
      ¬BreaksRight monospaced [97, 98, 99] 1 15 := by
  have hbound : findLowerCharacterBound monospaced [97, 98, 99] 1 15 = 2 := by
    simp [findLowerCharacterBound, partitionPoint, monospaced]
  refine ⟨hbound, fun h => ?_⟩
  have hfits := h.fits
  rw [hbound] at hfits
  exact absurd hfits (by decide)

end Globed.Client
