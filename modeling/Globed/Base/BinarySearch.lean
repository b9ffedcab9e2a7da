import Mathlib.Logic.Basic

/-!
# Binary search

`partitionPoint` halves an interval of numbers until it is empty. Where a predicate turns from true
to false at most once, it ends at the first number of the interval that does not satisfy it, or at
the end (`lt_partitionPoint_iff`).
-/

namespace BinarySearch

/-- The predicate is tried in the middle, and the search goes on in the upper half or the lower
one. -/
def partitionPoint (p : Nat → Bool) (low high : Nat) : Nat :=
  if low < high then
    let mid := low + (high - low) / 2
    if p mid then partitionPoint p (mid + 1) high else partitionPoint p low mid
  else low
termination_by high - low

section PartitionPoint

variable {p : Nat → Bool} {low high k : Nat}

theorem partitionPoint_mem (h : low ≤ high) :
    low ≤ partitionPoint p low high ∧ partitionPoint p low high ≤ high := by
  fun_induction partitionPoint p low high with
  | case1 low high hlt mid hmid ih =>
    obtain ⟨hlow, hhigh⟩ := ih (by omega)
    exact ⟨by omega, hhigh⟩
  | case2 low high hlt mid hmid ih =>
    obtain ⟨hlow, hhigh⟩ := ih (by omega)
    exact ⟨hlow, by omega⟩
  | case3 low high hge => exact ⟨Nat.le_refl _, h⟩

/-- The numbers below the result are those of the interval that satisfy the predicate. -/
theorem lt_partitionPoint_iff (hp : ∀ i j, i ≤ j → p j = true → p i = true) (hlow : low ≤ k)
    (hhigh : k < high) : k < partitionPoint p low high ↔ p k = true := by
  fun_induction partitionPoint p low high with
  | case1 low high hlt mid hmid ih =>
    by_cases hk : mid + 1 ≤ k
    · exact ih hk hhigh
    · -- what is left of the middle satisfies the predicate, and the search does not come back
      have hle : k ≤ mid := by omega
      have hge : mid + 1 ≤ partitionPoint p (mid + 1) high := (partitionPoint_mem (by omega)).1
      exact ⟨fun _ => hp k mid hle hmid, fun _ => by omega⟩
  | case2 low high hlt mid hmid ih =>
    by_cases hk : k < mid
    · exact ih hlow hk
    · have hle : partitionPoint p low mid ≤ mid := (partitionPoint_mem (by omega)).2
      refine ⟨fun _ => by omega, fun hpk => ?_⟩
      exact absurd (hp mid k (by omega) hpk) hmid
  | case3 low high hge => omega

end PartitionPoint

end BinarySearch
