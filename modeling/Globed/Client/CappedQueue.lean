import Mathlib.Data.List.DropRight
import Mathlib.Data.List.Induction

/-!
# Queues of limited size

`CappedQueue` and `CCCappedQueue` of `data/capped_queue.hpp`. Both keep the newest elements. The
`extract` of `CCCappedQueue` returns them, but the one of `CappedQueue` makes room for as many
elements first, which stay in front of those that it appends (`keepsNewest_iff`).
-/

namespace Globed.Client

/-! ## The newest elements -/

section Newest

variable {T : Type} {n : Nat} {elements : List T}

theorem length_rtake (n : Nat) (elements : List T) :
    (elements.rtake n).length = min n elements.length := by
  rw [List.rtake, List.length_drop]
  omega

/-- One more element drives the oldest one out, once there are `n` of them. -/
theorem rtake_concat (hn : 0 < n) (elements : List T) (element : T) :
    (elements ++ [element]).rtake n =
      (if n ≤ (elements.rtake n).length then (elements.rtake n).tail else elements.rtake n) ++
        [element] := by
  obtain ⟨m, rfl⟩ := Nat.exists_eq_succ_of_ne_zero (Nat.ne_of_gt hn)
  rw [List.rtake_concat_succ, length_rtake]
  congr 1
  split
  · next h =>
    rw [List.rtake, List.rtake, List.tail_drop]
    congr 1
    omega
  · next h =>
    have hm : elements.length - m = 0 := by omega
    have hm' : elements.length - (m + 1) = 0 := by omega
    rw [List.rtake, List.rtake, hm, hm']

end Newest

/-! ## The queues -/

/-- The elements of the `std::queue`, oldest first. -/
structure CappedQueue (T : Type) (maxSize : Nat) where
  queue : List T
  deriving DecidableEq

/-- A queue of pointers to objects. -/
abbrev CCCappedQueue (T : Type) (maxSize : Nat) := CappedQueue T maxSize

/-- The loop of `extract`, which empties a copy of the queue. -/
def extractLoop {T : Type} (out : List T) : List T → List T
  | [] => out
  | element :: qcopy => extractLoop (out ++ [element]) qcopy

namespace CappedQueue

variable {T : Type} {maxSize : Nat}

def new : CappedQueue T maxSize := ⟨[]⟩

def size (q : CappedQueue T maxSize) : Nat := q.queue.length

def push (q : CappedQueue T maxSize) (element : T) : CappedQueue T maxSize :=
  let queue := if q.size ≥ maxSize then q.queue.tail else q.queue
  ⟨queue ++ [element]⟩

/-- `out` is made with as many elements as the queue has. -/
def extract [Inhabited T] (q : CappedQueue T maxSize) : List T × CappedQueue T maxSize :=
  (extractLoop (List.replicate q.size default) q.queue, q)

end CappedQueue

/-- What is called on an object. -/
inductive ObjectCall (T : Type)
  | retain (obj : T)
  | release (obj : T)
  | removeFromParent (obj : T)
  deriving DecidableEq

namespace CCCappedQueue

variable {T : Type} {maxSize : Nat}

/-- The oldest object is released, and a node is removed from its parent. There is one, unless
`maxSize` is 0. -/
def pop (isNode : T → Bool) (q : CCCappedQueue T maxSize) :
    List (ObjectCall T) × CCCappedQueue T maxSize :=
  match q.queue with
  | [] => ([], q)
  | obj :: queue => (.release obj :: if isNode obj then [.removeFromParent obj] else [], ⟨queue⟩)

/-- The calls on the objects are returned with the queue. -/
def push (isNode : T → Bool) (q : CCCappedQueue T maxSize) (element : T) :
    List (ObjectCall T) × CCCappedQueue T maxSize :=
  let (calls, q) := if q.size ≥ maxSize then pop isNode q else ([], q)
  (calls ++ [.retain element], ⟨q.queue ++ [element]⟩)

def extract (q : CCCappedQueue T maxSize) : List T × CCCappedQueue T maxSize :=
  (extractLoop [] q.queue, q)

end CCCappedQueue

/-! ## Pushes and extracts -/

section Calls

variable {T : Type} {maxSize : Nat} {q : CappedQueue T maxSize} {elements : List T}

theorem extractLoop_eq (out queue : List T) : extractLoop out queue = out ++ queue := by
  induction queue generalizing out with
  | nil => rw [extractLoop, List.append_nil]
  | cons element qcopy ih => rw [extractLoop, ih, List.append_assoc, List.singleton_append]

/-- The queue holds the newest of these elements. -/
def Newest (elements : List T) (q : CappedQueue T maxSize) : Prop :=
  q.queue = elements.rtake maxSize

theorem newest_new : Newest ([] : List T) (.new : CappedQueue T maxSize) :=
  (List.rtake_nil _).symm

theorem Newest.size_le (h : Newest elements q) : q.size ≤ maxSize := by
  rw [CappedQueue.size, h, length_rtake]
  exact Nat.min_le_left _ _

theorem Newest.push (h : Newest elements q) (hmax : 0 < maxSize) (element : T) :
    Newest (elements ++ [element]) (q.push element) := by
  rw [Newest, rtake_concat hmax, CappedQueue.push, CappedQueue.size, h]

/-- The objects that are released by calls. -/
def released (calls : List (ObjectCall T)) : List T :=
  calls.filterMap fun call =>
    match call with
    | .release obj => some obj
    | .retain _ | .removeFromParent _ => none

theorem released_append (calls calls' : List (ObjectCall T)) :
    released (calls ++ calls') = released calls ++ released calls' :=
  List.filterMap_append

/-- Both queues make room in the same way; the objects that this queue lets go of are released. -/
theorem ccPush_eq (isNode : T → Bool) (q : CCCappedQueue T maxSize) (element : T) :
    (CCCappedQueue.push isNode q element).2 = CappedQueue.push q element ∧
      released (CCCappedQueue.push isNode q element).1 ++
        (CCCappedQueue.push isNode q element).2.queue = q.queue ++ [element] := by
  obtain ⟨queue⟩ := q
  unfold CCCappedQueue.push CCCappedQueue.pop CappedQueue.push CappedQueue.size
  by_cases h : maxSize ≤ queue.length
  · cases queue with
    | nil => simp [released]
    | cons obj queue =>
      simp only [List.length_cons] at h
      cases isNode obj <;> simp [released, h]
  · simp [released, h]

theorem extract_eq [Inhabited T] (h : Newest elements q) :
    q.extract = (List.replicate q.size default ++ elements.rtake maxSize, q) := by
  rw [CappedQueue.extract, extractLoop_eq, h]

theorem ccExtract_eq (h : Newest elements q) :
    CCCappedQueue.extract q = (elements.rtake maxSize, q) := by
  rw [CCCappedQueue.extract, extractLoop_eq, h, List.nil_append]

end Calls

/-! ## Runs -/

/-- The two queues. -/
inductive Variant
  | cappedQueue
  | ccCappedQueue
  deriving DecidableEq

section Runs

variable {T : Type} {maxSize : Nat}

def Variant.push (isNode : T → Bool) :
    Variant → CappedQueue T maxSize → T → CappedQueue T maxSize
  | cappedQueue, q, element => q.push element
  | ccCappedQueue, q, element => (CCCappedQueue.push isNode q element).2

/-- The queue after these elements were pushed. -/
def Variant.run (isNode : T → Bool) (variant : Variant) (maxSize : Nat) (elements : List T) :
    CappedQueue T maxSize :=
  elements.foldl (variant.push isNode) .new

theorem push_variant (isNode : T → Bool) (variant : Variant) (q : CappedQueue T maxSize)
    (element : T) : variant.push isNode q element = q.push element := by
  cases variant with
  | cappedQueue => rfl
  | ccCappedQueue => exact (ccPush_eq isNode q element).1

/-- The run lemma: the queue holds the newest elements after any number of pushes. -/
theorem newest_run (isNode : T → Bool) (variant : Variant) (hmax : 0 < maxSize)
    (elements : List T) : Newest elements (variant.run isNode maxSize elements) := by
  induction elements using List.reverseRecOn with
  | nil => exact newest_new
  | append_singleton elements element ih =>
    rw [Variant.run, List.foldl_append, List.foldl_cons, List.foldl_nil, push_variant]
    exact ih.push hmax element

/-- The calls of any number of pushes. -/
def CCCappedQueue.pushAll (isNode : T → Bool) (q : CCCappedQueue T maxSize) :
    List T → List (ObjectCall T) × CCCappedQueue T maxSize
  | [] => ([], q)
  | element :: elements =>
    let (calls, q) := CCCappedQueue.push isNode q element
    let (calls', q) := pushAll isNode q elements
    (calls ++ calls', q)

theorem pushAll_queue (isNode : T → Bool) (q : CCCappedQueue T maxSize) (elements : List T) :
    (CCCappedQueue.pushAll isNode q elements).2 =
      elements.foldl (Variant.ccCappedQueue.push isNode) q := by
  induction elements generalizing q with
  | nil => rfl
  | cons element elements ih => exact ih (CCCappedQueue.push isNode q element).2

/-- Every object that was pushed is in the queue or was released. -/
theorem released_pushAll (isNode : T → Bool) (q : CCCappedQueue T maxSize) (elements : List T) :
    released (CCCappedQueue.pushAll isNode q elements).1 ++
      (CCCappedQueue.pushAll isNode q elements).2.queue = q.queue ++ elements := by
  induction elements generalizing q with
  | nil => rw [CCCappedQueue.pushAll, List.append_nil]; rfl
  | cons element elements ih =>
    have hpush := (ccPush_eq isNode q element).2
    have hrest := ih (CCCappedQueue.push isNode q element).2
    rw [CCCappedQueue.pushAll]
    dsimp only
    rw [released_append, List.append_assoc, hrest, ← List.append_assoc, hpush, List.append_assoc,
      List.singleton_append]

/-- The objects that are released are the older ones, each of them once. -/
theorem released_run (isNode : T → Bool) (hmax : 0 < maxSize) (elements : List T) :
    released (CCCappedQueue.pushAll isNode (.new : CCCappedQueue T maxSize) elements).1 =
      elements.rdrop maxSize := by
  have hall := released_pushAll isNode (.new : CCCappedQueue T maxSize) elements
  have hnewest : Newest elements _ := newest_run isNode .ccCappedQueue hmax elements
  rw [pushAll_queue] at hall
  rw [Variant.run, Newest] at hnewest
  rw [hnewest, CappedQueue.new, List.nil_append] at hall
  have hsplit : elements.rdrop maxSize ++ elements.rtake maxSize = elements :=
    List.take_append_drop _ elements
  exact List.append_cancel_right (hall.trans hsplit.symm)

/-- The last elements, as many as have room. -/
theorem drop_eq_rtake (elements : List T) (n : Nat) :
    elements.drop (elements.length - min elements.length n) = elements.rtake n := by
  rw [List.rtake]
  congr 1
  omega

variable [Inhabited T]

def Variant.extract : Variant → CappedQueue T maxSize → List T × CappedQueue T maxSize
  | cappedQueue, q => q.extract
  | ccCappedQueue, q => CCCappedQueue.extract q

/-- The size is within its limit all along, and `extract` returns the newest elements, oldest
first, and leaves the queue as it is. -/
structure KeepsNewest (isNode : T → Bool) (variant : Variant) (maxSize : Nat)
    (elements : List T) : Prop where
  size_le : ∀ pushed, pushed <+: elements → (variant.run isNode maxSize pushed).size ≤ maxSize
  extract : variant.extract (variant.run isNode maxSize elements) =
    (elements.drop (elements.length - min elements.length maxSize),
      variant.run isNode maxSize elements)

/-- **Capped queues**: a `CCCappedQueue` keeps the newest elements in every run, but a
`CappedQueue` returns them only as long as nothing was pushed. -/
theorem keepsNewest_iff (isNode : T → Bool) (variant : Variant) (hmax : 0 < maxSize)
    (elements : List T) :
    KeepsNewest isNode variant maxSize elements ↔ variant = .ccCappedQueue ∨ elements = [] := by
  have hsize : ∀ pushed, (variant.run isNode maxSize pushed).size ≤ maxSize :=
    fun pushed => (newest_run isNode variant hmax pushed).size_le
  have hnewest := newest_run isNode variant hmax elements
  constructor
  · intro h
    cases variant with
    | ccCappedQueue => exact .inl rfl
    | cappedQueue =>
      have hextract := h.extract
      rw [drop_eq_rtake, Variant.extract, extract_eq hnewest] at hextract
      have hlen := congrArg List.length (Prod.mk.inj hextract).1
      rw [List.length_append, List.length_replicate, CappedQueue.size, hnewest,
        length_rtake] at hlen
      exact .inr (List.length_eq_zero_iff.mp (by omega))
  · rintro (rfl | rfl)
    · refine ⟨fun pushed _ => hsize pushed, ?_⟩
      rw [drop_eq_rtake, Variant.extract, ccExtract_eq hnewest]
    · refine ⟨fun pushed _ => hsize pushed, ?_⟩
      cases variant <;> rfl

/-- Three objects of which two have room. -/
theorem keepsNewest_iff_three :
    KeepsNewest (fun _ => true) .ccCappedQueue 2 [7, 8, (9 : Nat)] :=
  (keepsNewest_iff (fun _ => true) .ccCappedQueue (by decide) [7, 8, 9]).mpr (.inl rfl)

/-- The number 7 is extracted behind a 0 that was never pushed. -/
theorem extract_defaults :
    ((CappedQueue.new : CappedQueue Int32 1).push 7).extract.1 = [0, 7] ∧
      ¬KeepsNewest (fun _ => false) .cappedQueue 1 [(7 : Int32)] := by
  refine ⟨by decide, fun h => ?_⟩
  exact absurd h.extract (by decide)

end Runs

end Globed.Client
