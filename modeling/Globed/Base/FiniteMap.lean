import Mathlib.Data.Finset.Card
import Mathlib.Data.Finset.Dedup
import Mathlib.Data.List.Sort

/-!
# Finite maps

A finite map is its lookup function together with the finite set of its keys, so two maps with the
same lookups are equal (`FiniteMap.ext`). A hash table visits its entries in an order that its
interface leaves open: `IterOrder` is any such order, and `FiniteMap.entries` lists a map along
one. Nothing that holds for every `IterOrder` depends on the hash.
-/

/-- A map with finitely many keys. -/
structure FiniteMap (K V : Type) where
  get : K → Option V
  keys : Finset K
  mem_keys : ∀ k, k ∈ keys ↔ (get k).isSome = true

/-- An order in which the keys of a map are visited, each of them once. -/
structure IterOrder (K : Type) where
  list : Finset K → List K
  nodup : ∀ s, (list s).Nodup
  mem : ∀ s k, k ∈ list s ↔ k ∈ s

/-- The order of an arbitrary enumeration. -/
noncomputable def IterOrder.any (K : Type) : IterOrder K where
  list := Finset.toList
  nodup := Finset.nodup_toList
  mem _ _ := Finset.mem_toList

/-- The order from the least key to the greatest. -/
def IterOrder.sorted (K : Type) [LE K] [DecidableLE K] [Std.IsLinearOrder K] : IterOrder K where
  list s := Quot.liftOn s.val (List.insertionSort (· ≤ ·)) fun l l' h => by
    have : IsTrans K (· ≤ ·) := ⟨fun _ _ _ => Std.le_trans⟩
    have hperm : (l.insertionSort (· ≤ ·)).Perm (l'.insertionSort (· ≤ ·)) :=
      ((l.perm_insertionSort _).trans h).trans (l'.perm_insertionSort _).symm
    exact hperm.eq_of_pairwise' (l.pairwise_insertionSort _) (l'.pairwise_insertionSort _)
  nodup s := by
    obtain ⟨⟨l⟩, h⟩ := s
    exact ((l.perm_insertionSort _).nodup_iff).mpr h
  mem s k := by
    obtain ⟨⟨l⟩, h⟩ := s
    exact (l.perm_insertionSort _).mem_iff

namespace FiniteMap

variable {K V W : Type}

@[ext]
theorem ext {m m' : FiniteMap K V} (h : ∀ k, m.get k = m'.get k) : m = m' := by
  obtain ⟨g, s, hs⟩ := m
  obtain ⟨g', s', hs'⟩ := m'
  obtain rfl : g = g' := funext h
  obtain rfl : s = s' := Finset.ext fun k => by rw [hs, hs']
  rfl

/-- The map has a value at `k`. -/
def contains (m : FiniteMap K V) (k : K) : Bool := (m.get k).isSome

/-- The number of entries. -/
def size (m : FiniteMap K V) : Nat := m.keys.card

def isEmpty (m : FiniteMap K V) : Bool := m.size == 0

/-- The map without entries. -/
def empty : FiniteMap K V where
  get _ := none
  keys := ∅
  mem_keys := by simp

@[simp] theorem get_empty (k : K) : (empty : FiniteMap K V).get k = none := rfl

@[simp] theorem size_empty : (empty : FiniteMap K V).size = 0 := rfl

theorem contains_iff {m : FiniteMap K V} {k : K} : m.contains k = true ↔ ∃ v, m.get k = some v :=
  Option.isSome_iff_exists

@[simp] theorem contains_eq_false {m : FiniteMap K V} {k : K} :
    m.contains k = false ↔ m.get k = none := by
  simp [contains]

/-! ## Updates -/

section Updates

variable [DecidableEq K]

/-- Insert an entry, over one that is there. -/
def insert (m : FiniteMap K V) (k : K) (v : V) : FiniteMap K V where
  get j := if j = k then some v else m.get j
  keys := Insert.insert k m.keys
  mem_keys j := by
    by_cases h : j = k
    · simp [h]
    · simp [h, m.mem_keys]

/-- Insert an entry, unless there is one with the same key. -/
def insertIfNew (m : FiniteMap K V) (k : K) (v : V) : FiniteMap K V :=
  if m.contains k then m else m.insert k v

/-- Remove the entry at `k`, if there is one. -/
def erase (m : FiniteMap K V) (k : K) : FiniteMap K V where
  get j := if j = k then none else m.get j
  keys := m.keys.erase k
  mem_keys j := by
    by_cases h : j = k
    · simp [h]
    · simp [h, m.mem_keys]

/-- Replace the value at `k`, if there is one. -/
def modify (m : FiniteMap K V) (k : K) (f : V → V) : FiniteMap K V where
  get j := if j = k then (m.get j).map f else m.get j
  keys := m.keys
  mem_keys j := by
    by_cases h : j = k <;> simp [h, m.mem_keys]

@[simp] theorem get_insert (m : FiniteMap K V) (k : K) (v : V) (j : K) :
    (m.insert k v).get j = if j = k then some v else m.get j := rfl

@[simp] theorem get_erase (m : FiniteMap K V) (k j : K) :
    (m.erase k).get j = if j = k then none else m.get j := rfl

@[simp] theorem get_modify (m : FiniteMap K V) (k : K) (f : V → V) (j : K) :
    (m.modify k f).get j = if j = k then (m.get j).map f else m.get j := rfl

theorem insertIfNew_of_get_none {m : FiniteMap K V} {k : K} (v : V) (h : m.get k = none) :
    m.insertIfNew k v = m.insert k v := by
  simp [insertIfNew, h]

theorem get_insert_self (m : FiniteMap K V) (k : K) (v : V) : (m.insert k v).get k = some v := by
  simp

theorem get_insert_of_ne (m : FiniteMap K V) {k j : K} (v : V) (h : j ≠ k) :
    (m.insert k v).get j = m.get j := by
  simp [h]

theorem get_erase_of_ne (m : FiniteMap K V) {k j : K} (h : j ≠ k) :
    (m.erase k).get j = m.get j := by
  simp [h]

theorem get_modify_of_ne (m : FiniteMap K V) {k j : K} (f : V → V) (h : j ≠ k) :
    (m.modify k f).get j = m.get j := by
  simp [h]

@[simp] theorem size_modify (m : FiniteMap K V) (k : K) (f : V → V) :
    (m.modify k f).size = m.size := rfl

/-- Removing a key that is not there changes nothing. -/
theorem erase_of_get_none {m : FiniteMap K V} {k : K} (h : m.get k = none) : m.erase k = m := by
  ext1 j
  by_cases hj : j = k
  · simp [hj, h]
  · simp [hj]

/-- Inserting what is there changes nothing. -/
theorem insert_of_get {m : FiniteMap K V} {k : K} {v : V} (h : m.get k = some v) :
    m.insert k v = m := by
  ext1 j
  by_cases hj : j = k
  · simp [hj, h]
  · simp [hj]

/-- An insertion that is undone leaves the map as it was, if the key was free. -/
theorem erase_insert {m : FiniteMap K V} {k : K} {v : V} (h : m.get k = none) :
    (m.insert k v).erase k = m := by
  ext1 j
  by_cases hj : j = k
  · simp [hj, h]
  · simp [hj]

/-- Modifying a key that is not there changes nothing. -/
theorem modify_of_get_none {m : FiniteMap K V} {k : K} {f : V → V} (h : m.get k = none) :
    m.modify k f = m := by
  ext1 j
  by_cases hj : j = k
  · simp [hj, h]
  · simp [hj]

theorem insert_insert_self (m : FiniteMap K V) (k : K) (v w : V) :
    (m.insert k v).insert k w = m.insert k w := by
  ext1 j
  by_cases hj : j = k <;> simp [hj]

theorem modify_insert_self (m : FiniteMap K V) (k : K) (v : V) (f : V → V) :
    (m.insert k v).modify k f = m.insert k (f v) := by
  ext1 j
  by_cases hj : j = k <;> simp [hj]

end Updates

/-! ## Entries -/

/-- Keep the entries that satisfy `p`. -/
def retain (m : FiniteMap K V) (p : K → V → Bool) : FiniteMap K V where
  get k := (m.get k).filter (p k)
  keys := m.keys.filter fun k => ((m.get k).filter (p k)).isSome = true
  mem_keys k := by
    simp only [Finset.mem_filter, m.mem_keys]
    cases m.get k <;> simp

@[simp] theorem get_retain (m : FiniteMap K V) (p : K → V → Bool) (k : K) :
    (m.retain p).get k = (m.get k).filter (p k) := rfl

/-- Replace every value. -/
def map (m : FiniteMap K V) (f : K → V → W) : FiniteMap K W where
  get k := (m.get k).map (f k)
  keys := m.keys
  mem_keys k := by rw [m.mem_keys, Option.isSome_map]

@[simp] theorem get_map (m : FiniteMap K V) (f : K → V → W) (k : K) :
    (m.map f).get k = (m.get k).map (f k) := rfl

@[simp] theorem size_map (m : FiniteMap K V) (f : K → V → W) : (m.map f).size = m.size := rfl

@[simp] theorem contains_map (m : FiniteMap K V) (f : K → V → W) (k : K) :
    (m.map f).contains k = m.contains k :=
  Option.isSome_map

/-- Replace the values, and remove those for which there is no new one. -/
def filterMap (m : FiniteMap K V) (f : K → V → Option W) : FiniteMap K W where
  get k := (m.get k).bind (f k)
  keys := m.keys.filter fun k => ((m.get k).bind (f k)).isSome = true
  mem_keys k := by
    simp only [Finset.mem_filter, m.mem_keys]
    cases m.get k <;> simp

@[simp] theorem get_filterMap (m : FiniteMap K V) (f : K → V → Option W) (k : K) :
    (m.filterMap f).get k = (m.get k).bind (f k) := rfl

/-- Retaining entries that all satisfy the condition changes nothing. -/
theorem retain_eq_self {m : FiniteMap K V} {p : K → V → Bool}
    (h : ∀ k v, m.get k = some v → p k v = true) : m.retain p = m := by
  ext1 k
  rw [get_retain]
  cases hk : m.get k with
  | none => rfl
  | some v => simp [h k v hk]

/-- The entries of `m`, visited in the order `o`. -/
def entries (o : IterOrder K) (m : FiniteMap K V) : List (K × V) :=
  (o.list m.keys).filterMap fun k => (m.get k).map (k, ·)

@[simp] theorem mem_entries {o : IterOrder K} {m : FiniteMap K V} {k : K} {v : V} :
    (k, v) ∈ m.entries o ↔ m.get k = some v := by
  simp only [entries, List.mem_filterMap, o.mem, m.mem_keys, Option.map_eq_some_iff, Prod.mk.injEq]
  constructor
  · rintro ⟨j, -, w, hw, rfl, rfl⟩
    exact hw
  · intro h
    exact ⟨k, by simp [h], v, h, rfl, rfl⟩

/-- Every key of the map is visited exactly once. -/
theorem map_fst_entries (o : IterOrder K) (m : FiniteMap K V) :
    (m.entries o).map Prod.fst = o.list m.keys := by
  have h : ∀ k ∈ o.list m.keys, ∃ v, m.get k = some v := fun k hk =>
    Option.isSome_iff_exists.mp ((m.mem_keys k).mp ((o.mem _ _).mp hk))
  unfold entries
  generalize o.list m.keys = l at h
  induction l with
  | nil => rfl
  | cons k l ih =>
    obtain ⟨v, hv⟩ := h k List.mem_cons_self
    simp [hv, ih fun j hj => h j (List.mem_cons_of_mem k hj)]

theorem entries_map (o : IterOrder K) (m : FiniteMap K V) (f : K → V → W) :
    (m.map f).entries o = (m.entries o).map fun e => (e.1, f e.1 e.2) := by
  have hlist : o.list (m.map f).keys = o.list m.keys := rfl
  rw [entries, entries, List.map_filterMap, hlist]
  refine List.filterMap_congr fun k _ => ?_
  rw [get_map, Option.map_map, Option.map_map]
  rfl

theorem nodup_keys_entries (o : IterOrder K) (m : FiniteMap K V) :
    ((m.entries o).map Prod.fst).Nodup := by
  rw [map_fst_entries]
  exact o.nodup m.keys

theorem length_entries (o : IterOrder K) (m : FiniteMap K V) : (m.entries o).length = m.size := by
  classical
  have h : (o.list m.keys).toFinset = m.keys := by
    ext k
    rw [List.mem_toFinset, o.mem]
  rw [← List.length_map (f := Prod.fst), map_fst_entries, size, ← h,
    List.toFinset_card_of_nodup (o.nodup m.keys), h]

/-- A map with one entry. -/
theorem entries_singleton [DecidableEq K] (o : IterOrder K) (k : K) (v : V) :
    (empty.insert k v).entries o = [(k, v)] := by
  have hkeys : o.list (empty.insert k v : FiniteMap K V).keys = [k] := by
    rw [← List.perm_singleton, List.perm_ext_iff_of_nodup (o.nodup _) (List.nodup_singleton k)]
    intro j
    simp [o.mem, mem_keys]
  rw [entries, hkeys]
  simp

theorem isEmpty_iff {m : FiniteMap K V} : m.isEmpty = true ↔ ∀ k, m.get k = none := by
  simp only [isEmpty, size, beq_iff_eq, Finset.card_eq_zero, Finset.eq_empty_iff_forall_notMem,
    m.mem_keys]
  simp

theorem isEmpty_eq_false_of_get {m : FiniteMap K V} {k : K} {v : V} (h : m.get k = some v) :
    m.isEmpty = false := by
  rw [← Bool.not_eq_true, isEmpty_iff]
  intro hn
  rw [hn] at h
  cases h

/-! ## Maps from lists -/

section InsertAll

variable [DecidableEq K]

/-- Insert the entries of a list one after the other, each unless there is one with the same
key. -/
def insertAll (m : FiniteMap K V) (l : List (K × V)) : FiniteMap K V :=
  l.foldl (fun m p => m.insertIfNew p.1 p.2) m

theorem insertAll_cons (m : FiniteMap K V) (p : K × V) (l : List (K × V)) :
    m.insertAll (p :: l) = (m.insertIfNew p.1 p.2).insertAll l := rfl

/-- If no key occurs twice, every entry is inserted. -/
theorem get_insertAll {m : FiniteMap K V} {l : List (K × V)} (hl : (l.map Prod.fst).Nodup)
    (hm : ∀ p ∈ l, m.get p.1 = none) (k : K) (v : V) :
    (m.insertAll l).get k = some v ↔ m.get k = some v ∨ (k, v) ∈ l := by
  induction l generalizing m with
  | nil => simp [insertAll]
  | cons p l ih =>
    obtain ⟨k₀, v₀⟩ := p
    rw [List.map_cons, List.nodup_cons] at hl
    obtain ⟨hnew, hl⟩ := hl
    have hfree : m.get k₀ = none := hm _ List.mem_cons_self
    have hm' : ∀ p ∈ l, (m.insert k₀ v₀).get p.1 = none := by
      intro p hp
      have hne : p.1 ≠ k₀ := by
        intro heq
        exact hnew (List.mem_map.mpr ⟨p, hp, heq⟩)
      rw [get_insert_of_ne m v₀ hne]
      exact hm p (List.mem_cons_of_mem _ hp)
    rw [insertAll_cons, insertIfNew_of_get_none v₀ hfree, ih hl hm', get_insert, List.mem_cons,
      Prod.mk.injEq]
    by_cases hk : k = k₀
    · subst hk
      rw [if_pos rfl, hfree]
      constructor
      · rintro (h | h)
        · cases h
          exact .inr (.inl ⟨rfl, rfl⟩)
        · exact .inr (.inr h)
      · rintro (h | ⟨-, rfl⟩ | h)
        · cases h
        · exact .inl rfl
        · exact .inr h
    · simp [hk]

theorem get_insertAll_empty {l : List (K × V)} (hl : (l.map Prod.fst).Nodup) (k : K) (v : V) :
    (empty.insertAll l).get k = some v ↔ (k, v) ∈ l := by
  rw [get_insertAll hl fun _ _ => rfl]
  simp

end InsertAll

end FiniteMap
