import Globed.Base.FiniteMap

/-!
# Tickets

A party issues tickets, each under a key that goes out with it, and redeems a ticket when its key
comes back. It keeps the open tickets in a table, and what it did in a `Ledger`. As long as the keys
are new, the table holds exactly the open tickets (`Tracks`): issuing inserts one and redeeming
erases it, so that each ticket is redeemed at most once and only after it was issued.
-/

namespace Tickets

/-- What was issued and what was redeemed, in order. -/
structure Ledger (K V : Type) where
  issued : List (K × V)
  redeemed : List K

namespace Ledger

variable {K V : Type} {l : Ledger K V} {k j : K} {u v : V}

def empty : Ledger K V := ⟨[], []⟩

def issue (l : Ledger K V) (k : K) (v : V) : Ledger K V := { l with issued := l.issued ++ [(k, v)] }

def redeem (l : Ledger K V) (k : K) : Ledger K V := { l with redeemed := l.redeemed ++ [k] }

def keys (l : Ledger K V) : List K := l.issued.map Prod.fst

/-- What `f` tells of the tickets. -/
def map {W : Type} (f : V → W) (l : Ledger K V) : Ledger K W :=
  { l with issued := l.issued.map fun ticket => (ticket.1, f ticket.2) }

/-- The ticket was issued, and not redeemed. -/
def Open (l : Ledger K V) (k : K) (v : V) : Prop := (k, v) ∈ l.issued ∧ k ∉ l.redeemed

@[simp] theorem keys_issue : (l.issue k v).keys = l.keys ++ [k] := by
  simp [keys, issue]

@[simp] theorem keys_redeem : (l.redeem k).keys = l.keys := rfl

section Map

variable {W : Type} (f : V → W)

@[simp] theorem keys_map : (l.map f).keys = l.keys := by
  rw [keys, keys, map, List.map_map]
  rfl

@[simp] theorem redeemed_map : (l.map f).redeemed = l.redeemed := rfl

@[simp] theorem map_redeem : (l.redeem k).map f = (l.map f).redeem k := rfl

theorem map_issue : (l.issue k v).map f = (l.map f).issue k (f v) := by
  simp [map, issue]

theorem mem_issued_map {w : W} :
    (k, w) ∈ (l.map f).issued ↔ ∃ v, (k, v) ∈ l.issued ∧ f v = w := by
  simp [map]

end Map

theorem mem_keys (h : (k, v) ∈ l.issued) : k ∈ l.keys := List.mem_map_of_mem h

/-- A key names one ticket. -/
theorem unique (h : l.keys.Nodup) (hu : (k, u) ∈ l.issued) (hv : (k, v) ∈ l.issued) : u = v := by
  have heq := List.inj_on_of_nodup_map h hu hv rfl
  exact congrArg Prod.snd heq

theorem open_issue_iff (hk : k ∉ l.redeemed) :
    (l.issue k v).Open j u ↔ l.Open j u ∨ j = k ∧ u = v := by
  have hmem : (j, u) ∈ (l.issue k v).issued ↔ (j, u) ∈ l.issued ∨ j = k ∧ u = v := by
    simp [issue]
  constructor
  · rintro ⟨hissued, hnot⟩
    rcases hmem.mp hissued with hold | hnew
    · exact .inl ⟨hold, hnot⟩
    · exact .inr hnew
  · rintro (⟨hold, hnot⟩ | ⟨rfl, rfl⟩)
    · exact ⟨hmem.mpr (.inl hold), hnot⟩
    · exact ⟨hmem.mpr (.inr ⟨rfl, rfl⟩), hk⟩

theorem open_redeem_iff : (l.redeem k).Open j u ↔ l.Open j u ∧ j ≠ k := by
  simp [Open, redeem, and_assoc]

end Ledger

/-! ## The table -/

section Tracks

variable {K V : Type} {table : FiniteMap K V} {l : Ledger K V} {k : K} {v : V}

/-- The table holds the open tickets, and what was redeemed was issued, and redeemed once. -/
structure Tracks (table : FiniteMap K V) (l : Ledger K V) : Prop where
  get_iff : ∀ k v, table.get k = some v ↔ l.Open k v
  distinct : l.keys.Nodup
  issued : ∀ k ∈ l.redeemed, k ∈ l.keys
  once : l.redeemed.Nodup

theorem tracks_empty : Tracks (.empty : FiniteMap K V) .empty where
  get_iff _ _ := ⟨fun h => (nomatch h), fun h => absurd h.1 List.not_mem_nil⟩
  distinct := List.nodup_nil
  issued _ h := absurd h List.not_mem_nil
  once := List.nodup_nil

theorem Tracks.get_eq_none (h : Tracks table l) (hk : k ∉ l.keys) : table.get k = none := by
  apply Option.eq_none_iff_forall_ne_some.mpr
  intro v hv
  exact hk (Ledger.mem_keys ((h.get_iff k v).mp hv).1)

variable [DecidableEq K]

theorem Tracks.issue (h : Tracks table l) (hk : k ∉ l.keys) (v : V) :
    Tracks (table.insertIfNew k v) (l.issue k v) := by
  have hnot : k ∉ l.redeemed := fun hmem => hk (h.issued k hmem)
  constructor
  · intro j u
    rw [FiniteMap.insertIfNew_of_get_none v (h.get_eq_none hk), FiniteMap.get_insert,
      Ledger.open_issue_iff hnot, ← h.get_iff]
    by_cases hj : j = k
    · subst hj
      simp [h.get_eq_none hk, eq_comm]
    · simp [hj]
  · rw [Ledger.keys_issue]
    rw [← List.concat_eq_append]
    exact List.Nodup.concat hk h.distinct
  · intro j hj
    rw [Ledger.keys_issue]
    exact List.mem_append_left _ (h.issued j hj)
  · exact h.once

theorem Tracks.redeem (h : Tracks table l) (hget : table.get k = some v) :
    Tracks (table.erase k) (l.redeem k) := by
  obtain ⟨hissued, hnot⟩ := (h.get_iff k v).mp hget
  constructor
  · intro j u
    rw [FiniteMap.get_erase, Ledger.open_redeem_iff, ← h.get_iff]
    by_cases hj : j = k
    · simp [hj]
    · simp [hj]
  · exact h.distinct
  · intro j hj
    rcases List.mem_append.mp hj with hold | hnew
    · exact h.issued j hold
    · obtain rfl := List.mem_singleton.mp hnew
      exact Ledger.mem_keys hissued
  · change (l.redeemed ++ [k]).Nodup
    rw [← List.concat_eq_append]
    exact List.Nodup.concat hnot h.once

end Tracks

end Tickets
