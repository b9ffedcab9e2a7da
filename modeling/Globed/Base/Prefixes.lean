import Mathlib.Computability.Language

/-!
# Prefixes in a language

A deterministic parser that reads a text from its start finds the one string of its language that
the text starts with (`Starts`), or there is none (`StartsNot`). Both are composed along products
and powers of languages, and along languages that are chosen by what was read before (`tagged`).
-/

namespace Prefixes

variable {α ι : Type} {L L' : Language α} {text bs bs' rest : List α}

/-- `bs` is the one string of the language that the text starts with. -/
structure Starts (L : Language α) (text bs : List α) : Prop where
  mem : bs ∈ L
  isPrefix : bs <+: text
  unique : ∀ bs' ∈ L, bs' <+: text → bs' = bs

/-- The text starts with no string of the language. -/
def StartsNot (L : Language α) (text : List α) : Prop := ∀ bs ∈ L, ¬bs <+: text

theorem startsNot_zero (text : List α) : StartsNot (0 : Language α) text :=
  fun bs h => absurd h (Language.notMem_zero bs)

/-! ## Strings of one length -/

/-- All strings of `n` letters. -/
def ofLength (n : Nat) : Language α := {bs | bs.length = n}

@[simp] theorem mem_ofLength {n : Nat} : bs ∈ (ofLength n : Language α) ↔ bs.length = n := .rfl

theorem starts_ofLength (bs rest : List α) : Starts (ofLength bs.length) (bs ++ rest) bs where
  mem := rfl
  isPrefix := List.prefix_append bs rest
  unique _ hlen hpre := List.IsPrefix.eq_of_length
    (List.prefix_of_prefix_length_le hpre (List.prefix_append bs rest) (Nat.le_of_eq hlen)) hlen

theorem startsNot_ofLength {n : Nat} (h : text.length < n) :
    StartsNot (ofLength n : Language α) text := by
  intro bs hlen hpre
  have hle := hpre.length_le
  rw [mem_ofLength] at hlen
  omega

theorem ofLength_add (m n : Nat) :
    (ofLength (m + n) : Language α) = ofLength m * ofLength n := by
  ext bs
  rw [Language.mem_mul]
  constructor
  · intro h
    rw [mem_ofLength] at h
    refine ⟨bs.take m, ?_, bs.drop m, ?_, List.take_append_drop m bs⟩
    · rw [mem_ofLength, List.length_take]
      omega
    · rw [mem_ofLength, List.length_drop]
      omega
  · rintro ⟨a, ha, b, hb, rfl⟩
    rw [mem_ofLength] at ha hb ⊢
    rw [List.length_append, ha, hb]

/-! ## Products -/

theorem Starts.mul (h : Starts L (bs ++ rest) bs) (h' : Starts L' rest bs') :
    Starts (L * L') (bs ++ rest) (bs ++ bs') where
  mem := Language.append_mem_mul h.mem h'.mem
  isPrefix := (List.prefix_append_right_inj bs).mpr h'.isPrefix
  unique c hc hpre := by
    obtain ⟨a, ha, b, hb, rfl⟩ := Language.mem_mul.mp hc
    obtain rfl := h.unique a ha ((List.prefix_append a b).trans hpre)
    rw [List.prefix_append_right_inj] at hpre
    rw [h'.unique b hb hpre]

theorem StartsNot.mul (h : StartsNot L text) (L' : Language α) : StartsNot (L * L') text := by
  intro c hc hpre
  obtain ⟨a, ha, b, -, rfl⟩ := Language.mem_mul.mp hc
  exact h a ha ((List.prefix_append a b).trans hpre)

theorem Starts.mul_startsNot (h : Starts L (bs ++ rest) bs) (h' : StartsNot L' rest) :
    StartsNot (L * L') (bs ++ rest) := by
  intro c hc hpre
  obtain ⟨a, ha, b, hb, rfl⟩ := Language.mem_mul.mp hc
  obtain rfl := h.unique a ha ((List.prefix_append a b).trans hpre)
  exact h' b hb ((List.prefix_append_right_inj a).mp hpre)

/-- The empty string. -/
theorem starts_one (text : List α) : Starts (1 : Language α) text [] where
  mem := rfl
  isPrefix := List.nil_prefix
  unique _ h _ := h

/-! ## Tags -/

/-- A tag, and then a string of the language that the tag chooses. -/
def tagged (tag : ι → List α) (L : ι → Language α) : Language α :=
  {bs | ∃ i, ∃ b ∈ L i, bs = tag i ++ b}

section Tagged

variable {tag : ι → List α} {L : ι → Language α} {n : Nat}

theorem tag_inj (hlen : ∀ i, (tag i).length = n) (hinj : Function.Injective tag) {i j : ι}
    (h : tag j <+: tag i ++ rest) : j = i := by
  apply hinj
  apply (starts_ofLength (tag i) rest).unique _ _ h
  rw [mem_ofLength, hlen, hlen]

theorem Starts.tagged (hlen : ∀ i, (tag i).length = n) (hinj : Function.Injective tag) {i : ι}
    (h : Starts (L i) rest bs) : Starts (tagged tag L) (tag i ++ rest) (tag i ++ bs) where
  mem := ⟨i, bs, h.mem, rfl⟩
  isPrefix := (List.prefix_append_right_inj _).mpr h.isPrefix
  unique c hc hpre := by
    obtain ⟨j, b, hb, rfl⟩ := hc
    obtain rfl := tag_inj hlen hinj ((List.prefix_append (tag j) b).trans hpre)
    rw [List.prefix_append_right_inj] at hpre
    rw [h.unique b hb hpre]

theorem StartsNot.tagged (hlen : ∀ i, (tag i).length = n) (hinj : Function.Injective tag) {i : ι}
    (h : StartsNot (L i) rest) : StartsNot (Prefixes.tagged tag L) (tag i ++ rest) := by
  rintro c ⟨j, b, hb, rfl⟩ hpre
  obtain rfl := tag_inj hlen hinj ((List.prefix_append (tag j) b).trans hpre)
  exact h b hb ((List.prefix_append_right_inj (tag j)).mp hpre)

/-- There is no tag. -/
theorem startsNot_tagged (h : ∀ i, ¬tag i <+: text) : StartsNot (tagged tag L) text := by
  rintro c ⟨j, b, -, rfl⟩ hpre
  exact h j ((List.prefix_append (tag j) b).trans hpre)

end Tagged

end Prefixes
