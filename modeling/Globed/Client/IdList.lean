import Globed.Base.FiniteMap
import Mathlib.Algebra.Ring.Int.Defs
import Mathlib.Data.Finset.Basic
import Mathlib.Data.Finset.Insert
import Mathlib.Data.List.TakeWhile

/-!
# Lists of ids as text

`parseIdList` and `serialzieIdList` of `util.cpp`: a set of ids as decimal numbers with commas
between them. Whatever the order in which a set is written, the text is read back as that set
(`parseIdList_serialzieIdList`).
-/

namespace Globed.Client

/-! ## Numbers -/

/-- `std::to_string(int)` -/
def toString (value : Int32) : List Char :=
  if value.toInt < 0 then '-' :: Nat.toDigits 10 value.toInt.natAbs
  else Nat.toDigits 10 value.toInt.natAbs

/-- `isspace` -/
def isSpaceChar (c : Char) : Bool := c = ' ' || ('\t' ≤ c && c ≤ '\r')

/-- The sign of a number and what follows it. -/
def stripSign : List Char → Bool × List Char
  | '-' :: cs => (true, cs)
  | '+' :: cs => (false, cs)
  | cs => (false, cs)

/-- `std::stoi`: leading blanks, a sign, and at least one digit; what follows the digits is ignored.
It throws if there is no number, or if the number is no `int`. -/
def stoi (str : List Char) : Option Int32 :=
  let (negative, str) := stripSign (str.dropWhile isSpaceChar)
  let digits := str.takeWhile Char.isDigit
  if digits.isEmpty then none
  else
    let n : Int := Nat.ofDigitChars 10 digits 0
    let value := if negative then -n else n
    if -2 ^ 31 ≤ value ∧ value < 2 ^ 31 then some (Int32.ofInt value) else none

/-! ## Lists -/

/-- The tokens that `std::getline` gets, with a comma as the delimiter, when `token` is read
already: none at the end of the text. -/
def getlines (token : List Char) : List Char → List (List Char)
  | [] => if token.isEmpty then [] else [token]
  | c :: cs => if c = ',' then token :: getlines [] cs else getlines (token ++ [c]) cs

def parseIdList (str : List Char) : Finset Int32 :=
  ((getlines [] str).foldlM (fun out token => (stoi token).map (insert · out)) ∅).getD ∅

def serialzieIdList (o : IterOrder Int32) (elems : Finset Int32) : List Char :=
  (o.list elems).foldl
    (fun output value => (if output.isEmpty then output else output ++ [',']) ++ toString value) []

/-! ## Reading back -/

theorem isDigit_digits {n : Nat} {c : Char} (h : c ∈ Nat.toDigits 10 n) : c.isDigit = true :=
  Nat.isDigit_of_mem_toDigits (by decide) (by decide) h

theorem toNat_of_isDigit {c : Char} (h : c.isDigit = true) : 48 ≤ c.toNat ∧ c.toNat ≤ 57 := by
  simpa [Char.isDigit, UInt32.le_iff_toNat_le] using h

theorem not_isSpaceChar_of_isDigit {c : Char} (h : c.isDigit = true) : isSpaceChar c = false := by
  obtain ⟨h₁, h₂⟩ := toNat_of_isDigit h
  have hblank : c ≠ ' ' := by
    rintro rfl
    exact absurd h (by decide)
  have hcontrol : ¬c ≤ '\r' := fun hle => absurd (Nat.le_trans h₁ hle) (by decide)
  simp [isSpaceChar, hblank, hcontrol]

/-- What starts with a digit has no sign. -/
theorem stripSign_of_isDigit {c : Char} (h : c.isDigit = true) (cs : List Char) :
    stripSign (c :: cs) = (false, c :: cs) := by
  unfold stripSign
  split
  · rename_i heq
    cases heq
    exact absurd h (by decide)
  · rename_i heq
    cases heq
    exact absurd h (by decide)
  · rfl

theorem takeWhile_digits (n : Nat) :
    (Nat.toDigits 10 n).takeWhile Char.isDigit = Nat.toDigits 10 n := by
  rw [List.takeWhile_eq_self_iff]
  exact fun c hc => isDigit_digits hc

/-- A number is read after its sign. -/
theorem stoi_of_stripSign {str : List Char} {negative : Bool} {value : Int32} {n : Nat}
    (hsign : stripSign (str.dropWhile isSpaceChar) = (negative, Nat.toDigits 10 n))
    (hn : (if negative then -(n : Int) else n) = value.toInt) : stoi str = some value := by
  have hne : (Nat.toDigits 10 n).isEmpty = false := by
    rw [List.isEmpty_eq_false_iff]
    exact Nat.toDigits_ne_nil
  have hrange : -2 ^ 31 ≤ value.toInt ∧ value.toInt < 2 ^ 31 := ⟨value.le_toInt, value.toInt_lt⟩
  simp only [stoi, hsign, takeWhile_digits, hne, Nat.ofDigitChars_ten_toDigits, hn]
  rw [if_neg (by decide), if_pos hrange, Int32.ofInt_toInt]

theorem stoi_toString (value : Int32) : stoi (toString value) = some value := by
  unfold toString
  split
  · have hsign : stripSign (('-' :: Nat.toDigits 10 value.toInt.natAbs).dropWhile isSpaceChar) =
        (true, Nat.toDigits 10 value.toInt.natAbs) := rfl
    refine stoi_of_stripSign hsign ?_
    rw [if_pos rfl]
    omega
  · have hsign : stripSign ((Nat.toDigits 10 value.toInt.natAbs).dropWhile isSpaceChar) =
        (false, Nat.toDigits 10 value.toInt.natAbs) := by
      rcases h : Nat.toDigits 10 value.toInt.natAbs with _ | ⟨c, cs⟩
      · exact absurd h Nat.toDigits_ne_nil
      · have hc : c.isDigit = true := isDigit_digits (h ▸ List.mem_cons_self)
        rw [List.dropWhile_cons_of_neg (by simp [not_isSpaceChar_of_isDigit hc]),
          stripSign_of_isDigit hc]
    refine stoi_of_stripSign hsign ?_
    rw [if_neg (by decide)]
    omega

theorem comma_notMem_toString (value : Int32) : ',' ∉ toString value := by
  have hdigits : ∀ n, ',' ∉ Nat.toDigits 10 n := fun n h => absurd (isDigit_digits h) (by decide)
  unfold toString
  split
  · simp [hdigits]
  · exact hdigits _

theorem toString_ne_nil (value : Int32) : toString value ≠ [] := by
  unfold toString
  split
  · exact List.cons_ne_nil _ _
  · exact Nat.toDigits_ne_nil

theorem getlines_append {cs : List Char} (h : ',' ∉ cs) (token rest : List Char) :
    getlines token (cs ++ rest) = getlines (token ++ cs) rest := by
  induction cs generalizing token with
  | nil => rw [List.append_nil, List.nil_append]
  | cons c cs ih =>
    have hc : c ≠ ',' := fun hc => h (hc ▸ List.mem_cons_self)
    rw [List.cons_append, getlines, if_neg hc, ih fun hmem => h (List.mem_cons_of_mem c hmem),
      List.append_assoc, List.singleton_append]

/-- The text after the first number: each further one comes after a comma. -/
def furtherIds (values : List Int32) : List Char :=
  values.flatMap fun value => ',' :: toString value

theorem getlines_furtherIds {token : List Char} (h : token ≠ []) (values : List Int32) :
    getlines token (furtherIds values) = token :: values.map toString := by
  induction values generalizing token with
  | nil => simp [furtherIds, getlines, h]
  | cons value values ih =>
    have hstep : furtherIds (value :: values) = ',' :: (toString value ++ furtherIds values) := by
      simp [furtherIds]
    rw [hstep, getlines, if_pos rfl, getlines_append (comma_notMem_toString value),
      List.nil_append, ih (toString_ne_nil value), List.map_cons]

theorem foldl_ids {output : List Char} (h : output ≠ []) (values : List Int32) :
    values.foldl (fun output value =>
      (if output.isEmpty then output else output ++ [',']) ++ toString value) output =
      output ++ furtherIds values := by
  induction values generalizing output with
  | nil => simp [furtherIds]
  | cons value values ih =>
    have hne : output.isEmpty = false := List.isEmpty_eq_false_iff.mpr h
    rw [List.foldl_cons, hne, ih (by simp)]
    simp [furtherIds]

/-- The tokens of a list that was written are its ids. -/
theorem getlines_serialzieIdList (o : IterOrder Int32) (elems : Finset Int32) :
    getlines [] (serialzieIdList o elems) = (o.list elems).map toString := by
  unfold serialzieIdList
  cases o.list elems with
  | nil => rfl
  | cons value values =>
    rw [List.foldl_cons, foldl_ids (by simp [toString_ne_nil])]
    change getlines [] (toString value ++ furtherIds values) = _
    rw [getlines_append (comma_notMem_toString value), List.nil_append,
      getlines_furtherIds (toString_ne_nil value), List.map_cons]

theorem foldlM_stoi (values : List Int32) (out : Finset Int32) :
    (values.map toString).foldlM (fun out token => (stoi token).map (insert · out)) out =
      some (values.foldl (fun out value => insert value out) out) := by
  induction values generalizing out with
  | nil => rfl
  | cons value values ih =>
    rw [List.map_cons, List.foldlM_cons, stoi_toString, List.foldl_cons]
    exact ih (insert value out)

theorem mem_foldl_insert {values : List Int32} {out : Finset Int32} {id : Int32} :
    id ∈ values.foldl (fun out value => insert value out) out ↔ id ∈ values ∨ id ∈ out := by
  induction values generalizing out with
  | nil => simp
  | cons value values ih =>
    rw [List.foldl_cons, ih, Finset.mem_insert, List.mem_cons, or_left_comm, or_assoc]

/-- The ids that are read back are those that were written. -/
theorem mem_parseIdList_serialzieIdList (o : IterOrder Int32) (elems : Finset Int32) (id : Int32) :
    id ∈ parseIdList (serialzieIdList o elems) ↔ id ∈ elems := by
  unfold parseIdList
  rw [getlines_serialzieIdList, foldlM_stoi, Option.getD_some, mem_foldl_insert, o.mem]
  simp

/-- **A list survives**: every set of ids is read back as it was, in whatever order it was
written. -/
theorem parseIdList_serialzieIdList (o : IterOrder Int32) (elems : Finset Int32) :
    parseIdList (serialzieIdList o elems) = elems := by
  ext id
  exact mem_parseIdList_serialzieIdList o elems id

end Globed.Client
