import Mathlib.Data.List.Induction
import Mathlib.Data.Nat.Bitwise

/-!
# Byte strings

Big-endian numbers, and readers and writers that work on bytes and on single bits, the most
significant bit of a byte first. A byte of which only some bits were read or written is closed
before the next access to whole bytes.
-/

namespace Bytes

/-! ## Big-endian numbers -/

/-- The `n` low bytes of `x`, most significant first. -/
def bigEndian : Nat → Nat → List UInt8
  | 0, _ => []
  | n + 1, x => bigEndian n (x / 256) ++ [UInt8.ofNat x]

/-- The number whose bytes are `bs`, most significant first. -/
def ofBigEndian (bs : List UInt8) : Nat := bs.foldl (fun x b => x * 256 + b.toNat) 0

@[simp] theorem length_bigEndian (n x : Nat) : (bigEndian n x).length = n := by
  induction n generalizing x with
  | zero => rfl
  | succ n ih => simp [bigEndian, ih]

theorem ofBigEndian_append (bs : List UInt8) (b : UInt8) :
    ofBigEndian (bs ++ [b]) = ofBigEndian bs * 256 + b.toNat := by
  simp [ofBigEndian]

theorem ofBigEndian_bigEndian (n x : Nat) : ofBigEndian (bigEndian n x) = x % 256 ^ n := by
  induction n generalizing x with
  | zero => simp [bigEndian, ofBigEndian, Nat.mod_one]
  | succ n ih =>
    have hb : (UInt8.ofNat x).toNat = x % 256 := UInt8.toNat_ofNat
    rw [bigEndian, ofBigEndian_append, ih, hb, Nat.pow_succ, Nat.mul_comm (256 ^ n) 256,
      Nat.mod_mul]
    omega

/-- A number that fits is read back as it was written. -/
theorem ofBigEndian_bigEndian_of_lt {n x : Nat} (h : x < 256 ^ n) :
    ofBigEndian (bigEndian n x) = x := by
  rw [ofBigEndian_bigEndian, Nat.mod_eq_of_lt h]

theorem bigEndian_inj {n a b : Nat} (ha : a < 256 ^ n) (hb : b < 256 ^ n)
    (h : bigEndian n a = bigEndian n b) : a = b := by
  rw [← ofBigEndian_bigEndian_of_lt ha, h, ofBigEndian_bigEndian_of_lt hb]

/-- Only the low bytes count. -/
theorem bigEndian_mod (n x : Nat) : bigEndian n (x % 256 ^ n) = bigEndian n x := by
  induction n generalizing x with
  | zero => rfl
  | succ n ih =>
    have hdiv : x % 256 ^ (n + 1) / 256 = x / 256 % 256 ^ n := by
      rw [Nat.pow_succ, Nat.mul_comm, Nat.mod_mul_right_div_self]
    have hmod : UInt8.ofNat (x % 256 ^ (n + 1)) = UInt8.ofNat x := by
      apply UInt8.toNat_inj.mp
      rw [UInt8.toNat_ofNat', UInt8.toNat_ofNat']
      exact Nat.mod_mod_of_dvd x (Dvd.intro_left (256 ^ n) rfl)
    rw [bigEndian, bigEndian, hdiv, ih, hmod]

theorem ofBigEndian_lt (bs : List UInt8) : ofBigEndian bs < 256 ^ bs.length := by
  induction bs using List.reverseRecOn with
  | nil => simp [ofBigEndian]
  | append_singleton bs b ih =>
    have hb := b.toNat_lt
    rw [ofBigEndian_append, List.length_append, List.length_singleton, Nat.pow_succ]
    omega

theorem bigEndian_ofBigEndian (bs : List UInt8) : bigEndian bs.length (ofBigEndian bs) = bs := by
  induction bs using List.reverseRecOn with
  | nil => rfl
  | append_singleton bs b ih =>
    have hb := b.toNat_lt
    have hd : (ofBigEndian bs * 256 + b.toNat) / 256 = ofBigEndian bs := by omega
    have hm : UInt8.ofNat (ofBigEndian bs * 256 + b.toNat) = b := by
      apply UInt8.toNat_inj.mp
      rw [UInt8.toNat_ofNat']
      omega
    rw [ofBigEndian_append, List.length_append, List.length_singleton, bigEndian, hd, hm, ih]

theorem getElem?_bigEndian (n x i : Nat) :
    (bigEndian n x)[i]? = if i < n then some (UInt8.ofNat (x >>> (8 * (n - 1 - i)))) else none := by
  induction n generalizing x with
  | zero => simp [bigEndian]
  | succ n ih =>
    rw [bigEndian, List.getElem?_append, length_bigEndian, ih]
    by_cases hi : i < n
    · have hshift : x / 256 = x >>> 8 := (Nat.shiftRight_eq_div_pow x 8).symm
      have hk : 8 + 8 * (n - 1 - i) = 8 * (n + 1 - 1 - i) := by omega
      have hi' : i < n + 1 := by omega
      rw [if_pos hi, if_pos hi, if_pos hi', hshift, ← Nat.shiftRight_add, hk]
    · rw [if_neg hi]
      by_cases heq : i = n
      · subst heq
        simp
      · have hlt : ¬i < n + 1 := by omega
        have hpos : ∃ k, i - n = k + 1 := ⟨i - n - 1, by omega⟩
        obtain ⟨k, hk⟩ := hpos
        rw [if_neg hlt, hk]
        rfl

theorem ofNat_eq_of_testBit {a b : Nat} (h : ∀ j < 8, a.testBit j = b.testBit j) :
    UInt8.ofNat a = UInt8.ofNat b := by
  apply UInt8.toNat_inj.mp
  rw [UInt8.toNat_ofNat', UInt8.toNat_ofNat']
  apply Nat.eq_of_testBit_eq
  intro j
  rw [Nat.testBit_mod_two_pow, Nat.testBit_mod_two_pow]
  by_cases hj : j < 8
  · rw [h j hj]
  · simp [hj]

/-- Two numbers whose bytes are each other's in the opposite order. -/
theorem bigEndian_eq_reverse {n a b : Nat}
    (h : ∀ i < n, ∀ j < 8, a.testBit (8 * i + j) = b.testBit (8 * (n - 1 - i) + j)) :
    bigEndian n a = (bigEndian n b).reverse := by
  apply List.ext_getElem?
  intro i
  by_cases hi : i < n
  · have hk : n - 1 - (n - 1 - i) = i := by omega
    have hlt : n - 1 - i < n := by omega
    rw [List.getElem?_reverse (by simpa using hi), length_bigEndian, getElem?_bigEndian,
      getElem?_bigEndian, if_pos hi, if_pos hlt]
    congr 1
    apply ofNat_eq_of_testBit
    intro j hj
    rw [Nat.testBit_shiftRight, Nat.testBit_shiftRight, h _ hlt j hj]
  · rw [List.getElem?_eq_none (by simpa using hi), List.getElem?_eq_none (by simpa using hi)]

/-! ## Bits of a byte -/

/-- The number with the `n` binary digits `bits`, most significant first, missing ones zero. -/
def packBits : Nat → List Bool → Nat
  | 0, _ => 0
  | n + 1, bits => 2 ^ n * (bits.headD false).toNat + packBits n bits.tail

theorem packBits_lt (n : Nat) (bits : List Bool) : packBits n bits < 2 ^ n := by
  induction n generalizing bits with
  | zero => simp [packBits]
  | succ n ih =>
    have h := ih bits.tail
    have hb : (bits.headD false).toNat ≤ 1 := Bool.toNat_le _
    have hm := Nat.mul_le_mul_left (2 ^ n) hb
    rw [packBits, Nat.pow_succ]
    omega

theorem testBit_packBits {n i : Nat} (hi : i < n) (bits : List Bool) :
    (packBits n bits).testBit (n - 1 - i) = bits.getD i false := by
  induction n generalizing i bits with
  | zero => omega
  | succ n ih =>
    rw [packBits, Nat.testBit_two_pow_mul_add _ (packBits_lt n bits.tail)]
    cases i with
    | zero => rcases bits with _ | ⟨_ | _, _⟩ <;> simp
    | succ i =>
      have h : n + 1 - 1 - (i + 1) = n - 1 - i := by omega
      have hlt : n - 1 - i < n := by omega
      rw [h, ite_cond_eq_true _ _ (eq_true hlt), ih (by omega)]
      cases bits <;> simp

/-! ## Writers -/

/-- What was written: whole bytes, and the bits of a byte that is still open. -/
structure BitWriter where
  bytes : List UInt8
  bits : List Bool
  deriving DecidableEq

namespace BitWriter

def empty : BitWriter := ⟨[], []⟩

/-- Close the open byte, filling it with zero bits. -/
def close (w : BitWriter) : BitWriter :=
  if w.bits = [] then w else ⟨w.bytes ++ [UInt8.ofNat (packBits 8 w.bits)], []⟩

/-- Write whole bytes. -/
def put (w : BitWriter) (bs : List UInt8) : BitWriter := ⟨w.close.bytes ++ bs, []⟩

/-- Write one bit. -/
def putBit (w : BitWriter) (b : Bool) : BitWriter :=
  if w.bits.length = 7 then ⟨w.bytes ++ [UInt8.ofNat (packBits 8 (w.bits ++ [b]))], []⟩
  else ⟨w.bytes, w.bits ++ [b]⟩

/-- Bits are collected until the byte is full. -/
theorem putBit_of_length_lt {bs : List UInt8} {bits : List Bool} (h : bits.length < 7) (b : Bool) :
    putBit ⟨bs, bits⟩ b = ⟨bs, bits ++ [b]⟩ := by
  have hne : bits.length ≠ 7 := by omega
  rw [putBit, if_neg hne]

def toBytes (w : BitWriter) : List UInt8 := w.close.bytes

@[simp] theorem close_mk_nil (bs : List UInt8) : close ⟨bs, []⟩ = ⟨bs, []⟩ := rfl

@[simp] theorem close_mk_cons (bs : List UInt8) (b : Bool) (l : List Bool) :
    close ⟨bs, b :: l⟩ = ⟨bs ++ [UInt8.ofNat (packBits 8 (b :: l))], []⟩ := rfl

@[simp] theorem put_mk_nil (bs bs' : List UInt8) : put ⟨bs, []⟩ bs' = ⟨bs ++ bs', []⟩ := rfl

theorem put_eq (w : BitWriter) (bs : List UInt8) : w.put bs = ⟨w.toBytes ++ bs, []⟩ := rfl

@[simp] theorem toBytes_mk_nil (bs : List UInt8) : toBytes ⟨bs, []⟩ = bs := rfl

end BitWriter

/-! ## Readers -/

/-- What is left to read: the bytes, and how many bits of the first of them were read. -/
structure BitReader where
  bytes : List UInt8
  bit : Nat
  deriving DecidableEq

namespace BitReader

/-- Skip what is left of a byte of which some bits were read. -/
def close (c : BitReader) : BitReader := if c.bit = 0 then c else ⟨c.bytes.tail, 0⟩

/-- Read `n` whole bytes. -/
def take (n : Nat) (c : BitReader) : Option (List UInt8 × BitReader) :=
  if n ≤ c.close.bytes.length then some (c.close.bytes.take n, ⟨c.close.bytes.drop n, 0⟩) else none

/-- Read one bit. -/
def takeBit (c : BitReader) : Option (Bool × BitReader) :=
  match c.bytes with
  | [] => none
  | b :: rest =>
    some (b.toNat.testBit (7 - c.bit),
      if c.bit = 7 then ⟨rest, 0⟩ else ⟨b :: rest, c.bit + 1⟩)

/-- Nothing is left but the rest of a byte of which some bits were read. -/
def exhausted (c : BitReader) : Bool := c.close.bytes.isEmpty

@[simp] theorem close_mk_zero (bs : List UInt8) : close ⟨bs, 0⟩ = ⟨bs, 0⟩ := rfl

/-- What was written as whole bytes is read back. -/
theorem take_append {n : Nat} {bs : List UInt8} (h : bs.length = n) (rest : List UInt8) :
    take n ⟨bs ++ rest, 0⟩ = some (bs, ⟨rest, 0⟩) := by
  subst h
  simp [take]

/-- Read a big-endian number of `n` bytes. -/
def nat (n : Nat) (c : BitReader) : Option (Nat × BitReader) :=
  (c.take n).map fun p => (ofBigEndian p.1, p.2)

theorem nat_append {n x : Nat} (h : x < 256 ^ n) (rest : List UInt8) :
    nat n ⟨bigEndian n x ++ rest, 0⟩ = some (x, ⟨rest, 0⟩) := by
  rw [nat, take_append (length_bigEndian n x), Option.map_some, ofBigEndian_bigEndian_of_lt h]

end BitReader

end Bytes
