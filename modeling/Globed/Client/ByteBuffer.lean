import Globed.Base.Bytes
import Mathlib.Tactic.IntervalCases

/-!
# The client's byte buffer

`net/bytebuffer.hpp` and `net/bytebuffer.cpp`. Numbers are copied from and to memory, whose byte
order is that of the machine, and swapped on a little-endian one. Sizes are `size_t` numbers and
wrap around.

`Reads` says what a reader does with bytes that were written for it. The readers and the writers of
each type but `int16_t`, whose bytes are swapped wrongly, then agree on its big-endian bytes, on
every machine.
-/

namespace Globed.Client

open Bytes

/-! ## The machine -/

structure Target where
  littleEndian : Bool
  /-- The width of `size_t`. -/
  sizeBits : Nat
  sizeBits_ge : 32 ≤ sizeBits
  /-- The `max_size` of a `std::string`. -/
  stringMax : Nat
  android : Bool

namespace Target

variable (t : Target)

/-- The sum of two `size_t` numbers. -/
def addSize (a b : Nat) : Nat := (a + b) % 2 ^ t.sizeBits

/-- A number of `n` bytes in memory. -/
def memory (n x : Nat) : List UInt8 :=
  if t.littleEndian then (bigEndian n x).reverse else bigEndian n x

/-- The number that these bytes of memory hold. -/
def value (bs : List UInt8) : Nat := ofBigEndian (if t.littleEndian then bs.reverse else bs)

theorem lt_two_pow_sizeBits {n : Nat} (h : n < 2 ^ 32) : n < 2 ^ t.sizeBits :=
  Nat.lt_of_lt_of_le h (Nat.pow_le_pow_right (by decide) t.sizeBits_ge)

/-- A string of this length can be sent and held. -/
def Holds (str : List UInt8) : Prop := str.length < 2 ^ 32 ∧ str.length ≤ t.stringMax

theorem addSize_of_lt {a b : Nat} (h : a + b < 2 ^ t.sizeBits) : t.addSize a b = a + b :=
  Nat.mod_eq_of_lt h

@[simp] theorem length_memory (n x : Nat) : (t.memory n x).length = n := by
  unfold memory
  split <;> simp

end Target

/-- The bit pattern of a `float`. -/
abbrev F32 := UInt32

/-- The bit pattern of a `double`. -/
abbrev F64 := UInt64

/-- A `std::string`: any bytes. -/
abbrev CString := List UInt8

/-- Why a call does not return: an exception, or a read past the end of the data, which is none. -/
inductive Failure
  | runtimeError (msg : String)
  | invalidArgument (msg : String)
  | outOfRange
  | lengthError
  | outOfBounds
  deriving DecidableEq

/-! ## Swapping bytes -/

def byteswapU16 (val : UInt16) : UInt16 := (val >>> 8) ||| (val <<< 8)

/-- `__builtin_bswap32` -/
def byteswapU32 (val : UInt32) : UInt32 :=
  let a : UInt32 := val >>> 24
  let b : UInt32 := (val >>> 8 : UInt32) &&& 0xFF00
  let c : UInt32 := (val <<< 8 : UInt32) &&& 0xFF0000
  let d : UInt32 := val <<< 24
  a ||| b ||| c ||| d

/-- `__builtin_bswap64` -/
def byteswapU64 (val : UInt64) : UInt64 :=
  let a : UInt64 := val >>> 56
  let b : UInt64 := (val >>> 40 : UInt64) &&& 0xFF00
  let c : UInt64 := (val >>> 24 : UInt64) &&& 0xFF0000
  let d : UInt64 := (val >>> 8 : UInt64) &&& 0xFF000000
  let e : UInt64 := (val <<< 8 : UInt64) &&& 0xFF00000000
  let f : UInt64 := (val <<< 24 : UInt64) &&& 0xFF0000000000
  let g : UInt64 := (val <<< 40 : UInt64) &&& 0xFF000000000000
  let h : UInt64 := val <<< 56
  a ||| b ||| c ||| d ||| e ||| f ||| g ||| h

/-- Both shifts are of an `int`, and the one to the right leaves its sign. -/
def byteswapI16 (value : Int16) : Int16 :=
  let value := value.toInt32
  ((value >>> 8) ||| ((value &&& 0xFF) <<< 8)).toInt16

def byteswapI32 (value : Int32) : Int32 :=
  let mask : UInt32 → Int32 := UInt32.toInt32
  ((value >>> 24) &&& mask 0xFF) ||| ((value >>> 8) &&& mask 0xFF00)
    ||| ((value <<< 8) &&& mask 0xFF0000) ||| ((value <<< 24) &&& mask 0xFF000000)

def byteswapI64 (value : Int64) : Int64 :=
  let mask : UInt64 → Int64 := UInt64.toInt64
  ((value >>> 56) &&& mask 0xFF) ||| ((value >>> 40) &&& mask 0xFF00)
    ||| ((value >>> 24) &&& mask 0xFF0000) ||| ((value >>> 8) &&& mask 0xFF000000)
    ||| ((value <<< 8) &&& mask 0xFF00000000) ||| ((value <<< 24) &&& mask 0xFF0000000000)
    ||| ((value <<< 40) &&& mask 0xFF000000000000)
    ||| ((value <<< 56) &&& mask 0xFF00000000000000)

/-- The bytes of the float in memory are exchanged pairwise. -/
def byteswapF32 (t : Target) (val : F32) : F32 :=
  match t.memory 4 val.toNat with
  | [b₀, b₁, b₂, b₃] => UInt32.ofNat (t.value [b₃, b₂, b₁, b₀])
  | _ => val

def byteswapF64 (t : Target) (val : F64) : F64 :=
  match t.memory 8 val.toNat with
  | [b₀, b₁, b₂, b₃, b₄, b₅, b₆, b₇] =>
    UInt64.ofNat (t.value [b₇, b₆, b₅, b₄, b₃, b₂, b₁, b₀])
  | _ => val

theorem bigEndian_byteswapU16 (val : UInt16) :
    bigEndian 2 (byteswapU16 val).toNat = (bigEndian 2 val.toNat).reverse := by
  apply bigEndian_eq_reverse
  intro i hi j hj
  change (byteswapU16 val).toBitVec.getLsbD _ = val.toBitVec.getLsbD _
  simp only [byteswapU16, UInt16.toBitVec_or, UInt16.toBitVec_shiftRight,
    UInt16.toBitVec_shiftLeft]
  interval_cases i <;> interval_cases j <;> simp

theorem bigEndian_byteswapU32 (val : UInt32) :
    bigEndian 4 (byteswapU32 val).toNat = (bigEndian 4 val.toNat).reverse := by
  apply bigEndian_eq_reverse
  intro i hi j hj
  change (byteswapU32 val).toBitVec.getLsbD _ = val.toBitVec.getLsbD _
  simp only [byteswapU32, UInt32.toBitVec_or, UInt32.toBitVec_and, UInt32.toBitVec_shiftRight,
    UInt32.toBitVec_shiftLeft]
  interval_cases i <;> interval_cases j <;> simp

theorem bigEndian_byteswapI32 (value : Int32) :
    bigEndian 4 (byteswapI32 value).toUInt32.toNat =
      (bigEndian 4 value.toUInt32.toNat).reverse := by
  apply bigEndian_eq_reverse
  intro i hi j hj
  change (byteswapI32 value).toBitVec.getLsbD _ = value.toBitVec.getLsbD _
  simp only [byteswapI32, Int32.toBitVec_or, Int32.toBitVec_and, Int32.toBitVec_shiftRight,
    Int32.toBitVec_shiftLeft]
  interval_cases i <;> interval_cases j <;> simp [BitVec.getElem_sshiftRight]

theorem bigEndian_byteswapU64 (val : UInt64) :
    bigEndian 8 (byteswapU64 val).toNat = (bigEndian 8 val.toNat).reverse := by
  apply bigEndian_eq_reverse
  intro i hi j hj
  change (byteswapU64 val).toBitVec.getLsbD _ = val.toBitVec.getLsbD _
  simp only [byteswapU64, UInt64.toBitVec_or, UInt64.toBitVec_and, UInt64.toBitVec_shiftRight,
    UInt64.toBitVec_shiftLeft]
  interval_cases i <;> interval_cases j <;> simp

theorem bigEndian_byteswapI64 (value : Int64) :
    bigEndian 8 (byteswapI64 value).toUInt64.toNat =
      (bigEndian 8 value.toUInt64.toNat).reverse := by
  apply bigEndian_eq_reverse
  intro i hi j hj
  change (byteswapI64 value).toBitVec.getLsbD _ = value.toBitVec.getLsbD _
  simp only [byteswapI64, Int64.toBitVec_or, Int64.toBitVec_and, Int64.toBitVec_shiftRight,
    Int64.toBitVec_shiftLeft]
  interval_cases i <;> interval_cases j <;> simp [BitVec.getElem_sshiftRight]

theorem Target.value_reverse_memory (t : Target) (n x : Nat) :
    t.value (t.memory n x).reverse = ofBigEndian (bigEndian n x).reverse := by
  unfold Target.value Target.memory
  cases t.littleEndian <;> simp

/-- The bytes of the number that the bytes in memory make in the opposite order. -/
theorem bigEndian_value_reverse (t : Target) (n x : Nat) :
    t.value (t.memory n x).reverse < 256 ^ n ∧
      bigEndian n (t.value (t.memory n x).reverse) = (bigEndian n x).reverse := by
  have hlen : (bigEndian n x).reverse.length = n := by simp
  have hlt := ofBigEndian_lt (bigEndian n x).reverse
  have hbytes := bigEndian_ofBigEndian (bigEndian n x).reverse
  rw [hlen] at hlt hbytes
  rw [t.value_reverse_memory]
  exact ⟨hlt, hbytes⟩

theorem bigEndian_byteswapF32 (t : Target) (val : F32) :
    bigEndian 4 (byteswapF32 t val).toNat = (bigEndian 4 val.toNat).reverse := by
  obtain ⟨hlt, hbytes⟩ := bigEndian_value_reverse t 4 val.toNat
  have hswap : byteswapF32 t val = UInt32.ofNat (t.value (t.memory 4 val.toNat).reverse) := by
    unfold byteswapF32 Target.memory
    cases t.littleEndian <;> rfl
  rw [hswap, UInt32.toNat_ofNat_of_lt' hlt, hbytes]

theorem bigEndian_byteswapF64 (t : Target) (val : F64) :
    bigEndian 8 (byteswapF64 t val).toNat = (bigEndian 8 val.toNat).reverse := by
  obtain ⟨hlt, hbytes⟩ := bigEndian_value_reverse t 8 val.toNat
  have hswap : byteswapF64 t val = UInt64.ofNat (t.value (t.memory 8 val.toNat).reverse) := by
    unfold byteswapF64 Target.memory
    cases t.littleEndian <;> rfl
  rw [hswap, UInt64.toNat_ofNat_of_lt' hlt, hbytes]

/-! Swapping twice changes nothing. -/

theorem byteswapU16_byteswapU16 (val : UInt16) : byteswapU16 (byteswapU16 val) = val := by
  have h : bigEndian 2 (byteswapU16 (byteswapU16 val)).toNat = bigEndian 2 val.toNat := by
    rw [bigEndian_byteswapU16, bigEndian_byteswapU16, List.reverse_reverse]
  exact UInt16.toNat_inj.mp (bigEndian_inj (UInt16.toNat_lt _) val.toNat_lt h)

theorem byteswapU32_byteswapU32 (val : UInt32) : byteswapU32 (byteswapU32 val) = val := by
  have h : bigEndian 4 (byteswapU32 (byteswapU32 val)).toNat = bigEndian 4 val.toNat := by
    rw [bigEndian_byteswapU32, bigEndian_byteswapU32, List.reverse_reverse]
  exact UInt32.toNat_inj.mp (bigEndian_inj (UInt32.toNat_lt _) val.toNat_lt h)

theorem byteswapI32_byteswapI32 (value : Int32) : byteswapI32 (byteswapI32 value) = value := by
  have h : bigEndian 4 (byteswapI32 (byteswapI32 value)).toUInt32.toNat =
      bigEndian 4 value.toUInt32.toNat := by
    rw [bigEndian_byteswapI32, bigEndian_byteswapI32, List.reverse_reverse]
  have hnat := bigEndian_inj (UInt32.toNat_lt _) value.toUInt32.toNat_lt h
  simpa using congrArg UInt32.toInt32 (UInt32.toNat_inj.mp hnat)

theorem byteswapU64_byteswapU64 (val : UInt64) : byteswapU64 (byteswapU64 val) = val := by
  have h : bigEndian 8 (byteswapU64 (byteswapU64 val)).toNat = bigEndian 8 val.toNat := by
    rw [bigEndian_byteswapU64, bigEndian_byteswapU64, List.reverse_reverse]
  exact UInt64.toNat_inj.mp (bigEndian_inj (UInt64.toNat_lt _) val.toNat_lt h)

theorem byteswapI64_byteswapI64 (value : Int64) : byteswapI64 (byteswapI64 value) = value := by
  have h : bigEndian 8 (byteswapI64 (byteswapI64 value)).toUInt64.toNat =
      bigEndian 8 value.toUInt64.toNat := by
    rw [bigEndian_byteswapI64, bigEndian_byteswapI64, List.reverse_reverse]
  have hnat := bigEndian_inj (UInt64.toNat_lt _) value.toUInt64.toNat_lt h
  simpa using congrArg UInt64.toInt64 (UInt64.toNat_inj.mp hnat)

theorem byteswapF32_byteswapF32 (t : Target) (val : F32) :
    byteswapF32 t (byteswapF32 t val) = val := by
  have h : bigEndian 4 (byteswapF32 t (byteswapF32 t val)).toNat = bigEndian 4 val.toNat := by
    rw [bigEndian_byteswapF32, bigEndian_byteswapF32, List.reverse_reverse]
  exact UInt32.toNat_inj.mp (bigEndian_inj (UInt32.toNat_lt _) val.toNat_lt h)

theorem byteswapF64_byteswapF64 (t : Target) (val : F64) :
    byteswapF64 t (byteswapF64 t val) = val := by
  have h : bigEndian 8 (byteswapF64 t (byteswapF64 t val)).toNat = bigEndian 8 val.toNat := by
    rw [bigEndian_byteswapF64, bigEndian_byteswapF64, List.reverse_reverse]
  exact UInt64.toNat_inj.mp (bigEndian_inj (UInt64.toNat_lt _) val.toNat_lt h)

/-! ## The buffer -/

structure ByteBuffer where
  data : List UInt8
  position : Nat
  deriving DecidableEq

/-- A method that reads from the buffer. -/
abbrev Reader (α : Type) := StateT ByteBuffer (Except Failure) α

namespace ByteBuffer

def new : ByteBuffer := ⟨[], 0⟩

def ofBytes (data : List UInt8) : ByteBuffer := ⟨data, 0⟩

/-- The next `n` bytes, if they are there. -/
def copy (n : Nat) (buf : ByteBuffer) : Except Failure (List UInt8) :=
  if buf.position + n ≤ buf.data.length then .ok ((buf.data.drop buf.position).take n)
  else .error .outOfBounds

end ByteBuffer

section Methods

variable (t : Target)

def read (n : Nat) : Reader Nat := do
  let buf ← get
  if t.addSize buf.position n > buf.data.length then
    throw (.runtimeError "ByteBuffer read beyond end of buffer")
  let value ← buf.copy n
  set { buf with position := t.addSize buf.position n }
  return t.value value

def readU8 : Reader UInt8 := do
  return UInt8.ofNat (← read t 1)

def readI8 : Reader Int8 := do
  return (UInt8.ofNat (← read t 1)).toInt8

def readU16 : Reader UInt16 := do
  let val := UInt16.ofNat (← read t 2)
  return if t.littleEndian then byteswapU16 val else val

def readI16 : Reader Int16 := do
  let val := (UInt16.ofNat (← read t 2)).toInt16
  return if t.littleEndian then byteswapI16 val else val

def readU32 : Reader UInt32 := do
  let val := UInt32.ofNat (← read t 4)
  return if t.littleEndian then byteswapU32 val else val

def readI32 : Reader Int32 := do
  let val := (UInt32.ofNat (← read t 4)).toInt32
  return if t.littleEndian then byteswapI32 val else val

def readU64 : Reader UInt64 := do
  let val := UInt64.ofNat (← read t 8)
  return if t.littleEndian then byteswapU64 val else val

def readI64 : Reader Int64 := do
  let val := (UInt64.ofNat (← read t 8)).toInt64
  return if t.littleEndian then byteswapI64 val else val

def readF32 : Reader F32 := do
  let val := UInt32.ofNat (← read t 4)
  return if t.littleEndian then byteswapF32 t val else val

def readF64 : Reader F64 := do
  let val := UInt64.ofNat (← read t 8)
  return if t.littleEndian then byteswapF64 t val else val

/-- The part of `readString` after the length. -/
def readChars (length : UInt32) : Reader CString := do
  let buf ← get
  if t.addSize buf.position length.toNat > buf.data.length then
    throw (.runtimeError "ByteBuffer string too long")
  if length.toNat > t.stringMax then throw .lengthError
  let str ← buf.copy length.toNat
  set { buf with position := t.addSize buf.position length.toNat }
  return str

def readString : Reader CString := do
  let length ← readU32 t
  readChars t length

end Methods

namespace ByteBuffer

variable (buf : ByteBuffer) (t : Target)

def write (n value : Nat) : ByteBuffer :=
  { data := buf.data ++ t.memory n value, position := t.addSize buf.position n }

def writeU8 (value : UInt8) : ByteBuffer := buf.write t 1 value.toNat

def writeI8 (value : Int8) : ByteBuffer := buf.write t 1 value.toUInt8.toNat

def writeU16 (value : UInt16) : ByteBuffer :=
  buf.write t 2 (if t.littleEndian then byteswapU16 value else value).toNat

def writeI16 (value : Int16) : ByteBuffer :=
  buf.write t 2 (if t.littleEndian then byteswapI16 value else value).toUInt16.toNat

def writeU32 (value : UInt32) : ByteBuffer :=
  buf.write t 4 (if t.littleEndian then byteswapU32 value else value).toNat

def writeI32 (value : Int32) : ByteBuffer :=
  buf.write t 4 (if t.littleEndian then byteswapI32 value else value).toUInt32.toNat

def writeU64 (value : UInt64) : ByteBuffer :=
  buf.write t 8 (if t.littleEndian then byteswapU64 value else value).toNat

def writeI64 (value : Int64) : ByteBuffer :=
  buf.write t 8 (if t.littleEndian then byteswapI64 value else value).toUInt64.toNat

def writeF32 (value : F32) : ByteBuffer :=
  buf.write t 4 (if t.littleEndian then byteswapF32 t value else value).toNat

def writeF64 (value : F64) : ByteBuffer :=
  buf.write t 8 (if t.littleEndian then byteswapF64 t value else value).toNat

def writeString (str : CString) : ByteBuffer :=
  let buf := buf.writeU32 t (UInt32.ofNat str.length)
  { data := buf.data ++ str, position := t.addSize buf.position str.length }

end ByteBuffer

/-! ## What is written -/

section Written

variable {t : Target} {buf : ByteBuffer}

@[simp] theorem data_writeU8 (value : UInt8) :
    (buf.writeU8 t value).data = buf.data ++ [value] := by
  simp [ByteBuffer.writeU8, ByteBuffer.write, Target.memory, bigEndian]

@[simp] theorem data_writeI8 (value : Int8) :
    (buf.writeI8 t value).data = buf.data ++ [value.toUInt8] := by
  simp [ByteBuffer.writeI8, ByteBuffer.write, Target.memory, bigEndian]

theorem memory_byteswap {n a b : Nat} (h : bigEndian n b = (bigEndian n a).reverse) :
    t.memory n (if t.littleEndian then b else a) = bigEndian n a := by
  unfold Target.memory
  cases t.littleEndian with
  | true => simp [h]
  | false => simp

@[simp] theorem data_writeU16 (value : UInt16) :
    (buf.writeU16 t value).data = buf.data ++ bigEndian 2 value.toNat := by
  rw [ByteBuffer.writeU16, apply_ite UInt16.toNat]
  exact congrArg (buf.data ++ ·) (memory_byteswap (bigEndian_byteswapU16 value))

@[simp] theorem data_writeU32 (value : UInt32) :
    (buf.writeU32 t value).data = buf.data ++ bigEndian 4 value.toNat := by
  rw [ByteBuffer.writeU32, apply_ite UInt32.toNat]
  exact congrArg (buf.data ++ ·) (memory_byteswap (bigEndian_byteswapU32 value))

@[simp] theorem data_writeI32 (value : Int32) :
    (buf.writeI32 t value).data = buf.data ++ bigEndian 4 value.toUInt32.toNat := by
  rw [ByteBuffer.writeI32, apply_ite Int32.toUInt32, apply_ite UInt32.toNat]
  exact congrArg (buf.data ++ ·) (memory_byteswap (bigEndian_byteswapI32 value))

@[simp] theorem data_writeU64 (value : UInt64) :
    (buf.writeU64 t value).data = buf.data ++ bigEndian 8 value.toNat := by
  rw [ByteBuffer.writeU64, apply_ite UInt64.toNat]
  exact congrArg (buf.data ++ ·) (memory_byteswap (bigEndian_byteswapU64 value))

@[simp] theorem data_writeI64 (value : Int64) :
    (buf.writeI64 t value).data = buf.data ++ bigEndian 8 value.toUInt64.toNat := by
  rw [ByteBuffer.writeI64, apply_ite Int64.toUInt64, apply_ite UInt64.toNat]
  exact congrArg (buf.data ++ ·) (memory_byteswap (bigEndian_byteswapI64 value))

@[simp] theorem data_writeF32 (value : F32) :
    (buf.writeF32 t value).data = buf.data ++ bigEndian 4 value.toNat := by
  rw [ByteBuffer.writeF32, apply_ite UInt32.toNat]
  exact congrArg (buf.data ++ ·) (memory_byteswap (bigEndian_byteswapF32 t value))

@[simp] theorem data_writeF64 (value : F64) :
    (buf.writeF64 t value).data = buf.data ++ bigEndian 8 value.toNat := by
  rw [ByteBuffer.writeF64, apply_ite UInt64.toNat]
  exact congrArg (buf.data ++ ·) (memory_byteswap (bigEndian_byteswapF64 t value))

@[simp] theorem data_writeString (str : CString) :
    (buf.writeString t str).data =
      buf.data ++ (bigEndian 4 (UInt32.ofNat str.length).toNat ++ str) := by
  rw [ByteBuffer.writeString, data_writeU32, List.append_assoc]

end Written

/-! ## What is read -/

theorem read_eq (t : Target) (n : Nat) (buf : ByteBuffer) :
    read t n buf =
      if t.addSize buf.position n > buf.data.length then
        .error (.runtimeError "ByteBuffer read beyond end of buffer")
      else (buf.copy n).map fun bs =>
        (t.value bs, { buf with position := t.addSize buf.position n }) := by
  simp only [read, bind, StateT.bind, get, getThe, MonadStateOf.get, StateT.get, pure, Except.pure,
    Except.bind]
  split
  · rfl
  · simp only [liftM, monadLift, MonadLift.monadLift]
    cases ByteBuffer.copy n buf <;> rfl

theorem readChars_eq (t : Target) (length : UInt32) (buf : ByteBuffer) :
    readChars t length buf =
      if t.addSize buf.position length.toNat > buf.data.length then
        .error (.runtimeError "ByteBuffer string too long")
      else if length.toNat > t.stringMax then .error .lengthError
      else (buf.copy length.toNat).map fun str =>
        (str, { buf with position := t.addSize buf.position length.toNat }) := by
  simp only [readChars, bind, StateT.bind, get, getThe, MonadStateOf.get, StateT.get, pure,
    Except.pure, Except.bind]
  split
  · rfl
  · split
    · rfl
    · simp only [liftM, monadLift, MonadLift.monadLift]
      cases ByteBuffer.copy length.toNat buf <;> rfl

theorem copy_of_eq {data pre bs rest : List UInt8} (hdata : data = pre ++ (bs ++ rest)) :
    pre.length + bs.length ≤ data.length ∧
      (ByteBuffer.mk data pre.length).copy bs.length = .ok bs := by
  have hle : pre.length + bs.length ≤ data.length := by
    rw [hdata, List.length_append, List.length_append]
    omega
  refine ⟨hle, ?_⟩
  rw [ByteBuffer.copy, if_pos hle, hdata, List.drop_left, List.take_left]

/-- From the bytes `bs`, wherever they stand in a buffer, `d` reads `x` and nothing more. -/
def Reads {α : Type} (t : Target) (d : Reader α) (bs : List UInt8) (x : α) : Prop :=
  ∀ data pre rest, data = pre ++ (bs ++ rest) → data.length < 2 ^ t.sizeBits →
    d ⟨data, pre.length⟩ = .ok (x, ⟨data, pre.length + bs.length⟩)

namespace Reads

variable {t : Target} {α β : Type}

theorem pure (x : α) : Reads t (Pure.pure x) [] x := fun _ _ _ _ _ => rfl

theorem bind {d : Reader α} {f : α → Reader β} {bs bs' : List UInt8} {x : α} {y : β}
    (hd : Reads t d bs x) (hf : Reads t (f x) bs' y) : Reads t (d >>= f) (bs ++ bs') y := by
  intro data pre rest hdata hlen
  have h₁ := hd data pre (bs' ++ rest) (by rw [hdata, List.append_assoc]) hlen
  have h₂ := hf data (pre ++ bs) rest (by rw [hdata, List.append_assoc, List.append_assoc]) hlen
  change (d ⟨data, pre.length⟩ >>= fun p => f p.1 p.2) = _
  rw [h₁]
  rw [List.length_append] at h₂
  rw [List.length_append, ← Nat.add_assoc]
  exact h₂

/-- The last step only computes. -/
theorem map {d : Reader α} {bs : List UInt8} {x : α} (hd : Reads t d bs x) (f : α → β) :
    Reads t (d >>= fun x => Pure.pure (f x)) bs (f x) := by
  have h := hd.bind (f := fun x => Pure.pure (f x)) (pure (f x))
  rwa [List.append_nil] at h

/-- A step that reads nothing. -/
theorem bindOk {d : Except Failure α} {f : α → Reader β} {bs : List UInt8} {x : α} {y : β}
    (hd : d = .ok x) (hf : Reads t (f x) bs y) : Reads t (liftM d >>= f) bs y := by
  subst hd
  exact hf

theorem read {n : Nat} {bs : List UInt8} (hn : bs.length = n) :
    Reads t (Client.read t n) bs (t.value bs) := by
  intro data pre rest hdata hlen
  subst hn
  obtain ⟨hle, hcopy⟩ := copy_of_eq hdata
  have hsum := t.addSize_of_lt (Nat.lt_of_le_of_lt hle hlen)
  rw [read_eq, hsum, if_neg (Nat.not_lt.mpr hle), hcopy]
  rfl

theorem readChars {bs : List UInt8} {length : UInt32} (hn : length.toNat = bs.length)
    (hmax : bs.length ≤ t.stringMax) : Reads t (Client.readChars t length) bs bs := by
  intro data pre rest hdata hlen
  obtain ⟨hle, hcopy⟩ := copy_of_eq hdata
  have hsum := t.addSize_of_lt (Nat.lt_of_le_of_lt hle hlen)
  rw [readChars_eq, hn, hsum, if_neg (Nat.not_lt.mpr hle), if_neg (Nat.not_lt.mpr hmax), hcopy]
  rfl

theorem value_singleton (x : UInt8) : UInt8.ofNat (t.value [x]) = x := by
  cases hb : t.littleEndian <;> simp [Target.value, hb, ofBigEndian]

theorem readU8 (x : UInt8) : Reads t (Client.readU8 t) [x] x := by
  have hread : Reads t (Client.read t 1) [x] (t.value [x]) := read rfl
  have h := hread.map UInt8.ofNat
  rwa [value_singleton] at h

theorem readI8 (x : Int8) : Reads t (Client.readI8 t) [x.toUInt8] x := by
  have hread : Reads t (Client.read t 1) [x.toUInt8] (t.value [x.toUInt8]) := read rfl
  have h := hread.map fun v => (UInt8.ofNat v).toInt8
  rwa [value_singleton, Int8.toInt8_toUInt8] at h

/-- A number of `n` bytes is read off its big-endian bytes: the bytes are in the order of the
machine, or swapped. -/
theorem number {α : Type} {n : Nat} (ofNat : Nat → α) (swap : α → α) (toNat : α → Nat) {x : α}
    (hlt : toNat x < 256 ^ n) (hof : ofNat (toNat x) = x)
    (hswap : bigEndian n (toNat (swap x)) = (bigEndian n (toNat x)).reverse)
    (hlt' : toNat (swap x) < 256 ^ n) (hof' : ofNat (toNat (swap x)) = swap x)
    (hinv : swap (swap x) = x) :
    Reads t (Client.read t n >>= fun v =>
      Pure.pure (if t.littleEndian then swap (ofNat v) else ofNat v))
      (bigEndian n (toNat x)) x := by
  have hread : Reads t (Client.read t n) _ _ := read (length_bigEndian n (toNat x))
  have h := hread.map fun v => if t.littleEndian then swap (ofNat v) else ofNat v
  have hx : (if t.littleEndian then swap (ofNat (t.value (bigEndian n (toNat x))))
      else ofNat (t.value (bigEndian n (toNat x)))) = x := by
    cases hb : t.littleEndian with
    | true =>
      have hv : t.value (bigEndian n (toNat x)) = toNat (swap x) := by
        rw [Target.value, if_pos hb, ← hswap, ofBigEndian_bigEndian_of_lt hlt']
      rw [hv, hof', if_pos rfl, hinv]
    | false =>
      have hv : t.value (bigEndian n (toNat x)) = toNat x := by
        simp [Target.value, hb, ofBigEndian_bigEndian_of_lt hlt]
      rw [hv, hof]
      rfl
  rwa [hx] at h

theorem readU16 (x : UInt16) : Reads t (Client.readU16 t) (bigEndian 2 x.toNat) x :=
  number UInt16.ofNat byteswapU16 UInt16.toNat x.toNat_lt UInt16.ofNat_toNat
    (bigEndian_byteswapU16 x) (UInt16.toNat_lt _) UInt16.ofNat_toNat (byteswapU16_byteswapU16 x)

theorem readU32 (x : UInt32) : Reads t (Client.readU32 t) (bigEndian 4 x.toNat) x :=
  number UInt32.ofNat byteswapU32 UInt32.toNat x.toNat_lt UInt32.ofNat_toNat
    (bigEndian_byteswapU32 x) (UInt32.toNat_lt _) UInt32.ofNat_toNat (byteswapU32_byteswapU32 x)

theorem readI32 (x : Int32) : Reads t (Client.readI32 t) (bigEndian 4 x.toUInt32.toNat) x :=
  number (fun v => (UInt32.ofNat v).toInt32) byteswapI32 (fun x => x.toUInt32.toNat)
    x.toUInt32.toNat_lt (by simp) (bigEndian_byteswapI32 x) (UInt32.toNat_lt _) (by simp)
    (byteswapI32_byteswapI32 x)

theorem readU64 (x : UInt64) : Reads t (Client.readU64 t) (bigEndian 8 x.toNat) x :=
  number UInt64.ofNat byteswapU64 UInt64.toNat x.toNat_lt UInt64.ofNat_toNat
    (bigEndian_byteswapU64 x) (UInt64.toNat_lt _) UInt64.ofNat_toNat (byteswapU64_byteswapU64 x)

theorem readI64 (x : Int64) : Reads t (Client.readI64 t) (bigEndian 8 x.toUInt64.toNat) x :=
  number (fun v => (UInt64.ofNat v).toInt64) byteswapI64 (fun x => x.toUInt64.toNat)
    x.toUInt64.toNat_lt (by simp) (bigEndian_byteswapI64 x) (UInt64.toNat_lt _) (by simp)
    (byteswapI64_byteswapI64 x)

theorem readF32 (x : F32) : Reads t (Client.readF32 t) (bigEndian 4 x.toNat) x :=
  number UInt32.ofNat (byteswapF32 t) UInt32.toNat x.toNat_lt UInt32.ofNat_toNat
    (bigEndian_byteswapF32 t x) (UInt32.toNat_lt _) UInt32.ofNat_toNat (byteswapF32_byteswapF32 t x)

theorem readF64 (x : F64) : Reads t (Client.readF64 t) (bigEndian 8 x.toNat) x :=
  number UInt64.ofNat (byteswapF64 t) UInt64.toNat x.toNat_lt UInt64.ofNat_toNat
    (bigEndian_byteswapF64 t x) (UInt64.toNat_lt _) UInt64.ofNat_toNat (byteswapF64_byteswapF64 t x)

theorem readString {str : CString} (h : t.Holds str) :
    Reads t (Client.readString t) (bigEndian 4 (UInt32.ofNat str.length).toNat ++ str) str :=
  (readU32 (UInt32.ofNat str.length)).bind (readChars (UInt32.toNat_ofNat_of_lt' h.1) h.2)

end Reads

end Globed.Client
