import Globed.Base.Bytes

/-!
# The `bytebuffer` crate

The server reads and writes packets through the crate's `ByteReader` and `ByteBuffer`. The crate is
a parameter: `Bytebuffer` lists the functions the server calls together with their documented
behaviour, said through what a reader has left (`remaining`) and what a buffer holds (`written`).
Numbers are big-endian, a string is its length as a `u32` and its bytes, bits are packed most
significant first, and a byte that is partly read or written is closed before the next access to
whole bytes. Floats are their 32-bit patterns.
-/

namespace Globed.Server

open Bytes

/-- The bit pattern of an `f32`. -/
abbrev F32 := UInt32

/-- The bytes of a string. -/
def utf8 (s : String) : List UInt8 := s.toByteArray.data.toList

/-- `String::from_utf8` -/
def fromUtf8 (bs : List UInt8) : Option String := String.fromUTF8? ⟨bs.toArray⟩

@[simp] theorem length_utf8 (s : String) : (utf8 s).length = s.utf8ByteSize := by
  rw [utf8, Array.length_toList, ← String.size_toByteArray]
  rfl

@[simp] theorem fromUtf8_utf8 (s : String) : fromUtf8 (utf8 s) = some s := by
  have h : (⟨(utf8 s).toArray⟩ : ByteArray) = s.toByteArray := by simp [utf8]
  rw [fromUtf8, h, String.fromUTF8?, dite_cond_eq_true (eq_true s.isValidUTF8)]
  rfl

theorem utf8_of_fromUtf8 {bs : List UInt8} {s : String} (h : fromUtf8 bs = some s) :
    utf8 s = bs := by
  unfold fromUtf8 String.fromUTF8? at h
  split at h
  · cases h
    rfl
  · cases h

/-! ## The documented behaviour -/

def readNumber {α : Type} (n : Nat) (f : Nat → α) (c : BitReader) : Option (α × BitReader) :=
  (c.nat n).map fun p => (f p.1, p.2)

def readText (c : BitReader) : Option (String × BitReader) :=
  (c.nat 4).bind fun p => (p.2.take p.1).bind fun q => (fromUtf8 q.1).map (·, q.2)

theorem readNumber_append {α : Type} {n x : Nat} (h : x < 256 ^ n) (f : Nat → α)
    (rest : List UInt8) : readNumber n f ⟨bigEndian n x ++ rest, 0⟩ = some (f x, ⟨rest, 0⟩) := by
  rw [readNumber, BitReader.nat_append h, Option.map_some]

/-- A string is read back as it was written. -/
theorem readText_append {s : String} (h : s.utf8ByteSize < 256 ^ 4) (rest : List UInt8) :
    readText ⟨bigEndian 4 s.utf8ByteSize ++ (utf8 s ++ rest), 0⟩ = some (s, ⟨rest, 0⟩) := by
  have htake := BitReader.take_append (length_utf8 s) rest
  simp only [readText, BitReader.nat_append h, Option.bind_some, htake, fromUtf8_utf8,
    Option.map_some]

def i32OfNat (x : Nat) : Int32 := (UInt32.ofNat x).toInt32

def i32Bytes (x : Int32) : List UInt8 := bigEndian 4 x.toUInt32.toNat

/-- A decoder: it reads from `ρ` and may fail (`std::io::Result`). -/
abbrev Decoder (ρ α : Type) := StateT ρ Option α

/-- The functions of the crate that the server calls. -/
class Bytebuffer where
  ByteBuffer : Type
  ByteReader : Type
  new : ByteBuffer
  writeU8 : ByteBuffer → UInt8 → ByteBuffer
  writeU16 : ByteBuffer → UInt16 → ByteBuffer
  writeU32 : ByteBuffer → UInt32 → ByteBuffer
  writeI32 : ByteBuffer → Int32 → ByteBuffer
  writeF32 : ByteBuffer → F32 → ByteBuffer
  writeString : ByteBuffer → String → ByteBuffer
  writeBit : ByteBuffer → Bool → ByteBuffer
  flushBits : ByteBuffer → ByteBuffer
  asBytes : ByteBuffer → List UInt8
  fromBytes : List UInt8 → ByteReader
  readU8 : Decoder ByteReader UInt8
  readI32 : Decoder ByteReader Int32
  readF32 : Decoder ByteReader F32
  readString : Decoder ByteReader String
  readBit : Decoder ByteReader Bool
  flushReadBits : ByteReader → ByteReader
  written : ByteBuffer → BitWriter
  written_new : written new = .empty
  written_writeU8 : ∀ b x, written (writeU8 b x) = (written b).put [x]
  written_writeU16 : ∀ b x, written (writeU16 b x) = (written b).put (bigEndian 2 x.toNat)
  written_writeU32 : ∀ b x, written (writeU32 b x) = (written b).put (bigEndian 4 x.toNat)
  written_writeI32 : ∀ b x, written (writeI32 b x) = (written b).put (i32Bytes x)
  written_writeF32 : ∀ b x, written (writeF32 b x) = (written b).put (bigEndian 4 x.toNat)
  written_writeString : ∀ b s, written (writeString b s) =
    (written b).put (bigEndian 4 s.utf8ByteSize ++ utf8 s)
  written_writeBit : ∀ b x, written (writeBit b x) = (written b).putBit x
  written_flushBits : ∀ b, written (flushBits b) = (written b).close
  asBytes_eq : ∀ b, asBytes b = (written b).toBytes
  remaining : ByteReader → BitReader
  remaining_fromBytes : ∀ bs, remaining (fromBytes bs) = ⟨bs, 0⟩
  readU8_eq : ∀ r, (readU8 r).map (Prod.map id remaining) =
    readNumber 1 UInt8.ofNat (remaining r)
  readI32_eq : ∀ r, (readI32 r).map (Prod.map id remaining) = readNumber 4 i32OfNat (remaining r)
  readF32_eq : ∀ r, (readF32 r).map (Prod.map id remaining) =
    readNumber 4 UInt32.ofNat (remaining r)
  readString_eq : ∀ r, (readString r).map (Prod.map id remaining) = readText (remaining r)
  readBit_eq : ∀ r, (readBit r).map (Prod.map id remaining) = (remaining r).takeBit
  remaining_flushReadBits : ∀ r, remaining (flushReadBits r) = (remaining r).close

/-- The documented behaviour is that of a crate: a reader is what it has left, a buffer what it
holds. -/
@[reducible]
def Bytebuffer.reference : Bytebuffer where
  ByteBuffer := BitWriter
  ByteReader := BitReader
  new := .empty
  writeU8 b x := b.put [x]
  writeU16 b x := b.put (bigEndian 2 x.toNat)
  writeU32 b x := b.put (bigEndian 4 x.toNat)
  writeI32 b x := b.put (i32Bytes x)
  writeF32 b x := b.put (bigEndian 4 x.toNat)
  writeString b s := b.put (bigEndian 4 s.utf8ByteSize ++ utf8 s)
  writeBit := BitWriter.putBit
  flushBits := BitWriter.close
  asBytes := BitWriter.toBytes
  fromBytes bs := ⟨bs, 0⟩
  readU8 := readNumber 1 UInt8.ofNat
  readI32 := readNumber 4 i32OfNat
  readF32 := readNumber 4 UInt32.ofNat
  readString := readText
  readBit := BitReader.takeBit
  flushReadBits := BitReader.close
  written := id
  written_new := rfl
  written_writeU8 _ _ := rfl
  written_writeU16 _ _ := rfl
  written_writeU32 _ _ := rfl
  written_writeI32 _ _ := rfl
  written_writeF32 _ _ := rfl
  written_writeString _ _ := rfl
  written_writeBit _ _ := rfl
  written_flushBits _ := rfl
  asBytes_eq _ := rfl
  remaining := id
  remaining_fromBytes _ := rfl
  readU8_eq _ := by simp
  readI32_eq _ := by simp
  readF32_eq _ := by simp
  readString_eq _ := by simp
  readBit_eq _ := by simp
  remaining_flushReadBits _ := rfl

export Bytebuffer (ByteBuffer ByteReader)

attribute [simp] Bytebuffer.written_new Bytebuffer.written_writeU8 Bytebuffer.written_writeU16
  Bytebuffer.written_writeU32 Bytebuffer.written_writeI32 Bytebuffer.written_writeF32
  Bytebuffer.written_writeString Bytebuffer.written_writeBit Bytebuffer.written_flushBits
  Bytebuffer.asBytes_eq Bytebuffer.remaining_fromBytes Bytebuffer.remaining_flushReadBits

/-! ## Decoders -/

/-- `d` reads what `d'` reads off the remaining bytes. -/
def Follows [Bytebuffer] {α : Type} (d : Decoder ByteReader α) (d' : Decoder BitReader α) : Prop :=
  ∀ r, (d r).map (Prod.map id Bytebuffer.remaining) = d' (Bytebuffer.remaining r)

namespace Follows

variable [Bytebuffer] {α β : Type}

theorem pure (x : α) : Follows (Pure.pure x) (Pure.pure x) := fun _ => rfl

theorem bind {d : Decoder ByteReader α} {d' : Decoder BitReader α} {f : α → Decoder ByteReader β}
    {f' : α → Decoder BitReader β} (hd : Follows d d') (hf : ∀ x, Follows (f x) (f' x)) :
    Follows (d >>= f) (d' >>= f') := by
  intro r
  have h := hd r
  change ((d r).bind fun p => f p.1 p.2).map _ =
    (d' (Bytebuffer.remaining r)).bind fun p => f' p.1 p.2
  rw [← h]
  cases d r with
  | none => rfl
  | some p => exact hf p.1 p.2

theorem flush {d : Decoder ByteReader β} {d' : Decoder BitReader β} (hd : Follows d d') :
    Follows (fun r => d (Bytebuffer.flushReadBits r)) (fun c => d' c.close) := by
  intro r
  have h := hd (Bytebuffer.flushReadBits r)
  rwa [Bytebuffer.remaining_flushReadBits] at h

/-- What the remaining bytes hold is read. -/
theorem some {d : Decoder ByteReader α} {d' : Decoder BitReader α} (h : Follows d d')
    {r : ByteReader} {c : BitReader} {x : α} (hd : d' (Bytebuffer.remaining r) = .some (x, c)) :
    ∃ r', d r = .some (x, r') ∧ Bytebuffer.remaining r' = c := by
  have hr := h r
  rw [hd, Option.map_eq_some_iff] at hr
  obtain ⟨⟨y, r'⟩, hy, heq⟩ := hr
  obtain ⟨rfl, rfl⟩ := Prod.mk.inj heq
  exact ⟨r', hy, rfl⟩

end Follows

end Globed.Server
