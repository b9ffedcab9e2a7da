import Globed.Client.World

/-!
# Values through the byte buffer

A list of values is written to a buffer and read back. This goes well for all types but `int16_t`:
`byteswapI16` shifts a negative number to the right without masking its sign, so that only -1 and
the numbers both of whose bytes are below 128 survive on a little-endian machine
(`roundTrips_iff`).
-/

namespace Globed.Client

open Bytes

/-! ## Swapping an `int16_t` -/

section SwapI16

variable {value : Int16}

theorem bigEndian_two (x : Nat) : bigEndian 2 x = [UInt8.ofNat (x >>> 8), UInt8.ofNat x] := by
  rw [Nat.shiftRight_eq_div_pow]
  rfl

/-- The sign is left in all bits of the upper byte. -/
theorem getLsbD_byteswapI16 (value : Int16) {j : Nat} (hj : j < 8) :
    (byteswapI16 value).toBitVec.getLsbD j = value.toBitVec.getLsbD (8 + j) ∧
      (byteswapI16 value).toBitVec.getLsbD (8 + j) =
        (value.toBitVec.msb || value.toBitVec.getLsbD j) := by
  simp only [byteswapI16, Int32.toBitVec_toInt16, Int32.toBitVec_or, Int32.toBitVec_and,
    Int32.toBitVec_shiftRight, Int32.toBitVec_shiftLeft, Int16.toBitVec_toInt32]
  interval_cases j <;> simp [BitVec.getElem_sshiftRight, BitVec.getElem_signExtend]

theorem bigEndian_byteswapI16 (value : Int16) :
    bigEndian 2 (byteswapI16 value).toUInt16.toNat =
      [if value.toBitVec.msb then 255 else UInt8.ofNat value.toUInt16.toNat,
        UInt8.ofNat (value.toUInt16.toNat >>> 8)] := by
  rw [bigEndian_two]
  congr 1
  · have hbit : ∀ j < 8, ((byteswapI16 value).toUInt16.toNat >>> 8).testBit j =
        (value.toBitVec.msb || value.toUInt16.toNat.testBit j) := by
      intro j hj
      rw [Nat.testBit_shiftRight]
      exact (getLsbD_byteswapI16 value hj).2
    cases hsign : value.toBitVec.msb with
    | true =>
      refine (ofNat_eq_of_testBit fun j hj => ?_ : _ = UInt8.ofNat 255)
      rw [hbit j hj, hsign]
      interval_cases j <;> rfl
    | false =>
      refine ofNat_eq_of_testBit fun j hj => ?_
      rw [hbit j hj, hsign, Bool.false_or]
  · congr 1
    refine ofNat_eq_of_testBit fun j hj => ?_
    rw [Nat.testBit_shiftRight]
    exact (getLsbD_byteswapI16 value hj).1

/-- The bytes come out in the opposite order. -/
def Swaps (value : Int16) : Prop :=
  bigEndian 2 (byteswapI16 value).toUInt16.toNat = (bigEndian 2 value.toUInt16.toNat).reverse

theorem swaps_iff (value : Int16) :
    Swaps value ↔ value.toUInt16.toNat / 256 < 128 ∨ value.toUInt16.toNat % 256 = 255 := by
  have hsign : value.toBitVec.msb = true ↔ ¬value.toUInt16.toNat / 256 < 128 := by
    rw [BitVec.msb_eq_decide, decide_eq_true_iff]
    change _ ≤ value.toUInt16.toNat ↔ _
    omega
  have hbyte : (255 : UInt8) = UInt8.ofNat value.toUInt16.toNat ↔
      value.toUInt16.toNat % 256 = 255 := by
    rw [← UInt8.toNat_inj, UInt8.toNat_ofNat']
    exact eq_comm
  rw [Swaps, bigEndian_byteswapI16, bigEndian_two]
  generalize UInt8.ofNat value.toUInt16.toNat = low at hbyte ⊢
  by_cases h : value.toBitVec.msb = true
  · simp [h, hbyte, hsign.mp h]
  · simp [h, not_not.mp (hsign.not.mp h)]

/-- The number with the bytes in the opposite order. -/
def swapped (value : Int16) : Int16 := (byteswapU16 value.toUInt16).toInt16

theorem bigEndian_swapped (value : Int16) :
    bigEndian 2 (swapped value).toUInt16.toNat = (bigEndian 2 value.toUInt16.toNat).reverse :=
  bigEndian_byteswapU16 value.toUInt16

theorem swapped_bytes (value : Int16) :
    (swapped value).toUInt16.toNat / 256 = value.toUInt16.toNat % 256 ∧
      (swapped value).toUInt16.toNat % 256 = value.toUInt16.toNat / 256 := by
  have hlt := value.toUInt16.toNat_lt
  have hlt' := (swapped value).toUInt16.toNat_lt
  have h := bigEndian_swapped value
  rw [bigEndian_two, bigEndian_two] at h
  simp only [List.reverse_cons, List.reverse_nil, List.nil_append, List.singleton_append,
    List.cons.injEq, and_true, ← UInt8.toNat_inj, UInt8.toNat_ofNat', Nat.shiftRight_eq_div_pow]
    at h
  omega

theorem eq_of_bigEndian {a b : Int16}
    (h : bigEndian 2 a.toUInt16.toNat = bigEndian 2 b.toUInt16.toNat) : a = b := by
  have hnat := bigEndian_inj a.toUInt16.toNat_lt b.toUInt16.toNat_lt h
  simpa using congrArg UInt16.toInt16 (UInt16.toNat_inj.mp hnat)

/-- What is read back is right if the number that stands in memory swaps. -/
theorem byteswapI16_swapped_iff (value : Int16) :
    byteswapI16 (swapped value) = value ↔ Swaps (swapped value) := by
  rw [Swaps, bigEndian_swapped, List.reverse_reverse]
  exact ⟨fun h => by rw [h], eq_of_bigEndian⟩

/-- -1, and the numbers both of whose bytes are below 128. -/
def Survives (value : Int16) : Prop :=
  value = -1 ∨ 0 ≤ value.toInt ∧ value.toInt % 256 < 128

instance : DecidablePred Survives := fun value => by unfold Survives; infer_instance

theorem survives_iff (value : Int16) : Survives value ↔ Swaps value ∧ Swaps (swapped value) := by
  obtain ⟨hupper, hlower⟩ := swapped_bytes value
  rw [swaps_iff, swaps_iff, hupper, hlower, Survives, ← Int16.toInt_inj]
  have hint : value.toInt = if value.toUInt16.toNat < 32768 then (value.toUInt16.toNat : Int)
      else value.toUInt16.toNat - 65536 := by
    change value.toBitVec.toInt = if value.toBitVec.toNat < 32768 then _ else _
    rw [BitVec.toInt_eq_toNat_cond]
    split <;> split <;> first | rfl | omega
  have hminus : (-1 : Int16).toInt = -1 := rfl
  have hlt := value.toUInt16.toNat_lt
  rw [hint, hminus]
  split <;> omega

end SwapI16

/-! ## Values -/

inductive ValueType
  | u8 | i8 | u16 | i16 | u32 | i32 | u64 | i64 | f32 | f64 | string
  deriving DecidableEq

inductive Value
  | u8 (x : UInt8)
  | i8 (x : Int8)
  | u16 (x : UInt16)
  | i16 (x : Int16)
  | u32 (x : UInt32)
  | i32 (x : Int32)
  | u64 (x : UInt64)
  | i64 (x : Int64)
  | f32 (x : F32)
  | f64 (x : F64)
  | string (str : CString)
  deriving DecidableEq

namespace Value

def type : Value → ValueType
  | u8 _ => .u8
  | i8 _ => .i8
  | u16 _ => .u16
  | i16 _ => .i16
  | u32 _ => .u32
  | i32 _ => .i32
  | u64 _ => .u64
  | i64 _ => .i64
  | f32 _ => .f32
  | f64 _ => .f64
  | string _ => .string

/-- The big-endian bytes of the value, which are those of the two's complement if it is negative. -/
def encoding : Value → List UInt8
  | u8 x => bigEndian 1 x.toNat
  | i8 x => bigEndian 1 x.toUInt8.toNat
  | u16 x => bigEndian 2 x.toNat
  | i16 x => bigEndian 2 x.toUInt16.toNat
  | u32 x => bigEndian 4 x.toNat
  | i32 x => bigEndian 4 x.toUInt32.toNat
  | u64 x => bigEndian 8 x.toNat
  | i64 x => bigEndian 8 x.toUInt64.toNat
  | f32 x => bigEndian 4 x.toNat
  | f64 x => bigEndian 8 x.toNat
  | string str => bigEndian 4 str.length ++ str

def write (t : Target) (buf : ByteBuffer) : Value → ByteBuffer
  | u8 x => buf.writeU8 t x
  | i8 x => buf.writeI8 t x
  | u16 x => buf.writeU16 t x
  | i16 x => buf.writeI16 t x
  | u32 x => buf.writeU32 t x
  | i32 x => buf.writeI32 t x
  | u64 x => buf.writeU64 t x
  | i64 x => buf.writeI64 t x
  | f32 x => buf.writeF32 t x
  | f64 x => buf.writeF64 t x
  | string str => buf.writeString t str

/-- A string is one that the machine can hold, and its length can be written. -/
def Fits (t : Target) : Value → Prop
  | string str => t.Holds str
  | _ => True

end Value

def ValueType.read (t : Target) : ValueType → Reader Value
  | u8 => do return .u8 (← readU8 t)
  | i8 => do return .i8 (← readI8 t)
  | u16 => do return .u16 (← readU16 t)
  | i16 => do return .i16 (← readI16 t)
  | u32 => do return .u32 (← readU32 t)
  | i32 => do return .i32 (← readI32 t)
  | u64 => do return .u64 (← readU64 t)
  | i64 => do return .i64 (← readI64 t)
  | f32 => do return .f32 (← readF32 t)
  | f64 => do return .f64 (← readF64 t)
  | string => do return .string (← readString t)

/-- The values are written to an empty buffer. -/
def writeAll (t : Target) (values : List Value) : ByteBuffer :=
  values.foldl (Value.write t) .new

def readAll (t : Target) : List ValueType → Reader (List Value)
  | [] => return []
  | type :: types => do
    let value ← type.read t
    let values ← readAll t types
    return value :: values

/-! ## What is written and read -/

section Values

variable {t : Target} {value : Value} {values : List Value}

/-- The bytes that are written. -/
def Value.written (t : Target) : Value → List UInt8
  | i16 x => t.memory 2 (if t.littleEndian then byteswapI16 x else x).toUInt16.toNat
  | value => value.encoding

/-- What is read of the encoding. -/
def Value.reread (t : Target) : Value → Value
  | i16 x => .i16 (if t.littleEndian then byteswapI16 (swapped x) else x)
  | value => value

theorem bigEndian_length {str : CString} (h : str.length < 2 ^ 32) :
    (UInt32.ofNat str.length).toNat = str.length :=
  UInt32.toNat_ofNat_of_lt' h

theorem data_write (hfits : value.Fits t) (buf : ByteBuffer) :
    (value.write t buf).data = buf.data ++ value.written t := by
  cases value with
  | string str =>
    rw [Value.write, data_writeString, bigEndian_length hfits.1]
    rfl
  | i16 x => rfl
  | _ => simp [Value.write, Value.written, Value.encoding, bigEndian]

theorem data_writeAll (hfits : ∀ v ∈ values, v.Fits t) :
    (writeAll t values).data = values.flatMap (Value.written t) := by
  suffices h : ∀ buf : ByteBuffer, (values.foldl (Value.write t) buf).data =
      buf.data ++ values.flatMap (Value.written t) from h .new
  induction values with
  | nil => simp
  | cons value values ih =>
    intro buf
    rw [List.foldl_cons, ih fun v hv => hfits v (List.mem_cons_of_mem _ hv),
      data_write (hfits value List.mem_cons_self), List.flatMap_cons, List.append_assoc]

theorem reads_i16 (x : Int16) :
    Reads t (readI16 t) (bigEndian 2 x.toUInt16.toNat)
      (if t.littleEndian then byteswapI16 (swapped x) else x) := by
  have hread : Reads t (read t 2) _ _ := .read (length_bigEndian 2 x.toUInt16.toNat)
  have h := hread.map fun v =>
    if t.littleEndian then byteswapI16 (UInt16.ofNat v).toInt16 else (UInt16.ofNat v).toInt16
  have hx : (if t.littleEndian then
        byteswapI16 (UInt16.ofNat (t.value (bigEndian 2 x.toUInt16.toNat))).toInt16
      else (UInt16.ofNat (t.value (bigEndian 2 x.toUInt16.toNat))).toInt16) =
      if t.littleEndian then byteswapI16 (swapped x) else x := by
    cases hb : t.littleEndian with
    | true =>
      have hv : t.value (bigEndian 2 x.toUInt16.toNat) = (swapped x).toUInt16.toNat := by
        rw [Target.value, if_pos hb, ← bigEndian_swapped,
          ofBigEndian_bigEndian_of_lt (UInt16.toNat_lt _)]
      simp [hv]
    | false =>
      have hv : t.value (bigEndian 2 x.toUInt16.toNat) = x.toUInt16.toNat := by
        rw [Target.value, if_neg (by simp [hb]), ofBigEndian_bigEndian_of_lt (UInt16.toNat_lt _)]
      simp [hv]
  rwa [hx] at h

theorem reads_value (hfits : value.Fits t) :
    Reads t (value.type.read t) value.encoding (value.reread t) := by
  cases value with
  | u8 x =>
    have hbytes : bigEndian 1 x.toNat = [x] := by simp [bigEndian]
    have h := (Reads.readU8 (t := t) x).map Value.u8
    rwa [← hbytes] at h
  | i8 x =>
    have hbytes : bigEndian 1 x.toUInt8.toNat = [x.toUInt8] := by simp [bigEndian]
    have h := (Reads.readI8 (t := t) x).map Value.i8
    rwa [← hbytes] at h
  | u16 x => exact (Reads.readU16 x).map Value.u16
  | i16 x => exact (reads_i16 x).map Value.i16
  | u32 x => exact (Reads.readU32 x).map Value.u32
  | i32 x => exact (Reads.readI32 x).map Value.i32
  | u64 x => exact (Reads.readU64 x).map Value.u64
  | i64 x => exact (Reads.readI64 x).map Value.i64
  | f32 x => exact (Reads.readF32 x).map Value.f32
  | f64 x => exact (Reads.readF64 x).map Value.f64
  | string str =>
    have h := (Reads.readString hfits).map Value.string
    rwa [bigEndian_length hfits.1] at h

theorem reads_all (hfits : ∀ v ∈ values, v.Fits t) :
    Reads t (readAll t (values.map Value.type)) (values.flatMap Value.encoding)
      (values.map (Value.reread t)) := by
  induction values with
  | nil => exact .pure []
  | cons value values ih =>
    have hrest := ih fun v hv => hfits v (List.mem_cons_of_mem _ hv)
    exact (reads_value (hfits value List.mem_cons_self)).bind (hrest.map _)

/-! ### Equal bytes -/

theorem flatMap_eq_flatMap_iff {α β : Type} {f g : α → List β}
    (hlen : ∀ a, (f a).length = (g a).length) (l : List α) :
    l.flatMap f = l.flatMap g ↔ ∀ a ∈ l, f a = g a := by
  induction l with
  | nil => simp
  | cons a l ih =>
    rw [List.flatMap_cons, List.flatMap_cons, List.forall_mem_cons, ← ih]
    constructor
    · exact fun h => List.append_inj h (hlen a)
    · rintro ⟨h, h'⟩
      rw [h, h']

/-- A number of 16 bits is swapped by the machine. -/
def Value.Swapped (t : Target) (P : Int16 → Prop) (value : Value) : Prop :=
  t.littleEndian = true → ∀ x, value = .i16 x → P x

theorem written_eq_iff (value : Value) :
    value.written t = value.encoding ↔ value.Swapped t Swaps := by
  cases value with
  | i16 x =>
    unfold Value.written Value.encoding Value.Swapped Target.memory
    cases t.littleEndian with
    | true => simp [Swaps, List.reverse_eq_iff]
    | false => simp
  | _ => exact ⟨fun _ _ _ h => (nomatch h), fun _ => rfl⟩

theorem reread_eq_iff (value : Value) :
    value.reread t = value ↔ value.Swapped t fun x => Swaps (swapped x) := by
  cases value with
  | i16 x =>
    unfold Value.reread Value.Swapped
    cases t.littleEndian with
    | true => simp [byteswapI16_swapped_iff]
    | false => simp
  | _ => exact ⟨fun _ _ _ h => (nomatch h), fun _ => rfl⟩

theorem map_reread_eq_iff :
    values.map (Value.reread t) = values ↔
      ∀ v ∈ values, v.Swapped t fun x => Swaps (swapped x) := by
  have hid : values.map (Value.reread t) = values.map id ↔ _ := List.map_inj_left
  rw [List.map_id] at hid
  exact hid.trans (forall₂_congr fun v _ => reread_eq_iff v)

theorem length_written (value : Value) : (value.written t).length = value.encoding.length := by
  cases value with
  | i16 x => rw [Value.written, Value.encoding, t.length_memory, length_bigEndian]
  | _ => rfl

theorem data_writeAll_eq_iff (hfits : ∀ v ∈ values, v.Fits t) :
    (writeAll t values).data = values.flatMap Value.encoding ↔
      ∀ v ∈ values, v.Swapped t Swaps := by
  rw [data_writeAll hfits, flatMap_eq_flatMap_iff length_written]
  exact forall₂_congr fun v _ => written_eq_iff v

theorem readAll_encoding (hfits : ∀ v ∈ values, v.Fits t)
    (hlen : (values.flatMap Value.encoding).length < 2 ^ t.sizeBits) :
    readAll t (values.map Value.type) (.ofBytes (values.flatMap Value.encoding)) =
      .ok (values.map (Value.reread t),
        ⟨values.flatMap Value.encoding, (values.flatMap Value.encoding).length⟩) := by
  have h := reads_all hfits _ [] [] (by simp) hlen
  rwa [List.length_nil, Nat.zero_add] at h

/-- A number survives if it is swapped rightly in both directions. -/
theorem forall_survives_iff :
    (t.littleEndian = true → ∀ x, .i16 x ∈ values → Survives x) ↔
      (∀ v ∈ values, v.Swapped t Swaps) ∧
        ∀ v ∈ values, v.Swapped t fun x => Swaps (swapped x) := by
  constructor
  · intro h
    refine ⟨fun v hv hlittle x hx => ?_, fun v hv hlittle x hx => ?_⟩
    · exact ((survives_iff x).mp (h hlittle x (hx ▸ hv))).1
    · exact ((survives_iff x).mp (h hlittle x (hx ▸ hv))).2
  · rintro ⟨hw, hr⟩ hlittle x hx
    exact (survives_iff x).mpr ⟨hw _ hx hlittle x rfl, hr _ hx hlittle x rfl⟩

/-! ### Positions -/

/-- A reader leaves the position a `size_t` number. -/
def Stays {α : Type} (t : Target) (d : Reader α) : Prop :=
  ∀ buf x buf', buf.position < 2 ^ t.sizeBits → d buf = .ok (x, buf') →
    buf'.position < 2 ^ t.sizeBits

theorem addSize_lt (t : Target) (a b : Nat) : t.addSize a b < 2 ^ t.sizeBits :=
  Nat.mod_lt _ (Nat.two_pow_pos _)

namespace Stays

variable {α β : Type}

theorem pure (x : α) : Stays t (Pure.pure x) := by
  intro buf y buf' hbuf h
  cases h
  exact hbuf

theorem bind {d : Reader α} {f : α → Reader β} (hd : Stays t d) (hf : ∀ x, Stays t (f x)) :
    Stays t (d >>= f) := by
  intro buf y buf' hbuf h
  change (d buf >>= fun p => f p.1 p.2) = _ at h
  cases hr : d buf with
  | error e =>
    rw [hr] at h
    cases h
  | ok p =>
    rw [hr] at h
    exact hf p.1 p.2 y buf' (hd buf p.1 p.2 hbuf hr) h

theorem read (n : Nat) : Stays t (Client.read t n) := by
  intro buf x buf' _ h
  rw [read_eq] at h
  split at h
  · cases h
  · cases hcopy : buf.copy n with
    | error e =>
      rw [hcopy] at h
      cases h
    | ok bs =>
      rw [hcopy] at h
      cases h
      exact addSize_lt t _ _

theorem readChars (length : UInt32) : Stays t (Client.readChars t length) := by
  intro buf x buf' _ h
  rw [readChars_eq] at h
  split at h
  · cases h
  · split at h
    · cases h
    · cases hcopy : buf.copy length.toNat with
      | error e =>
        rw [hcopy] at h
        cases h
      | ok bs =>
        rw [hcopy] at h
        cases h
        exact addSize_lt t _ _

theorem readValue (type : ValueType) : Stays t (type.read t) := by
  have number : ∀ {γ : Type} (n : Nat) (f : Nat → γ) (g : γ → Value),
      Stays t ((Client.read t n >>= fun v => Pure.pure (f v)) >>= fun x => Pure.pure (g x)) :=
    fun n f g => ((read n).bind fun _ => pure _).bind fun _ => pure _
  cases type with
  | string =>
    refine bind (bind ?_ readChars) fun _ => pure _
    exact (read 4).bind fun _ => pure _
  | _ => exact number _ _ _

theorem readAll (types : List ValueType) : Stays t (Client.readAll t types) := by
  induction types with
  | nil => exact pure []
  | cons type types ih =>
    exact (readValue type).bind fun _ => ih.bind fun _ => pure _

end Stays

end Values

/-! ## Round trips -/

/-- The values are written as their encodings, and read from these to the last byte. -/
structure RoundTrips (t : Target) (values : List Value) : Prop where
  written : (writeAll t values).data = values.flatMap Value.encoding
  read : readAll t (values.map Value.type) (.ofBytes (values.flatMap Value.encoding)) =
    .ok (values, ⟨values.flatMap Value.encoding, (values.flatMap Value.encoding).length⟩)

/-- **Round trips**: values are written and read back exactly if their bytes are no more than there
can be, and if, on a little-endian machine, the `int16_t` numbers among them survive. -/
theorem roundTrips_iff (t : Target) (values : List Value) (hfits : ∀ v ∈ values, v.Fits t) :
    RoundTrips t values ↔
      (values.flatMap Value.encoding).length < 2 ^ t.sizeBits ∧
        (t.littleEndian = true → ∀ x, .i16 x ∈ values → Survives x) := by
  rw [forall_survives_iff, ← data_writeAll_eq_iff hfits, ← map_reread_eq_iff]
  constructor
  · rintro ⟨hw, hr⟩
    have hlen := Stays.readAll (t := t) _ _ _ _ (Nat.two_pow_pos _) hr
    rw [readAll_encoding hfits hlen] at hr
    exact ⟨hlen, hw, (Prod.mk.inj (Except.ok.inj hr)).1⟩
  · rintro ⟨hlen, hw, hr⟩
    refine ⟨hw, ?_⟩
    rw [readAll_encoding hfits hlen, hr]

/-- A machine with 64 bits writes a mixed list and reads it back. -/
theorem roundTrips_iff_mixed :
    RoundTrips (.x64 false) [.i8 (-3), .string [104, 105], .i16 (-1), .i64 (-70000), .f32 0] := by
  refine (roundTrips_iff (.x64 false) _ fun v hv => ?_).mpr ⟨by decide, fun _ x hx => ?_⟩
  · simp only [List.mem_cons, List.not_mem_nil, or_false] at hv
    rcases hv with rfl | rfl | rfl | rfl | rfl
    · trivial
    · exact ⟨by decide, by decide⟩
    · trivial
    · trivial
    · trivial
  · simp at hx
    exact .inl hx

/-- -2 is written as -1. -/
theorem negative_i16_lost :
    (writeAll (.x64 false) [.i16 (-2)]).data = [255, 255] ∧
      ¬RoundTrips (.x64 false) [.i16 (-2)] :=
  ⟨by decide, fun h => absurd h.written (by decide)⟩

end Globed.Client
