import Globed.Base.Prefixes
import Globed.Client.Reception

/-!
# What the client accepts

The formats of the nine kinds of packets of the server, as languages of bytes (`packetFormat`), and
that `recvPacket` accepts exactly the bytes that start with one of them: it returns a packet if
there is such a start, and otherwise throws, leaves `pingTimes` as it was, and has read nothing past
the end (`recvPacket_accepts_iff`).
-/

namespace Globed.Client

open Bytes Calls Prefixes

/-! ## Formats -/

abbrev Format := Language UInt8

def u16Bytes (x : UInt16) : List UInt8 := bigEndian 2 x.toNat

def u32Bytes (x : UInt32) : List UInt8 := bigEndian 4 x.toNat

/-- A length, and then as many bytes. -/
def stringFormat : Format := tagged u32Bytes fun length => ofLength length.toNat

def gameModeFormat : Format := {bs | ∃ number : UInt8, number ≤ 6 ∧ bs = [number]}

/-- Three numbers, the game mode and the flags. -/
def specificIconFormat : Format := ofLength 12 * (gameModeFormat * ofLength 1)

/-- The time, two icons, two numbers and the flags. -/
def playerDataFormat : Format :=
  ofLength 4 * (specificIconFormat * (specificIconFormat * ofLength 9))

/-- Ten numbers, the glow and the name. -/
def accountDataFormat : Format := ofLength 41 * stringFormat

/-- The id of a ping that was sent, and a number. -/
def pingResponseFormat (pingTimes : FiniteMap Int32 (CString × Time)) : Format :=
  tagged i32Bytes fun pingId => if pingTimes.contains pingId then ofLength 4 else 0

/-- What follows the type of a packet. -/
def bodyFormat (pingTimes : FiniteMap Int32 (CString × Time)) : PacketType → Format
  | .checkedIn => ofLength 2
  | .keepaliveResponse => ofLength 4
  | .serverDisconnect => stringFormat
  | .levelData => tagged u16Bytes fun count => (ofLength 4 * playerDataFormat) ^ count.toNat
  | .pingResponse => pingResponseFormat pingTimes
  | .playerAccountDataResponse => ofLength 4 * accountDataFormat
  | .levelListResponse => tagged u32Bytes fun count => ofLength 6 ^ count.toNat
  | .textMessageSent => ofLength 4 * stringFormat
  | .serverBroadcast => stringFormat * ofLength 3
  | _ => 0

/-- A complete packet of the server. -/
def packetFormat (pingTimes : FiniteMap Int32 (CString × Time)) : Format :=
  tagged (fun packetType : PacketType => [ptToNumber packetType]) (bodyFormat pingTimes)

/-- A machine as it is: sizes have 32 or 64 bits, and a string can be as long as a packet, but on 32
bits not as long as half of the memory. -/
structure Target.Standard (t : Target) : Prop where
  sizeBits : t.sizeBits = 32 ∨ t.sizeBits = 64
  stringMax_ge : 65536 ≤ t.stringMax
  stringMax_lt : t.sizeBits = 32 → t.stringMax < 2 ^ 31

/-! ## Readers -/

section Readers

variable {t : Target} {α β : Type} {L L' : Format} {pre rest bs : List UInt8}

/-- The reader has read the one string of the format that stands there, or there is none, and it has
thrown. -/
def Outcome (L : Format) (pre rest : List UInt8) : Except Failure (α × ByteBuffer) → Prop
  | .ok (_, buf) => ∃ bs, Starts L rest bs ∧ buf = ⟨pre ++ rest, pre.length + bs.length⟩
  | .error e => e ≠ .outOfBounds ∧ StartsNot L rest

theorem Outcome.mul {r : Except Failure (α × ByteBuffer)} (h' : Outcome L' (pre ++ bs) rest r)
    (h : Starts L (bs ++ rest) bs) : Outcome (L * L') pre (bs ++ rest) r := by
  cases r with
  | error e => exact ⟨h'.1, h.mul_startsNot h'.2⟩
  | ok p =>
    obtain ⟨bs', hstarts, hbuf⟩ := h'
    refine ⟨bs ++ bs', h.mul hstarts, hbuf.trans ?_⟩
    simp [Nat.add_assoc]

theorem Outcome.tagged {ι : Type} {tag : ι → List UInt8} {L : ι → Format} {n : Nat}
    (hlen : ∀ i, (tag i).length = n) (hinj : Function.Injective tag) {i : ι}
    {r : Except Failure (α × ByteBuffer)} (h : Outcome (L i) (pre ++ tag i) rest r) :
    Outcome (tagged tag L) pre (tag i ++ rest) r := by
  cases r with
  | error e => exact ⟨h.1, h.2.tagged hlen hinj⟩
  | ok p =>
    obtain ⟨bs', hstarts, hbuf⟩ := h
    refine ⟨tag i ++ bs', hstarts.tagged hlen hinj, hbuf.trans ?_⟩
    simp [Nat.add_assoc]

/-- The reader accepts exactly the format, wherever it stands in a packet. -/
def Recognizes (d : Reader α) (L : Format) : Prop :=
  ∀ pre rest : List UInt8, (pre ++ rest).length ≤ 65536 →
    Outcome L pre rest (d ⟨pre ++ rest, pre.length⟩)

theorem Recognizes.pure (x : α) : Recognizes (Pure.pure x) 1 :=
  fun _ rest _ => ⟨[], starts_one rest, rfl⟩

theorem Recognizes.bind {d : Reader α} {f : α → Reader β} (hd : Recognizes d L)
    (hf : ∀ x, Recognizes (f x) L') : Recognizes (d >>= f) (L * L') := by
  intro pre rest hlen
  have h := hd pre rest hlen
  change Outcome (L * L') pre rest (d ⟨pre ++ rest, pre.length⟩ >>= fun p => f p.1 p.2)
  cases hr : d ⟨pre ++ rest, pre.length⟩ with
  | error e =>
    rw [hr] at h
    exact ⟨h.1, h.2.mul L'⟩
  | ok p =>
    rw [hr] at h
    obtain ⟨x, buf⟩ := p
    obtain ⟨bs, hstarts, rfl⟩ := h
    obtain ⟨rest', rfl⟩ := hstarts.isPrefix
    refine Outcome.mul ?_ hstarts
    have hnext := hf x (pre ++ bs) rest' (by simpa using hlen)
    change Outcome L' (pre ++ bs) rest' (f x ⟨pre ++ (bs ++ rest'), pre.length + bs.length⟩)
    simpa using hnext

/-- A reader of numbers, each of which has its own `n` bytes. -/
structure ReadsNumber (t : Target) (d : Reader α) (n : Nat) (bytes : α → List UInt8) : Prop where
  size_le : n ≤ 4
  reads : ∀ x, Reads t d (bytes x) x
  length : ∀ x, (bytes x).length = n
  surjective : ∀ bs, bs.length = n → ∃ x, bytes x = bs
  short : ∀ pre rest : List UInt8, (pre ++ rest).length ≤ 65536 → rest.length < n →
    d ⟨pre ++ rest, pre.length⟩ =
      .error (.runtimeError "ByteBuffer read beyond end of buffer")

namespace ReadsNumber

variable {d : Reader α} {n : Nat} {bytes : α → List UInt8}

theorem lt_sizeBits {data : List UInt8} (h : data.length ≤ 65536) :
    data.length < 2 ^ t.sizeBits :=
  t.lt_two_pow_sizeBits (Nat.lt_of_le_of_lt h (by decide))

theorem reads_at (hd : ReadsNumber t d n bytes) (x : α)
    (hlen : (pre ++ (bytes x ++ rest)).length ≤ 65536) :
    d ⟨pre ++ (bytes x ++ rest), pre.length⟩ =
      .ok (x, ⟨pre ++ (bytes x ++ rest), pre.length + (bytes x).length⟩) :=
  hd.reads x _ pre rest rfl (lt_sizeBits hlen)

theorem injective (hd : ReadsNumber t d n bytes) : Function.Injective bytes := by
  intro x y hxy
  have hlen : ([] ++ (bytes x ++ [])).length ≤ 65536 := by
    have hx := hd.length x
    have hn := hd.size_le
    simp
    omega
  have hx := hd.reads_at x hlen
  rw [hxy] at hlen hx
  exact (Prod.mk.inj (Except.ok.inj (hx.symm.trans (hd.reads_at y hlen)))).1

/-- The number, if its bytes are there. -/
theorem cases (hd : ReadsNumber t d n bytes) (rest : List UInt8) :
    (∃ x rest', rest = bytes x ++ rest') ∨ rest.length < n := by
  rcases Nat.lt_or_ge rest.length n with h | h
  · exact .inr h
  · obtain ⟨x, hx⟩ := hd.surjective (rest.take n) (List.length_take_of_le h)
    exact .inl ⟨x, rest.drop n, by rw [hx, List.take_append_drop]⟩

theorem startsNot (hd : ReadsNumber t d n bytes) {L : α → Format} (h : rest.length < n) :
    StartsNot (tagged bytes L) rest := by
  apply startsNot_tagged
  intro x hpre
  have hle := hpre.length_le
  rw [hd.length] at hle
  omega

/-- What follows a number is of the format that the number chooses. -/
theorem bind (hd : ReadsNumber t d n bytes) {L : α → Format} {f : α → Reader β}
    (hf : ∀ x, Recognizes (f x) (L x)) : Recognizes (d >>= f) (tagged bytes L) := by
  intro pre rest hlen
  change Outcome _ pre rest (d ⟨pre ++ rest, pre.length⟩ >>= fun p => f p.1 p.2)
  rcases hd.cases rest with ⟨x, rest', rfl⟩ | hshort
  · rw [hd.reads_at x hlen]
    apply Outcome.tagged hd.length hd.injective
    have hnext := hf x (pre ++ bytes x) rest' (by simpa using hlen)
    change Outcome _ _ _ (f x ⟨pre ++ (bytes x ++ rest'), pre.length + (bytes x).length⟩)
    simpa using hnext
  · rw [hd.short pre rest hlen hshort]
    exact ⟨fun h => (nomatch h), hd.startsNot hshort⟩

theorem recognizes (hd : ReadsNumber t d n bytes) : Recognizes d (ofLength n) := by
  intro pre rest hlen
  rcases hd.cases rest with ⟨x, rest', rfl⟩ | hshort
  · rw [hd.reads_at x hlen]
    have hstarts := starts_ofLength (bytes x) rest'
    rw [hd.length] at hstarts
    exact ⟨bytes x, hstarts, rfl⟩
  · rw [hd.short pre rest hlen hshort]
    exact ⟨fun h => (nomatch h), startsNot_ofLength hshort⟩

end ReadsNumber

/-! ### Numbers -/

/-- Too few bytes are left for a number. -/
theorem read_short {n : Nat} (hn : n ≤ 4) (hlen : (pre ++ rest).length ≤ 65536)
    (hshort : rest.length < n) (f : Nat → Reader α) :
    (read t n >>= f) ⟨pre ++ rest, pre.length⟩ =
      .error (.runtimeError "ByteBuffer read beyond end of buffer") := by
  have hsum : t.addSize pre.length n = pre.length + n := by
    apply t.addSize_of_lt
    apply t.lt_two_pow_sizeBits
    rw [List.length_append] at hlen
    omega
  have hread : read t n ⟨pre ++ rest, pre.length⟩ =
      .error (.runtimeError "ByteBuffer read beyond end of buffer") := by
    rw [read_eq, hsum, if_pos]
    simp only [List.length_append]
    omega
  change read t n ⟨pre ++ rest, pre.length⟩ >>= (fun p => f p.1 p.2) = _
  rw [hread]
  rfl

/-- Any `n` bytes are those of a number. -/
theorem exists_bigEndian_eq {n : Nat} {toNat : α → Nat} (ofNat : Nat → α)
    (h : ∀ v < 256 ^ n, toNat (ofNat v) = v) (bs : List UInt8) (hlen : bs.length = n) :
    ∃ x, bigEndian n (toNat x) = bs := by
  refine ⟨ofNat (ofBigEndian bs), ?_⟩
  rw [h _ (hlen ▸ ofBigEndian_lt bs), ← hlen, bigEndian_ofBigEndian]

theorem readsNumber_readU8 : ReadsNumber t (readU8 t) 1 fun x => [x] where
  size_le := by decide
  reads := .readU8
  length _ := rfl
  surjective bs hlen := by
    obtain ⟨b, rfl⟩ := List.length_eq_one_iff.mp hlen
    exact ⟨b, rfl⟩
  short _ _ hlen hshort := read_short (by decide) hlen hshort _

theorem readsNumber_readU16 : ReadsNumber t (readU16 t) 2 u16Bytes where
  size_le := by decide
  reads := .readU16
  length _ := length_bigEndian 2 _
  surjective := exists_bigEndian_eq UInt16.ofNat fun _ hv => UInt16.toNat_ofNat_of_lt' hv
  short _ _ hlen hshort := read_short (by decide) hlen hshort _

theorem readsNumber_readU32 : ReadsNumber t (readU32 t) 4 u32Bytes where
  size_le := by decide
  reads := .readU32
  length _ := length_bigEndian 4 _
  surjective := exists_bigEndian_eq UInt32.ofNat fun _ hv => UInt32.toNat_ofNat_of_lt' hv
  short _ _ hlen hshort := read_short (by decide) hlen hshort _

theorem readsNumber_readI32 : ReadsNumber t (readI32 t) 4 i32Bytes where
  size_le := by decide
  reads := .readI32
  length _ := length_bigEndian 4 _
  surjective := exists_bigEndian_eq (fun v => (UInt32.ofNat v).toInt32) fun _ hv => by
    simpa using UInt32.toNat_ofNat_of_lt' hv
  short _ _ hlen hshort := read_short (by decide) hlen hshort _

theorem readsNumber_readF32 : ReadsNumber t (readF32 t) 4 u32Bytes where
  size_le := by decide
  reads := .readF32
  length _ := length_bigEndian 4 _
  surjective := exists_bigEndian_eq UInt32.ofNat fun _ hv => UInt32.toNat_ofNat_of_lt' hv
  short _ _ hlen hshort := read_short (by decide) hlen hshort _

/-! ### Strings -/

/-- The position after a string that is longer than the packet may wrap around, but no string is
that long. -/
theorem readChars_short (ht : t.Standard) {length : UInt32} (hlen : (pre ++ rest).length ≤ 65536)
    (hshort : rest.length < length.toNat) :
    ∃ e, e ≠ .outOfBounds ∧ readChars t length ⟨pre ++ rest, pre.length⟩ = .error e := by
  rw [readChars_eq]
  split
  · exact ⟨.runtimeError _, fun h => (nomatch h), rfl⟩
  · next hfits =>
    have hlt : length.toNat < 2 ^ 32 := length.toNat_lt
    have hbound : length.toNat > t.stringMax := by
      simp only [List.length_append] at hlen hfits
      rcases ht.sizeBits with h32 | h64
      · have hmax := ht.stringMax_lt h32
        rw [Target.addSize, h32] at hfits
        omega
      · rw [Target.addSize, h64] at hfits
        omega
    rw [if_pos hbound]
    exact ⟨.lengthError, fun h => (nomatch h), rfl⟩

theorem recognizes_readChars (ht : t.Standard) (length : UInt32) :
    Recognizes (readChars t length) (ofLength length.toNat) := by
  intro pre rest hlen
  rcases Nat.lt_or_ge rest.length length.toNat with hshort | hge
  · obtain ⟨e, he, hr⟩ := readChars_short ht hlen hshort
    rw [hr]
    exact ⟨he, startsNot_ofLength hshort⟩
  · obtain ⟨str, rest', rfl, hstr⟩ : ∃ str rest', rest = str ++ rest' ∧
        length.toNat = str.length :=
      ⟨rest.take length.toNat, rest.drop length.toNat, (List.take_append_drop _ _).symm,
        (List.length_take_of_le hge).symm⟩
    have hmax : str.length ≤ t.stringMax := by
      have hmax := ht.stringMax_ge
      simp only [List.length_append] at hlen
      omega
    have hdata := ReadsNumber.lt_sizeBits (t := t) hlen
    rw [Reads.readChars hstr hmax _ pre rest' rfl hdata, hstr]
    exact ⟨str, starts_ofLength str rest', rfl⟩

theorem recognizes_readString (ht : t.Standard) : Recognizes (readString t) stringFormat :=
  readsNumber_readU32.bind fun length => recognizes_readChars ht length

/-! ### Players -/

theorem Recognizes.liftOk {d : Except Failure α} {f : α → Reader β} {x : α} (hd : d = .ok x)
    (hf : Recognizes (f x) L) : Recognizes (liftM d >>= f) L := by
  subst hd
  exact hf

theorem Recognizes.liftError {d : Except Failure α} {f : α → Reader β} {e : Failure}
    (hd : d = .error e) (he : e ≠ .outOfBounds) : Recognizes (liftM d >>= f) 0 := by
  subst hd
  exact fun _ _ _ => ⟨he, startsNot_zero _⟩

theorem numberToGm_cases (number : UInt8) :
    (number ≤ 6 ∧ ∃ gm, numberToGm number = .ok gm) ∨
      (¬number ≤ 6 ∧ ∃ e, numberToGm number = .error e ∧ e ≠ .outOfBounds) := by
  unfold numberToGm
  split_ifs with h₀ h₁ h₂ h₃ h₄ h₅ h₆
  case neg =>
    refine .inr ⟨fun hle => ?_, .invalidArgument _, rfl, fun h => (nomatch h)⟩
    have hnat : number.toNat ≤ 6 := hle
    simp only [← UInt8.toNat_inj, UInt8.reduceToNat] at h₀ h₁ h₂ h₃ h₄ h₅ h₆
    omega
  all_goals
    subst number
    exact .inl ⟨by decide, _, rfl⟩

/-- A byte is read that must be the number of a game mode. -/
theorem recognizes_gameMode {f : IconGameMode → Reader β} (hf : ∀ gm, Recognizes (f gm) L) :
    Recognizes (readU8 t >>= fun number => liftM (numberToGm number) >>= f)
      (gameModeFormat * L) := by
  have hformat : gameModeFormat * L =
      tagged (fun number : UInt8 => [number]) fun number => if number ≤ 6 then L else 0 := by
    ext bs
    rw [Language.mem_mul]
    constructor
    · rintro ⟨_, ⟨number, hle, rfl⟩, b, hb, rfl⟩
      refine ⟨number, b, ?_, rfl⟩
      dsimp only
      rwa [if_pos hle]
    · rintro ⟨number, b, hb, rfl⟩
      dsimp only at hb
      by_cases hle : number ≤ 6
      · rw [if_pos hle] at hb
        exact ⟨[number], ⟨number, hle, rfl⟩, b, hb, rfl⟩
      · rw [if_neg hle] at hb
        exact absurd hb (Language.notMem_zero b)
  rw [hformat]
  apply readsNumber_readU8.bind
  intro number
  rcases numberToGm_cases number with ⟨hle, gm, hgm⟩ | ⟨hgt, e, herror, he⟩
  · rw [if_pos hle]
    exact .liftOk hgm (hf gm)
  · rw [if_neg hgt]
    exact .liftError herror he

/-- A number that is not looked at. -/
theorem ReadsNumber.skip {d : Reader α} {n : Nat} {bytes : α → List UInt8}
    (hd : ReadsNumber t d n bytes) {m : Nat} {f : α → Reader β}
    (hf : ∀ x, Recognizes (f x) (ofLength m * L)) :
    Recognizes (d >>= f) (ofLength (m + n) * L) := by
  rw [Nat.add_comm, ofLength_add, mul_assoc]
  exact hd.recognizes.bind hf

/-- The last number of a value. -/
theorem ReadsNumber.last {d : Reader α} {n : Nat} {bytes : α → List UInt8}
    (hd : ReadsNumber t d n bytes) (g : α → β) :
    Recognizes (d >>= fun x => Pure.pure (g x)) (ofLength n) := by
  rw [← mul_one (ofLength n)]
  exact hd.recognizes.bind fun x => .pure (g x)

theorem recognizes_decodeSpecificIcon :
    Recognizes (decodeSpecificIcon t) specificIconFormat := by
  apply readsNumber_readF32.skip
  intro x
  apply readsNumber_readF32.skip
  intro y
  apply readsNumber_readF32.recognizes.bind
  intro rot
  apply recognizes_gameMode
  intro gameMode
  exact readsNumber_readU8.last _

theorem recognizes_decodePlayerData : Recognizes (decodePlayerData t) playerDataFormat := by
  apply readsNumber_readF32.recognizes.bind
  intro timestamp
  apply recognizes_decodeSpecificIcon.bind
  intro player1
  apply recognizes_decodeSpecificIcon.bind
  intro player2
  rw [← mul_one (ofLength 9)]
  apply readsNumber_readF32.skip
  intro camX
  apply readsNumber_readF32.skip
  intro camY
  rw [mul_one]
  exact readsNumber_readU8.last _

theorem recognizes_decodeAccountData (ht : t.Standard) :
    Recognizes (decodeAccountData t) accountDataFormat := by
  apply readsNumber_readI32.skip
  intro cube
  apply readsNumber_readI32.skip
  intro ship
  apply readsNumber_readI32.skip
  intro ball
  apply readsNumber_readI32.skip
  intro ufo
  apply readsNumber_readI32.skip
  intro wave
  apply readsNumber_readI32.skip
  intro robot
  apply readsNumber_readI32.skip
  intro spider
  apply readsNumber_readI32.skip
  intro color1
  apply readsNumber_readI32.skip
  intro color2
  apply readsNumber_readI32.skip
  intro deathEffect
  apply readsNumber_readU8.recognizes.bind
  intro glow
  rw [← mul_one stringFormat]
  exact (recognizes_readString ht).bind fun name => .pure _

/-! ### Lists -/

theorem recognizes_readPlayers (env : Env) (accountId : Int32) (n : Nat)
    (players : FiniteMap Int32 PlayerData) :
    Recognizes (GameSocket.readPlayers env accountId n players)
      ((ofLength 4 * playerDataFormat) ^ n) := by
  induction n generalizing players with
  | zero => exact .pure players
  | succ n ih =>
    rw [pow_succ', mul_assoc]
    apply readsNumber_readI32.recognizes.bind
    intro playerId
    apply recognizes_decodePlayerData.bind
    intro playerData
    split
    · exact ih players
    · exact ih _

theorem recognizes_readLevels (env : Env) (n : Nat) (levels : FiniteMap Int32 UInt16) :
    Recognizes (GameSocket.readLevels env n levels) (ofLength 6 ^ n) := by
  induction n generalizing levels with
  | zero => exact .pure levels
  | succ n ih =>
    rw [pow_succ']
    apply readsNumber_readI32.skip
    intro levelId
    apply readsNumber_readU16.recognizes.bind
    intro playerCount
    exact ih _

end Readers

/-! ## Packets -/

section Packets

variable {env : Env} {α β : Type} {L L' : Format} {w w' : World}

/-- The part of `recvPacket` accepts exactly the format, wherever it stands in a packet, and if it
throws, `pingTimes` is as it was. -/
def Accepts (d : Parse α) (w : World) (L : Format) : Prop :=
  ∀ pre rest : List UInt8, (pre ++ rest).length ≤ 65536 →
    Outcome L pre rest (d ⟨pre ++ rest, pre.length⟩ w).1 ∧
      ∀ e, (d ⟨pre ++ rest, pre.length⟩ w).1 = .error e →
        (d ⟨pre ++ rest, pre.length⟩ w).2.gameSocket.pingTimes = w.gameSocket.pingTimes

namespace Accepts

theorem throw {e : Failure} (he : e ≠ .outOfBounds) : Accepts (MonadExcept.throw e : Parse α) w 0 :=
  fun _ _ _ => ⟨⟨he, startsNot_zero _⟩, fun _ _ => rfl⟩

/-- From the start of a buffer. -/
theorem ofBytes (h : Accepts d w L) {bytes : List UInt8} (hlen : bytes.length ≤ 65536) :
    Outcome L [] bytes (d (.ofBytes bytes) w).1 ∧
      ∀ e, (d (.ofBytes bytes) w).1 = .error e →
        (d (.ofBytes bytes) w).2.gameSocket.pingTimes = w.gameSocket.pingTimes :=
  h [] bytes hlen

/-- A step that does not touch the buffer, and returns. -/
theorem of_ok {d : Parse α} {x : α} (hd : ∀ buf, d buf w = (.ok (x, buf), w')) : Accepts d w 1 := by
  intro pre rest _
  rw [hd]
  exact ⟨⟨[], starts_one rest, rfl⟩, fun _ h => (nomatch h)⟩

theorem pure (x : α) : Accepts (Pure.pure x) w 1 := of_ok fun _ => rfl

theorem bindRead_apply (d : Reader α) (f : α → Parse β) (buf : ByteBuffer) (w : World) :
    (liftM d >>= f) buf w =
      match d buf with
      | .ok (x, buf') => f x buf' w
      | .error e => (.error e, w) := by
  change Call.bind (liftM (d buf)) (fun p => f p.1 p.2) w = _
  cases d buf <;> rfl

theorem bindRead {d : Reader α} {f : α → Parse β} (hd : Recognizes d L)
    (hf : ∀ x, Accepts (f x) w L') : Accepts (liftM d >>= f) w (L * L') := by
  intro pre rest hlen
  have h := hd pre rest hlen
  rw [bindRead_apply]
  cases hr : d ⟨pre ++ rest, pre.length⟩ with
  | error e =>
    rw [hr] at h
    exact ⟨⟨h.1, h.2.mul L'⟩, fun _ _ => rfl⟩
  | ok p =>
    rw [hr] at h
    obtain ⟨x, buf⟩ := p
    obtain ⟨bs, hstarts, rfl⟩ := h
    obtain ⟨rest', rfl⟩ := hstarts.isPrefix
    obtain ⟨hout, hpings⟩ := hf x (pre ++ bs) rest' (by simpa using hlen)
    have hbuf : (⟨(pre ++ bs) ++ rest', (pre ++ bs).length⟩ : ByteBuffer) =
        ⟨pre ++ (bs ++ rest'), pre.length + bs.length⟩ := by simp
    rw [hbuf] at hout hpings
    exact ⟨hout.mul hstarts, hpings⟩

/-- What follows a number is of the format that the number chooses. -/
theorem bindNumber {t : Target} {d : Reader α} {n : Nat} {bytes : α → List UInt8}
    (hd : ReadsNumber t d n bytes) {L : α → Format} {f : α → Parse β}
    (hf : ∀ x, Accepts (f x) w (L x)) : Accepts (liftM d >>= f) w (tagged bytes L) := by
  intro pre rest hlen
  rw [bindRead_apply]
  rcases hd.cases rest with ⟨x, rest', rfl⟩ | hshort
  · rw [hd.reads_at x hlen]
    obtain ⟨hout, hpings⟩ := hf x (pre ++ bytes x) rest' (by simpa using hlen)
    have hbuf : (⟨(pre ++ bytes x) ++ rest', (pre ++ bytes x).length⟩ : ByteBuffer) =
        ⟨pre ++ (bytes x ++ rest'), pre.length + (bytes x).length⟩ := by simp
    rw [hbuf] at hout hpings
    exact ⟨hout.tagged hd.length hd.injective, hpings⟩
  · rw [hd.short pre rest hlen hshort]
    exact ⟨⟨fun h => (nomatch h), hd.startsNot hshort⟩, fun _ _ => rfl⟩

/-- The last value of a packet. -/
theorem mapRead {d : Reader α} (hd : Recognizes d L) (g : α → β) :
    Accepts (liftM d >>= fun x => Pure.pure (g x)) w L := by
  rw [← mul_one L]
  exact bindRead hd fun x => pure (g x)

/-- A step that does not touch the buffer, nor `pingTimes`. -/
theorem bindCall {c : Net α} {f : α → Parse β} {x : α} (hc : c w = (.ok x, w'))
    (hpings : w'.gameSocket.pingTimes = w.gameSocket.pingTimes) (hf : Accepts (f x) w' L) :
    Accepts (liftM c >>= f) w L := by
  intro pre rest hlen
  have hrun : (liftM c >>= f) ⟨pre ++ rest, pre.length⟩ w =
      f x ⟨pre ++ rest, pre.length⟩ w' := by
    have hcall : (liftM c : Parse α) ⟨pre ++ rest, pre.length⟩ w =
        (.ok (x, ⟨pre ++ rest, pre.length⟩), w') := Call.bind_of_ok hc _
    exact Call.bind_of_ok hcall _
  rw [hrun]
  obtain ⟨hout, hkept⟩ := hf pre rest hlen
  exact ⟨hout, fun e he => (hkept e he).trans hpings⟩

end Accepts

namespace GameSocket

theorem accepts_pingResponse :
    Accepts (parseBody env .pingResponse) w (pingResponseFormat w.gameSocket.pingTimes) := by
  have hnow : readNext env.systemClock w = (.ok _, ticked w) := rfl
  have hsocket : getSocket (ticked w) = (.ok w.gameSocket, ticked w) := rfl
  apply Accepts.bindCall hnow rfl
  apply Accepts.bindNumber readsNumber_readI32
  intro pingId
  apply Accepts.bindCall hsocket rfl
  cases hget : w.gameSocket.pingTimes.get pingId with
  | none =>
    rw [if_neg (by simp [FiniteMap.contains, hget])]
    exact .throw (by decide)
  | some sent =>
    rw [if_pos (FiniteMap.contains_iff.mpr ⟨sent, hget⟩), ← mul_one (ofLength 4)]
    apply Accepts.bindRead readsNumber_readU32.recognizes
    intro playerCount
    exact .of_ok fun _ => rfl

/-- The packet of each type. -/
theorem accepts_parseBody (ht : env.target.Standard) (packetType : PacketType) :
    Accepts (parseBody env packetType) w (bodyFormat w.gameSocket.pingTimes packetType) := by
  cases packetType with
  | checkedIn => exact .mapRead readsNumber_readU16.recognizes _
  | keepaliveResponse =>
    have hnow : readNext env.highResolutionClock w = (.ok _, ticked w) := rfl
    have hsocket : getSocket (ticked w) = (.ok w.gameSocket, ticked w) := rfl
    apply Accepts.bindCall hnow rfl
    apply Accepts.bindCall hsocket rfl
    exact .mapRead readsNumber_readU32.recognizes _
  | serverDisconnect => exact .mapRead (recognizes_readString ht) _
  | levelData =>
    have hsocket : getSocket w = (.ok w.gameSocket, w) := rfl
    apply Accepts.bindNumber readsNumber_readU16
    intro count
    apply Accepts.bindCall hsocket rfl
    exact .mapRead (recognizes_readPlayers env _ _ _) _
  | pingResponse => exact accepts_pingResponse
  | playerAccountDataResponse =>
    apply Accepts.bindRead readsNumber_readI32.recognizes
    intro playerId
    exact .mapRead (recognizes_decodeAccountData ht) _
  | levelListResponse =>
    apply Accepts.bindNumber readsNumber_readU32
    intro count
    exact .mapRead (recognizes_readLevels env _ _) _
  | textMessageSent =>
    apply Accepts.bindRead readsNumber_readI32.recognizes
    intro sender
    exact .mapRead (recognizes_readString ht) _
  | serverBroadcast =>
    apply Accepts.bindRead (recognizes_readString ht)
    intro message
    have hcolor : (ofLength 3 : Format) = ofLength 1 * (ofLength 1 * ofLength 1) := by
      rw [← ofLength_add, ← ofLength_add]
    rw [hcolor]
    apply Accepts.bindRead readsNumber_readU8.recognizes
    intro r
    apply Accepts.bindRead readsNumber_readU8.recognizes
    intro g
    exact .mapRead readsNumber_readU8.recognizes _
  | _ => exact .throw fun h => (nomatch h)

/-- What follows a byte, if it is the number of a type. -/
def numberFormat (pingTimes : FiniteMap Int32 (CString × Time)) (number : UInt8) : Format :=
  match numberToPt number with
  | .ok packetType => bodyFormat pingTimes packetType
  | .error _ => 0

theorem accepts_parsePacket (ht : env.target.Standard) :
    Accepts (parsePacket env) w (packetFormat w.gameSocket.pingTimes) := by
  -- a byte is read, and it must be the number of a type
  have hformat : packetFormat w.gameSocket.pingTimes =
      tagged (fun number : UInt8 => [number]) (numberFormat w.gameSocket.pingTimes) := by
    ext bs
    constructor
    · rintro ⟨packetType, b, hb, rfl⟩
      refine ⟨ptToNumber packetType, b, ?_, rfl⟩
      rwa [numberFormat, numberToPt_ptToNumber]
    · rintro ⟨number, b, hb, rfl⟩
      rcases numberToPt_cases number with ⟨packetType, hpt, rfl⟩ | ⟨e, hpt, -⟩
      · rw [numberFormat, hpt] at hb
        exact ⟨packetType, b, hb, rfl⟩
      · rw [numberFormat, hpt] at hb
        exact absurd hb (Language.notMem_zero b)
  rw [hformat]
  apply Accepts.bindNumber readsNumber_readU8
  intro number
  rcases numberToPt_cases number with ⟨packetType, hpt, -⟩ | ⟨e, hpt, he⟩
  · rw [numberFormat, hpt]
    exact accepts_parseBody ht packetType
  · rw [numberFormat, hpt]
    exact .throw he

/-- **Exactly the grammar**: of any bytes, `recvPacket` returns a packet if they start with a packet
of one of the formats, and only then; and if it throws, `pingTimes` is as it was. It never reads
past the end of the bytes. -/
theorem recvPacket_accepts_iff (ht : env.target.Standard) {bytes : List UInt8} (hne : bytes ≠ [])
    (hlen : bytes.length ≤ 65536) (source : SockAddr) (w : World) :
    let r := recvPacket env (some ⟨source, bytes⟩) w
    ((∃ pkt, r.1 = .ok pkt) ↔ ∃ bs ∈ packetFormat w.gameSocket.pingTimes, bs <+: bytes) ∧
      (∀ e, r.1 = .error e → r.2.gameSocket.pingTimes = w.gameSocket.pingTimes) ∧
      r.1 ≠ .error .outOfBounds := by
  intro r
  have haccepts : Accepts (parsePacket env) (w.heardFrom source) _ := accepts_parsePacket ht
  obtain ⟨houtcome, hkept⟩ := haccepts.ofBytes hlen
  have hr : r = (parsePacket env (.ofBytes bytes) >>= fun p => pure p.1) (w.heardFrom source) :=
    recvPacket_eq hne hlen source w
  have hpacket : packetFormat (w.heardFrom source).gameSocket.pingTimes =
      packetFormat w.gameSocket.pingTimes := rfl
  rw [hpacket] at houtcome
  cases h : parsePacket env (.ofBytes bytes) (w.heardFrom source) with
  | mk outcome w' =>
    rw [h] at houtcome hkept
    cases outcome with
    | ok p =>
      obtain ⟨pkt, buf⟩ := p
      rw [Call.bind_of_ok h] at hr
      obtain ⟨bs, hstarts, -⟩ := houtcome
      rw [hr]
      refine ⟨⟨fun _ => ⟨bs, hstarts.mem, hstarts.isPrefix⟩, fun _ => ⟨pkt, rfl⟩⟩, ?_, ?_⟩
      · intro e he
        cases he
      · intro he
        cases he
    | error e =>
      rw [Call.bind_of_error h] at hr
      obtain ⟨he, hnot⟩ := houtcome
      rw [hr]
      refine ⟨⟨?_, ?_⟩, ?_, ?_⟩
      · rintro ⟨pkt, hpkt⟩
        cases hpkt
      · rintro ⟨bs, hbs, hpre⟩
        exact absurd hpre (hnot bs hbs)
      · intro e' he'
        exact hkept e rfl
      · intro hout
        exact he (Except.error.inj hout)

/-- Of a `CheckedIn` with a byte behind it. -/
theorem recvPacket_accepts_iff_trailing :
    ∃ source w pkt, (recvPacket (.working []) (some ⟨source, [200, 0, 30, 7]⟩) w).1 = .ok pkt := by
  have ht : (Env.working []).target.Standard := ⟨.inr rfl, by decide, fun h => (nomatch h)⟩
  let w : World := .new 7 42 ⟨1, 1, 1, 1, 1, 1, 1, 1, 1, 1, false, []⟩ []
  have hmem : [200, 0, 30] ∈ packetFormat w.gameSocket.pingTimes := ⟨.checkedIn, [0, 30], rfl, rfl⟩
  have hiff := (recvPacket_accepts_iff ht (List.cons_ne_nil 200 [0, 30, 7]) (by decide)
    ⟨afInet, 5, 0x0100007F⟩ w).1
  exact ⟨_, w, hiff.mpr ⟨[200, 0, 30], hmem, ⟨[7], rfl⟩⟩⟩

end GameSocket

end Packets

end Globed.Client
