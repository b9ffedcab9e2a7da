import Globed.Client.Data
import Globed.Server.Data

/-!
# Players on the wire

The data of a player and of an account on the two sides. Each codec of the server writes the bytes
that the client's codec reads, and reads the bytes that the client's codec writes.
-/

namespace Globed

open Bytes

/-! ## The same data on the other side -/

namespace Server

def IconGameMode.toClient : IconGameMode → Client.IconGameMode
  | cube => .cube
  | ship => .ship
  | ball => .ball
  | ufo => .ufo
  | wave => .wave
  | robot => .robot
  | spider => .spider

def SpecificIconData.toClient (data : SpecificIconData) : Client.SpecificIconData where
  x := data.pos.1
  y := data.pos.2
  rot := data.rot
  gameMode := data.gameMode.toClient
  isHidden := data.isHidden
  isDashing := data.isDashing
  isUpsideDown := data.isUpsideDown
  isMini := data.isMini
  isGrounded := data.isGrounded

def PlayerData.toClient (data : PlayerData) : Client.PlayerData where
  timestamp := data.timestamp
  player1 := data.player1.toClient
  player2 := data.player2.toClient
  camX := data.camPos.1
  camY := data.camPos.2
  isPractice := data.practice
  isDead := data.isDead
  isPaused := data.isPaused

def PlayerAccountData.toClient (data : PlayerAccountData) : Client.PlayerAccountData where
  cube := data.cube
  ship := data.ship
  ball := data.ball
  ufo := data.ufo
  wave := data.wave
  robot := data.robot
  spider := data.spider
  color1 := data.color1
  color2 := data.color2
  deathEffect := data.deathEffect
  glow := data.glow
  name := utf8 data.name

theorem IconGameMode.toClient_ne_none (gameMode : IconGameMode) : gameMode.toClient ≠ .none := by
  cases gameMode <;> exact Client.IconGameMode.noConfusion

theorem IconGameMode.gmToNumber_toClient (gameMode : IconGameMode) :
    Client.gmToNumber gameMode.toClient = gameMode.toU8 := by
  cases gameMode <;> rfl

end Server

namespace Client

/-- `NONE` is no mode that the server knows; it takes its default. -/
def IconGameMode.toServer : IconGameMode → Server.IconGameMode
  | cube => .cube
  | ship => .ship
  | ball => .ball
  | ufo => .ufo
  | wave => .wave
  | robot => .robot
  | spider => .spider
  | none => .cube

def SpecificIconData.toServer (data : SpecificIconData) : Server.SpecificIconData where
  pos := (data.x, data.y)
  rot := data.rot
  gameMode := data.gameMode.toServer
  isHidden := data.isHidden
  isDashing := data.isDashing
  isUpsideDown := data.isUpsideDown
  isMini := data.isMini
  isGrounded := data.isGrounded

def PlayerData.toServer (data : PlayerData) : Server.PlayerData where
  timestamp := data.timestamp
  player1 := data.player1.toServer
  player2 := data.player2.toServer
  camPos := (data.camX, data.camY)
  practice := data.isPractice
  isDead := data.isDead
  isPaused := data.isPaused

/-- The name, if it is valid UTF-8, is the text `name`. -/
def PlayerAccountData.toServer (data : PlayerAccountData) (name : String) :
    Server.PlayerAccountData where
  cube := data.cube
  ship := data.ship
  ball := data.ball
  ufo := data.ufo
  wave := data.wave
  robot := data.robot
  spider := data.spider
  color1 := data.color1
  color2 := data.color2
  deathEffect := data.deathEffect
  glow := data.glow
  name := name

theorem IconGameMode.tryFrom_gmToNumber (gameMode : IconGameMode) :
    (Server.IconGameMode.tryFrom (gmToNumber gameMode)).getD .default = gameMode.toServer := by
  cases gameMode <;> rfl

/-- What the two sides have in common is the same again after a way there and back. -/
theorem PlayerData.toServer_toClient (data : Server.PlayerData) :
    data.toClient.toServer = data := by
  have hmode : ∀ gameMode : Server.IconGameMode, gameMode.toClient.toServer = gameMode := by
    intro gameMode
    cases gameMode <;> rfl
  simp only [Server.PlayerData.toClient, Server.SpecificIconData.toClient, toServer,
    SpecificIconData.toServer, hmode]

end Client

/-! ## What the server writes -/

namespace Server

open Bytebuffer

variable [Bytebuffer]

theorem written_encodeSpecific (buf : ByteBuffer) (player : SpecificIconData) :
    written (PlayerData.encodeSpecific buf player) = (written buf).put player.toClient.bytes := by
  simp [PlayerData.encodeSpecific, BitWriter.put_eq, BitWriter.putBit_of_length_lt,
    Client.SpecificIconData.bytes, Client.SpecificIconData.flags, SpecificIconData.toClient,
    IconGameMode.gmToNumber_toClient, Client.flagByte]

/-- The last byte stays open. -/
theorem written_encode (data : PlayerData) (buf : ByteBuffer) :
    written (data.encode buf) =
      ⟨(written buf).toBytes ++ data.toClient.body, data.toClient.flags⟩ := by
  simp [PlayerData.encode, written_encodeSpecific, BitWriter.put_eq, BitWriter.putBit_of_length_lt,
    Client.PlayerData.body, Client.PlayerData.flags, PlayerData.toClient]

theorem toBytes_encode (data : PlayerData) (buf : ByteBuffer) :
    (written (data.encode buf)).toBytes = (written buf).toBytes ++ data.toClient.bytes := by
  simp [written_encode, BitWriter.toBytes, Client.PlayerData.flags, Client.PlayerData.bytes,
    Client.flagByte]

omit [Bytebuffer] in
theorem stringBytes_utf8 (s : String) :
    Client.stringBytes (utf8 s) = bigEndian 4 s.utf8ByteSize ++ utf8 s := by
  rw [Client.stringBytes, length_utf8]
  exact congrArg (· ++ utf8 s) (bigEndian_mod 4 s.utf8ByteSize)

theorem written_encodeAccount (data : PlayerAccountData) (buf : ByteBuffer) :
    written (data.encode buf) = (written buf).put data.toClient.bytes := by
  have hi32 : ∀ x, i32Bytes x = Client.i32Bytes x := fun _ => rfl
  simp [PlayerAccountData.encode, BitWriter.put_eq, Client.PlayerAccountData.bytes,
    PlayerAccountData.toClient, stringBytes_utf8, hi32]
  rfl

end Server

/-! ## What the server reads -/

namespace Server

theorem bind_of_some {α β : Type} {d : Decoder BitReader α} {c c' : BitReader} {x : α}
    (h : d c = some (x, c')) (f : α → Decoder BitReader β) : (d >>= f) c = f x c' := by
  change (d c).bind (fun p => f p.1 p.2) = f x c'
  rw [h, Option.bind_some]

section Numbers

variable (rest : List UInt8)

theorem readU8_cons (x : UInt8) :
    @Bytebuffer.readU8 .reference ⟨x :: rest, 0⟩ = some (x, ⟨rest, 0⟩) := by
  have hx : [x] = bigEndian 1 x.toNat := by simp [bigEndian]
  have h := readNumber_append (n := 1) x.toNat_lt UInt8.ofNat rest
  rw [← hx, UInt8.ofNat_toNat] at h
  exact h

theorem readI32_append (x : Int32) :
    @Bytebuffer.readI32 .reference ⟨Client.i32Bytes x ++ rest, 0⟩ = some (x, ⟨rest, 0⟩) := by
  have h := readNumber_append (n := 4) x.toUInt32.toNat_lt i32OfNat rest
  have hx : i32OfNat x.toUInt32.toNat = x := by simp [i32OfNat]
  rw [hx] at h
  exact h

theorem readF32_append (x : F32) :
    @Bytebuffer.readF32 .reference ⟨bigEndian 4 x.toNat ++ rest, 0⟩ = some (x, ⟨rest, 0⟩) := by
  have h := readNumber_append (n := 4) x.toNat_lt UInt32.ofNat rest
  rw [UInt32.ofNat_toNat] at h
  exact h

theorem readString_append {s : String} (h : s.utf8ByteSize < 2 ^ 32) :
    @Bytebuffer.readString .reference ⟨Client.stringBytes (utf8 s) ++ rest, 0⟩ =
      some (s, ⟨rest, 0⟩) := by
  rw [stringBytes_utf8, List.append_assoc]
  exact readText_append h rest

theorem readBit_flagByte {i : Nat} (hi : i < 7) (flags : List Bool) :
    @Bytebuffer.readBit .reference ⟨Client.flagByte flags :: rest, i⟩ =
      some (flags.getD i false, ⟨Client.flagByte flags :: rest, i + 1⟩) := by
  have hne : i ≠ 7 := by omega
  have hlt : packBits 8 flags < 2 ^ 8 := packBits_lt 8 flags
  have hbit : (Client.flagByte flags).toNat.testBit (7 - i) = flags.getD i false := by
    rw [Client.flagByte, UInt8.toNat_ofNat_of_lt' hlt]
    exact testBit_packBits (by omega) flags
  change some (_, _) = some (_, _)
  rw [hbit, if_neg hne]

end Numbers

theorem decodeSpecific_append (data : Client.SpecificIconData) (rest : List UInt8) :
    @PlayerData.decodeSpecific .reference ⟨data.bytes ++ rest, 0⟩ =
      some (data.toServer, ⟨rest, 0⟩) := by
  rw [Client.SpecificIconData.bytes]
  simp only [List.append_assoc]
  apply (bind_of_some (readF32_append _ _) _).trans
  apply (bind_of_some (readF32_append _ _) _).trans
  apply (bind_of_some (readF32_append _ _) _).trans
  apply (bind_of_some (readU8_cons _ _) _).trans
  apply (bind_of_some (readBit_flagByte rest (by decide) data.flags) _).trans
  apply (bind_of_some (readBit_flagByte rest (by decide) data.flags) _).trans
  apply (bind_of_some (readBit_flagByte rest (by decide) data.flags) _).trans
  apply (bind_of_some (readBit_flagByte rest (by decide) data.flags) _).trans
  apply (bind_of_some (readBit_flagByte rest (by decide) data.flags) _).trans
  rw [Client.IconGameMode.tryFrom_gmToNumber]
  rfl

/-- The last byte is still open. -/
theorem decode_append (data : Client.PlayerData) (rest : List UInt8) :
    @PlayerData.decode .reference ⟨data.bytes ++ rest, 0⟩ =
      some (data.toServer, ⟨Client.flagByte data.flags :: rest, 3⟩) := by
  rw [Client.PlayerData.bytes, Client.PlayerData.body]
  simp only [List.append_assoc]
  apply (bind_of_some (readF32_append _ _) _).trans
  apply (bind_of_some (decodeSpecific_append _ _) _).trans
  apply (bind_of_some (decodeSpecific_append _ _) _).trans
  apply (bind_of_some (readF32_append _ _) _).trans
  apply (bind_of_some (readF32_append _ _) _).trans
  apply (bind_of_some (readBit_flagByte rest (by decide) data.flags) _).trans
  apply (bind_of_some (readBit_flagByte rest (by decide) data.flags) _).trans
  apply (bind_of_some (readBit_flagByte rest (by decide) data.flags) _).trans
  rfl

theorem decodeAccount_append {data : Client.PlayerAccountData} {name : String}
    (hname : data.name = utf8 name) (h : name.utf8ByteSize < 2 ^ 32) (rest : List UInt8) :
    @PlayerAccountData.decode .reference ⟨data.bytes ++ rest, 0⟩ =
      some (data.toServer name, ⟨rest, 0⟩) := by
  rw [Client.PlayerAccountData.bytes, hname]
  simp only [List.append_assoc]
  apply (bind_of_some (readI32_append _ _) _).trans
  apply (bind_of_some (readI32_append _ _) _).trans
  apply (bind_of_some (readI32_append _ _) _).trans
  apply (bind_of_some (readI32_append _ _) _).trans
  apply (bind_of_some (readI32_append _ _) _).trans
  apply (bind_of_some (readI32_append _ _) _).trans
  apply (bind_of_some (readI32_append _ _) _).trans
  apply (bind_of_some (readI32_append _ _) _).trans
  apply (bind_of_some (readI32_append _ _) _).trans
  apply (bind_of_some (readI32_append _ _) _).trans
  apply (bind_of_some (readU8_cons _ _) _).trans
  apply (bind_of_some (readString_append _ h) _).trans
  rw [Client.glowByte_beq_one]
  rfl

/-! ### Arbitrary bytes -/

theorem of_bind_some {α β : Type} {d : Decoder BitReader α} {f : α → Decoder BitReader β}
    {c c'' : BitReader} {y : β} (h : (d >>= f) c = some (y, c'')) :
    ∃ x c', d c = some (x, c') ∧ f x c' = some (y, c'') := by
  obtain ⟨⟨x, c'⟩, hd, hf⟩ := Option.bind_eq_some_iff.mp h
  exact ⟨x, c', hd, hf⟩

theorem of_readNumber_some {α : Type} {n : Nat} {f : Nat → α} {bs : List UInt8} {x : α}
    {c : BitReader} (h : readNumber n f ⟨bs, 0⟩ = some (x, c)) :
    n ≤ bs.length ∧ x = f (ofBigEndian (bs.take n)) ∧ c = ⟨bs.drop n, 0⟩ := by
  unfold readNumber BitReader.nat BitReader.take at h
  rw [BitReader.close_mk_zero] at h
  split at h
  · next hn =>
    cases h
    exact ⟨hn, rfl, rfl⟩
  · cases h

theorem of_readF32_some {bs : List UInt8} {x : F32} {c : BitReader}
    (h : @Bytebuffer.readF32 .reference ⟨bs, 0⟩ = some (x, c)) : c = ⟨bs.drop 4, 0⟩ :=
  (of_readNumber_some h).2.2

theorem of_readU8_some {bs : List UInt8} {x : UInt8} {c : BitReader}
    (h : @Bytebuffer.readU8 .reference ⟨bs, 0⟩ = some (x, c)) :
    x = bs.getD 0 0 ∧ c = ⟨bs.drop 1, 0⟩ := by
  obtain ⟨hn, hx, hc⟩ := of_readNumber_some h
  refine ⟨?_, hc⟩
  cases bs with
  | nil => simp at hn
  | cons b bs => simp [hx, ofBigEndian]

theorem of_readBit_some {bs : List UInt8} {i : Nat} {b : Bool} {c : BitReader} (hi : i < 7)
    (h : @Bytebuffer.readBit .reference ⟨bs, i⟩ = some (b, c)) : c = ⟨bs, i + 1⟩ := by
  have hne : i ≠ 7 := by omega
  cases bs with
  | nil => cases h
  | cons b bs =>
    obtain ⟨-, hc⟩ := Prod.mk.inj (Option.some.inj h)
    rw [if_neg hne] at hc
    exact hc.symm

/-- The mode that a byte stands for on the client, where an unknown byte becomes a cube. -/
def modeOfByte (byte : UInt8) : Client.IconGameMode :=
  match Client.numberToGm byte with
  | .ok gameMode => gameMode
  | .error _ => .cube

theorem toClient_tryFrom (byte : UInt8) :
    ((IconGameMode.tryFrom byte).getD .default).toClient = modeOfByte byte := by
  unfold modeOfByte Client.numberToGm IconGameMode.tryFrom
  split_ifs <;> rfl

/-- An icon is fourteen bytes, of which the thirteenth is its mode. -/
theorem of_decodeSpecific_some {bs : List UInt8} {data : SpecificIconData} {c : BitReader}
    (h : @PlayerData.decodeSpecific .reference ⟨bs, 0⟩ = some (data, c)) :
    data.gameMode.toClient = modeOfByte (bs.getD 12 0) ∧ c = ⟨bs.drop 14, 0⟩ := by
  obtain ⟨x, c₁, h₁, h⟩ := of_bind_some h
  obtain rfl := of_readF32_some h₁
  obtain ⟨y, c₂, h₂, h⟩ := of_bind_some h
  obtain rfl := of_readF32_some h₂
  obtain ⟨rot, c₃, h₃, h⟩ := of_bind_some h
  obtain rfl := of_readF32_some h₃
  obtain ⟨byte, c₄, h₄, h⟩ := of_bind_some h
  obtain ⟨rfl, rfl⟩ := of_readU8_some h₄
  obtain ⟨isHidden, c₅, h₅, h⟩ := of_bind_some h
  obtain rfl := of_readBit_some (by decide) h₅
  obtain ⟨isDashing, c₆, h₆, h⟩ := of_bind_some h
  obtain rfl := of_readBit_some (by decide) h₆
  obtain ⟨isUpsideDown, c₇, h₇, h⟩ := of_bind_some h
  obtain rfl := of_readBit_some (by decide) h₇
  obtain ⟨isMini, c₈, h₈, h⟩ := of_bind_some h
  obtain rfl := of_readBit_some (by decide) h₈
  obtain ⟨isGrounded, c₉, h₉, h⟩ := of_bind_some h
  obtain rfl := of_readBit_some (by decide) h₉
  cases h
  constructor
  · rw [toClient_tryFrom]
    simp
  · change BitReader.close ⟨_, 5⟩ = _
    simp [BitReader.close]

/-- Whatever bytes the server accepts, each icon has the mode of its byte, or is a cube. -/
theorem of_decode_some {bs : List UInt8} {data : PlayerData} {c : BitReader}
    (h : @PlayerData.decode .reference ⟨bs, 0⟩ = some (data, c)) :
    data.toClient.player1.gameMode = modeOfByte (bs.getD 16 0) ∧
      data.toClient.player2.gameMode = modeOfByte (bs.getD 30 0) := by
  obtain ⟨timestamp, c₁, h₁, h⟩ := of_bind_some h
  obtain rfl := of_readF32_some h₁
  obtain ⟨player1, c₂, h₂, h⟩ := of_bind_some h
  obtain ⟨hmode₁, rfl⟩ := of_decodeSpecific_some h₂
  obtain ⟨player2, c₃, h₃, h⟩ := of_bind_some h
  obtain ⟨hmode₂, rfl⟩ := of_decodeSpecific_some h₃
  obtain ⟨camX, c₄, h₄, h⟩ := of_bind_some h
  obtain ⟨camY, c₅, h₅, h⟩ := of_bind_some h
  obtain ⟨practice, c₆, h₆, h⟩ := of_bind_some h
  obtain ⟨isDead, c₇, h₇, h⟩ := of_bind_some h
  obtain ⟨isPaused, c₈, h₈, h⟩ := of_bind_some h
  cases h
  have hbyte₁ : (bs.drop 4).getD 12 0 = bs.getD 16 0 := by simp
  have hbyte₂ : ((bs.drop 4).drop 14).getD 12 0 = bs.getD 30 0 := by simp
  rw [hbyte₁] at hmode₁
  rw [hbyte₂] at hmode₂
  exact ⟨hmode₁, hmode₂⟩

end Server

end Globed
