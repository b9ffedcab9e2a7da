import Globed.Base.FiniteMap
import Globed.Client.ByteBuffer

/-!
# Packet types and packet data of the client

`data/packet_type.cpp`, `data/player_data.cpp`, `data/player_account_data.cpp`, and the messages of
`data/net_message.hpp` and `data/recv_packet.hpp`.

What an encoder writes is a byte string of its own (`PlayerData.bytes`, `PlayerAccountData.bytes`),
and the decoder reads it back.
-/

namespace Globed.Client

open Bytes

/-! ## Packet types -/

inductive PacketType
  | checkIn | keepalive | disconnect | ping | playerAccountDataRequest | levelListRequest
  | sendTextMessage | userLevelEntry | userLevelExit | userLevelData | spectateNoData
  | checkedIn | keepaliveResponse | serverDisconnect | pingResponse | playerAccountDataResponse
  | levelListResponse | levelData | textMessageSent | serverBroadcast
  deriving DecidableEq

def ptToNumber : PacketType → UInt8
  | .checkIn => 100
  | .keepalive => 101
  | .disconnect => 102
  | .ping => 103
  | .playerAccountDataRequest => 104
  | .levelListRequest => 105
  | .sendTextMessage => 106
  | .userLevelEntry => 110
  | .userLevelExit => 111
  | .userLevelData => 112
  | .spectateNoData => 113
  | .checkedIn => 200
  | .keepaliveResponse => 201
  | .serverDisconnect => 202
  | .pingResponse => 203
  | .playerAccountDataResponse => 204
  | .levelListResponse => 205
  | .levelData => 210
  | .textMessageSent => 211
  | .serverBroadcast => 212

def numberToPt (number : UInt8) : Except Failure PacketType :=
  if number = 100 then .ok .checkIn
  else if number = 101 then .ok .keepalive
  else if number = 102 then .ok .disconnect
  else if number = 103 then .ok .ping
  else if number = 104 then .ok .playerAccountDataRequest
  else if number = 105 then .ok .levelListRequest
  else if number = 106 then .ok .sendTextMessage
  else if number = 110 then .ok .userLevelEntry
  else if number = 111 then .ok .userLevelExit
  else if number = 112 then .ok .userLevelData
  else if number = 113 then .ok .spectateNoData
  else if number = 200 then .ok .checkedIn
  else if number = 201 then .ok .keepaliveResponse
  else if number = 202 then .ok .serverDisconnect
  else if number = 203 then .ok .pingResponse
  else if number = 204 then .ok .playerAccountDataResponse
  else if number = 205 then .ok .levelListResponse
  else if number = 210 then .ok .levelData
  else if number = 211 then .ok .textMessageSent
  else if number = 212 then .ok .serverBroadcast
  else .error (.invalidArgument s!"Invalid number for conversion to PacketType: {number}")

@[simp] theorem numberToPt_ptToNumber (pt : PacketType) : numberToPt (ptToNumber pt) = .ok pt := by
  cases pt <;> rfl

theorem ptToNumber_inj {pt pt' : PacketType} (h : ptToNumber pt = ptToNumber pt') : pt = pt' := by
  have hpt := numberToPt_ptToNumber pt
  rw [h, numberToPt_ptToNumber] at hpt
  exact (Except.ok.inj hpt).symm

/-- A packet type is that of its number, and a failure is not a read past the end. -/
def NumberOf (number : UInt8) : Except Failure PacketType → Prop
  | .ok packetType => number = ptToNumber packetType
  | .error e => e ≠ .outOfBounds

theorem NumberOf.ite {number n : UInt8} {packetType : PacketType} {r : Except Failure PacketType}
    (hn : n = ptToNumber packetType) (hr : NumberOf number r) :
    NumberOf number (if number = n then .ok packetType else r) := by
  split
  · next heq => exact heq.trans hn
  · exact hr

theorem NumberOf.error {number : UInt8} {e : Failure} (he : e ≠ .outOfBounds) :
    NumberOf number (.error e) :=
  he

theorem numberOf_numberToPt (number : UInt8) : NumberOf number (numberToPt number) := by
  unfold numberToPt
  iterate 20
    apply NumberOf.ite
    · rfl
  exact .error fun h => (nomatch h)

theorem numberToPt_cases (number : UInt8) :
    (∃ packetType, numberToPt number = .ok packetType ∧ number = ptToNumber packetType) ∨
      ∃ e, numberToPt number = .error e ∧ e ≠ .outOfBounds := by
  have hnumber := numberOf_numberToPt number
  cases h : numberToPt number with
  | ok packetType =>
    rw [h] at hnumber
    exact .inl ⟨packetType, rfl, hnumber⟩
  | error e =>
    rw [h] at hnumber
    exact .inr ⟨e, rfl, hnumber⟩

/-! ## Player data -/

inductive IconGameMode
  | cube | ship | ball | ufo | wave | robot | spider | none
  deriving DecidableEq

def gmToNumber : IconGameMode → UInt8
  | .cube => 0
  | .ship => 1
  | .ball => 2
  | .ufo => 3
  | .wave => 4
  | .robot => 5
  | .spider => 6
  | .none => 255

def numberToGm (number : UInt8) : Except Failure IconGameMode :=
  if number = 0 then .ok .cube
  else if number = 1 then .ok .ship
  else if number = 2 then .ok .ball
  else if number = 3 then .ok .ufo
  else if number = 4 then .ok .wave
  else if number = 5 then .ok .robot
  else if number = 6 then .ok .spider
  else .error (.invalidArgument s!"Invalid number for conversion to IconGameMode: {number}")

/-- There is no number for `NONE` on the way back. -/
theorem numberToGm_gmToNumber {gm : IconGameMode} (h : gm ≠ .none) :
    numberToGm (gmToNumber gm) = .ok gm := by
  cases gm with
  | none => exact absurd rfl h
  | _ => rfl

structure SpecificIconData where
  x : F32
  y : F32
  rot : F32
  gameMode : IconGameMode
  isHidden : Bool
  isDashing : Bool
  isUpsideDown : Bool
  isMini : Bool
  isGrounded : Bool
  deriving DecidableEq

structure PlayerData where
  timestamp : F32
  player1 : SpecificIconData
  player2 : SpecificIconData
  camX : F32
  camY : F32
  isPractice : Bool
  isDead : Bool
  isPaused : Bool
  deriving DecidableEq

/-- `std::bitset<8>` -/
abbrev Bitset := BitVec 8

def Bitset.new : Bitset := 0

/-- `if (cond) flags.set(pos)` -/
def Bitset.setIf (flags : Bitset) (cond : Bool) (pos : Nat) : Bitset :=
  if cond then flags ||| 1#8 <<< pos else flags

/-- `flags.test(pos)` -/
def Bitset.test (flags : Bitset) (pos : Nat) : Bool := flags.getLsbD pos

/-- `static_cast<uint8_t>(flags.to_ulong())` -/
def Bitset.toU8 (flags : Bitset) : UInt8 := .ofBitVec flags

section Codecs

variable (t : Target)

def encodeSpecificIcon (data : SpecificIconData) (buffer : ByteBuffer) : ByteBuffer :=
  let buffer := buffer.writeF32 t data.x
  let buffer := buffer.writeF32 t data.y
  let buffer := buffer.writeF32 t data.rot
  let buffer := buffer.writeU8 t (gmToNumber data.gameMode)
  let flags := Bitset.new
  let flags := flags.setIf data.isHidden 7
  let flags := flags.setIf data.isDashing 6
  let flags := flags.setIf data.isUpsideDown 5
  let flags := flags.setIf data.isMini 4
  let flags := flags.setIf data.isGrounded 3
  buffer.writeU8 t flags.toU8

def decodeSpecificIcon : Reader SpecificIconData := do
  let x ← readF32 t
  let y ← readF32 t
  let rot ← readF32 t
  let gameMode ← numberToGm (← readU8 t)
  let flags : Bitset := (← readU8 t).toBitVec
  return {
    x, y, rot, gameMode
    isHidden := flags.test 7
    isDashing := flags.test 6
    isUpsideDown := flags.test 5
    isMini := flags.test 4
    isGrounded := flags.test 3 }

def encodePlayerData (data : PlayerData) (buffer : ByteBuffer) : ByteBuffer :=
  let buffer := buffer.writeF32 t data.timestamp
  let buffer := encodeSpecificIcon t data.player1 buffer
  let buffer := encodeSpecificIcon t data.player2 buffer
  let buffer := buffer.writeF32 t data.camX
  let buffer := buffer.writeF32 t data.camY
  let flags := Bitset.new
  let flags := flags.setIf data.isPractice 7
  let flags := flags.setIf data.isDead 6
  let flags := flags.setIf data.isPaused 5
  buffer.writeU8 t flags.toU8

def decodePlayerData : Reader PlayerData := do
  let timestamp ← readF32 t
  let player1 ← decodeSpecificIcon t
  let player2 ← decodeSpecificIcon t
  let camX ← readF32 t
  let camY ← readF32 t
  let flags : Bitset := (← readU8 t).toBitVec
  return {
    timestamp, player1, player2, camX, camY
    isPractice := flags.test 7
    isDead := flags.test 6
    isPaused := flags.test 5 }

end Codecs

/-! ### The bytes of a player -/

/-- The flags of a byte, the most significant bit first. -/
def flagByte (flags : List Bool) : UInt8 := .ofNat (packBits 8 flags)

def SpecificIconData.flags (data : SpecificIconData) : List Bool :=
  [data.isHidden, data.isDashing, data.isUpsideDown, data.isMini, data.isGrounded]

def SpecificIconData.bytes (data : SpecificIconData) : List UInt8 :=
  bigEndian 4 data.x.toNat ++ (bigEndian 4 data.y.toNat ++ (bigEndian 4 data.rot.toNat ++
    ([gmToNumber data.gameMode] ++ [flagByte data.flags])))

def PlayerData.flags (data : PlayerData) : List Bool :=
  [data.isPractice, data.isDead, data.isPaused]

/-- The bytes before the flags. -/
def PlayerData.body (data : PlayerData) : List UInt8 :=
  bigEndian 4 data.timestamp.toNat ++ (data.player1.bytes ++ (data.player2.bytes ++
    (bigEndian 4 data.camX.toNat ++ bigEndian 4 data.camY.toNat)))

def PlayerData.bytes (data : PlayerData) : List UInt8 := data.body ++ [flagByte data.flags]

@[simp] theorem SpecificIconData.length_bytes (data : SpecificIconData) :
    data.bytes.length = 14 := by
  simp [bytes]

@[simp] theorem PlayerData.length_bytes (data : PlayerData) : data.bytes.length = 41 := by
  simp [bytes, body]

theorem toU8_setIf_icon (a b c d e : Bool) :
    (((((Bitset.new.setIf a 7).setIf b 6).setIf c 5).setIf d 4).setIf e 3).toU8 =
      flagByte [a, b, c, d, e] := by
  revert a b c d e
  decide

theorem toU8_setIf_player (a b c : Bool) :
    (((Bitset.new.setIf a 7).setIf b 6).setIf c 5).toU8 = flagByte [a, b, c] := by
  revert a b c
  decide

/-- The bit at position `7 - i` is the `i`th flag. -/
theorem test_flagByte {i pos : Nat} (h : i + pos = 7) (flags : List Bool) :
    Bitset.test (flagByte flags).toBitVec pos = flags.getD i false := by
  have hi : i < 8 := by omega
  have hpos : pos = 8 - 1 - i := by omega
  have hlt : packBits 8 flags < 2 ^ 8 := packBits_lt 8 flags
  have htest : Bitset.test (flagByte flags).toBitVec pos = (flagByte flags).toNat.testBit pos := rfl
  rw [htest, flagByte, UInt8.toNat_ofNat_of_lt' hlt, hpos, testBit_packBits hi]

section Codecs

variable {t : Target}

@[simp] theorem data_encodeSpecificIcon (data : SpecificIconData) (buffer : ByteBuffer) :
    (encodeSpecificIcon t data buffer).data = buffer.data ++ data.bytes := by
  simp [encodeSpecificIcon, SpecificIconData.bytes, toU8_setIf_icon, SpecificIconData.flags]

@[simp] theorem data_encodePlayerData (data : PlayerData) (buffer : ByteBuffer) :
    (encodePlayerData t data buffer).data = buffer.data ++ data.bytes := by
  simp [encodePlayerData, PlayerData.bytes, PlayerData.body, toU8_setIf_player, PlayerData.flags]

theorem Reads.decodeSpecificIcon {data : SpecificIconData} (h : data.gameMode ≠ .none) :
    Reads t (Client.decodeSpecificIcon t) data.bytes data := by
  apply (readF32 data.x).bind
  apply (readF32 data.y).bind
  apply (readF32 data.rot).bind
  apply (readU8 (gmToNumber data.gameMode)).bind
  apply bindOk (numberToGm_gmToNumber h)
  have hflags := (readU8 (t := t) (flagByte data.flags)).map fun byte =>
    let flags : Bitset := byte.toBitVec
    { data with
      isHidden := flags.test 7
      isDashing := flags.test 6
      isUpsideDown := flags.test 5
      isMini := flags.test 4
      isGrounded := flags.test 3 }
  simpa [test_flagByte, SpecificIconData.flags] using hflags

theorem Reads.decodePlayerData {data : PlayerData} (h₁ : data.player1.gameMode ≠ .none)
    (h₂ : data.player2.gameMode ≠ .none) :
    Reads t (Client.decodePlayerData t) data.bytes data := by
  have hbytes : data.bytes = bigEndian 4 data.timestamp.toNat ++ (data.player1.bytes ++
      (data.player2.bytes ++ (bigEndian 4 data.camX.toNat ++ (bigEndian 4 data.camY.toNat ++
        [flagByte data.flags])))) := by
    simp [PlayerData.bytes, PlayerData.body]
  rw [hbytes]
  apply (readF32 data.timestamp).bind
  apply (Reads.decodeSpecificIcon h₁).bind
  apply (Reads.decodeSpecificIcon h₂).bind
  apply (readF32 data.camX).bind
  apply (readF32 data.camY).bind
  have hflags := (readU8 (t := t) (flagByte data.flags)).map fun byte =>
    let flags : Bitset := byte.toBitVec
    { data with
      isPractice := flags.test 7
      isDead := flags.test 6
      isPaused := flags.test 5 }
  simpa [test_flagByte, PlayerData.flags] using hflags

end Codecs

/-! ## Account data -/

structure PlayerAccountData where
  cube : Int32
  ship : Int32
  ball : Int32
  ufo : Int32
  wave : Int32
  robot : Int32
  spider : Int32
  color1 : Int32
  color2 : Int32
  deathEffect : Int32
  glow : Bool
  name : CString
  deriving DecidableEq

section Codecs

variable (t : Target)

def encodeAccountData (data : PlayerAccountData) (buffer : ByteBuffer) : ByteBuffer :=
  let buffer := buffer.writeI32 t data.cube
  let buffer := buffer.writeI32 t data.ship
  let buffer := buffer.writeI32 t data.ball
  let buffer := buffer.writeI32 t data.ufo
  let buffer := buffer.writeI32 t data.wave
  let buffer := buffer.writeI32 t data.robot
  let buffer := buffer.writeI32 t data.spider
  let buffer := buffer.writeI32 t data.color1
  let buffer := buffer.writeI32 t data.color2
  let buffer := buffer.writeI32 t data.deathEffect
  let buffer := buffer.writeU8 t (if data.glow then 1 else 0)
  buffer.writeString t data.name

def decodeAccountData : Reader PlayerAccountData := do
  let cube ← readI32 t
  let ship ← readI32 t
  let ball ← readI32 t
  let ufo ← readI32 t
  let wave ← readI32 t
  let robot ← readI32 t
  let spider ← readI32 t
  let color1 ← readI32 t
  let color2 ← readI32 t
  let deathEffect ← readI32 t
  let glow := (← readU8 t) == 1
  let name ← readString t
  return { cube, ship, ball, ufo, wave, robot, spider, color1, color2, deathEffect, glow, name }

end Codecs

/-! ### The bytes of account data -/

/-- The bytes of an `int`. -/
def i32Bytes (x : Int32) : List UInt8 := bigEndian 4 x.toUInt32.toNat

/-- The bytes of a string: its length and its characters. -/
def stringBytes (str : CString) : List UInt8 := bigEndian 4 (UInt32.ofNat str.length).toNat ++ str

def PlayerAccountData.bytes (data : PlayerAccountData) : List UInt8 :=
  i32Bytes data.cube ++ (i32Bytes data.ship ++ (i32Bytes data.ball ++ (i32Bytes data.ufo ++
    (i32Bytes data.wave ++ (i32Bytes data.robot ++ (i32Bytes data.spider ++
      (i32Bytes data.color1 ++ (i32Bytes data.color2 ++ (i32Bytes data.deathEffect ++
        ([if data.glow then 1 else 0] ++ stringBytes data.name))))))))))

theorem glowByte_beq_one (glow : Bool) : ((if glow then 1 else 0 : UInt8) == 1) = glow := by
  cases glow <;> rfl

section Codecs

variable {t : Target}

@[simp] theorem data_encodeAccountData (data : PlayerAccountData) (buffer : ByteBuffer) :
    (encodeAccountData t data buffer).data = buffer.data ++ data.bytes := by
  simp [encodeAccountData, PlayerAccountData.bytes, i32Bytes, stringBytes]

theorem Reads.decodeAccountData {data : PlayerAccountData} (h : t.Holds data.name) :
    Reads t (Client.decodeAccountData t) data.bytes data := by
  apply (readI32 data.cube).bind
  apply (readI32 data.ship).bind
  apply (readI32 data.ball).bind
  apply (readI32 data.ufo).bind
  apply (readI32 data.wave).bind
  apply (readI32 data.robot).bind
  apply (readI32 data.spider).bind
  apply (readI32 data.color1).bind
  apply (readI32 data.color2).bind
  apply (readI32 data.deathEffect).bind
  apply (readU8 (if data.glow then 1 else 0)).bind
  rw [glowByte_beq_one]
  exact (readString h).map _

end Codecs

/-! ## Messages -/

/-- What other threads ask the network thread to do. -/
inductive NetworkThreadMessage
  | playerData (data : PlayerData)
  | playerLevelEntry (levelID : Int32)
  | playerLevelExit
  | menuLayerEntry
  | pingServers
  | centralServerChanged (server : CString)
  | requestPlayerAccount (playerId : Int32)
  | requestLevelList
  | spectatingNoData
  | sendTextMessage (message : CString)
  deriving DecidableEq

/-- What the server sends. -/
inductive RecvPacket
  | checkedIn (tps : UInt16)
  | keepaliveResponse (playerCount : UInt32) (ping : Int)
  | serverDisconnect (message : CString)
  | levelData (players : FiniteMap Int32 PlayerData)
  | pingResponse (serverId : CString) (playerCount : UInt32) (ping : Int)
  | accountDataResponse (playerId : Int32) (data : PlayerAccountData)
  | levelListResponse (levels : FiniteMap Int32 UInt16)
  | textMessage (sender : Int32) (message : CString)
  | serverMessage (message : CString) (color : UInt8 × UInt8 × UInt8)

end Globed.Client
