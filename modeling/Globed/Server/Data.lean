import Globed.Server.Bytebuffer

/-!
# Packet kinds and packet data

`packets.rs`, `data/player_data.rs` and `data/account_data.rs`.
-/

namespace Globed.Server

open Bytes Bytebuffer

/-! ## Packet kinds -/

inductive ClientPacketKind
  | checkIn | keepalive | disconnect | ping | playerAccountDataRequest | levelListRequest
  | sendTextMessage | userLevelEntry | userLevelExit | userLevelData | spectateNoData
  deriving DecidableEq

def ClientPacketKind.toU8 : ClientPacketKind → UInt8
  | checkIn => 100
  | keepalive => 101
  | disconnect => 102
  | ping => 103
  | playerAccountDataRequest => 104
  | levelListRequest => 105
  | sendTextMessage => 106
  | userLevelEntry => 110
  | userLevelExit => 111
  | userLevelData => 112
  | spectateNoData => 113

def ClientPacketKind.tryFrom (x : UInt8) : Option ClientPacketKind :=
  if x = 100 then some checkIn
  else if x = 101 then some keepalive
  else if x = 102 then some disconnect
  else if x = 103 then some ping
  else if x = 104 then some playerAccountDataRequest
  else if x = 105 then some levelListRequest
  else if x = 106 then some sendTextMessage
  else if x = 110 then some userLevelEntry
  else if x = 111 then some userLevelExit
  else if x = 112 then some userLevelData
  else if x = 113 then some spectateNoData
  else none

@[simp] theorem ClientPacketKind.tryFrom_toU8 (k : ClientPacketKind) : tryFrom k.toU8 = some k := by
  cases k <;> rfl

inductive ServerPacketKind
  | checkedIn | keepaliveResponse | serverDisconnect | pingResponse | playerAccountDataResponse
  | levelListResponse | levelData | textMessageSent | serverBroadcast
  deriving DecidableEq

def ServerPacketKind.toU8 : ServerPacketKind → UInt8
  | checkedIn => 200
  | keepaliveResponse => 201
  | serverDisconnect => 202
  | pingResponse => 203
  | playerAccountDataResponse => 204
  | levelListResponse => 205
  | levelData => 210
  | textMessageSent => 211
  | serverBroadcast => 212

/-! ## Player data -/

inductive IconGameMode
  | cube | ship | ball | ufo | wave | robot | spider
  deriving DecidableEq

def IconGameMode.toU8 : IconGameMode → UInt8
  | cube => 0
  | ship => 1
  | ball => 2
  | ufo => 3
  | wave => 4
  | robot => 5
  | spider => 6

def IconGameMode.tryFrom (x : UInt8) : Option IconGameMode :=
  if x = 0 then some cube
  else if x = 1 then some ship
  else if x = 2 then some ball
  else if x = 3 then some ufo
  else if x = 4 then some wave
  else if x = 5 then some robot
  else if x = 6 then some spider
  else none

def IconGameMode.default : IconGameMode := cube

@[simp] theorem IconGameMode.tryFrom_toU8 (g : IconGameMode) : tryFrom g.toU8 = some g := by
  cases g <;> rfl

structure SpecificIconData where
  pos : F32 × F32
  rot : F32
  gameMode : IconGameMode
  isHidden : Bool
  isDashing : Bool
  isUpsideDown : Bool
  isMini : Bool
  isGrounded : Bool
  deriving DecidableEq

def SpecificIconData.default : SpecificIconData :=
  { pos := (0, 0), rot := 0, gameMode := .default, isHidden := false, isDashing := false
    isUpsideDown := false, isMini := false, isGrounded := false }

structure PlayerData where
  timestamp : F32
  player1 : SpecificIconData
  player2 : SpecificIconData
  camPos : F32 × F32
  practice : Bool
  isDead : Bool
  isPaused : Bool
  deriving DecidableEq

namespace PlayerData

def empty : PlayerData :=
  { timestamp := 0, player1 := .default, player2 := .default, camPos := (0, 0), practice := false
    isDead := false, isPaused := false }

variable [Bytebuffer]

def encodeSpecific (buf : ByteBuffer) (player : SpecificIconData) : ByteBuffer :=
  let buf := writeF32 buf player.pos.1
  let buf := writeF32 buf player.pos.2
  let buf := writeF32 buf player.rot
  let buf := writeU8 buf player.gameMode.toU8
  let buf := writeBit buf player.isHidden
  let buf := writeBit buf player.isDashing
  let buf := writeBit buf player.isUpsideDown
  let buf := writeBit buf player.isMini
  let buf := writeBit buf player.isGrounded
  flushBits buf

def decodeSpecific : Decoder ByteReader SpecificIconData := do
  let x ← readF32
  let y ← readF32
  let rot ← readF32
  let gameMode := (IconGameMode.tryFrom (← readU8)).getD .default
  let isHidden ← readBit
  let isDashing ← readBit
  let isUpsideDown ← readBit
  let isMini ← readBit
  let isGrounded ← readBit
  modify flushReadBits
  return { pos := (x, y), rot, gameMode, isHidden, isDashing, isUpsideDown, isMini, isGrounded }

def encode (self : PlayerData) (buf : ByteBuffer) : ByteBuffer :=
  let buf := writeF32 buf self.timestamp
  let buf := encodeSpecific buf self.player1
  let buf := encodeSpecific buf self.player2
  let buf := writeF32 buf self.camPos.1
  let buf := writeF32 buf self.camPos.2
  let buf := writeBit buf self.practice
  let buf := writeBit buf self.isDead
  writeBit buf self.isPaused

def decode : Decoder ByteReader PlayerData := do
  let timestamp ← readF32
  let player1 ← decodeSpecific
  let player2 ← decodeSpecific
  let camX ← readF32
  let camY ← readF32
  let practice ← readBit
  let isDead ← readBit
  let isPaused ← readBit
  return { timestamp, player1, player2, camPos := (camX, camY), practice, isDead, isPaused }

end PlayerData

/-! ## Account data -/

structure PlayerAccountData where
  cube : Int32
  ship : Int32
  ball : Int32
  ufo : Int32
  wave : Int32
  robot : Int32
  spider : Int32
  color1 : Int32
  color2 : Int32
  deathEffect : Int32
  glow : Bool
  name : String
  deriving DecidableEq

namespace PlayerAccountData

def empty : PlayerAccountData :=
  { cube := 0, ship := 0, ball := 0, ufo := 0, wave := 0, robot := 0, spider := 0, color1 := 0
    color2 := 0, deathEffect := 0, glow := false, name := "" }

def encode [Bytebuffer] (self : PlayerAccountData) (buf : ByteBuffer) : ByteBuffer :=
  let buf := writeI32 buf self.cube
  let buf := writeI32 buf self.ship
  let buf := writeI32 buf self.ball
  let buf := writeI32 buf self.ufo
  let buf := writeI32 buf self.wave
  let buf := writeI32 buf self.robot
  let buf := writeI32 buf self.spider
  let buf := writeI32 buf self.color1
  let buf := writeI32 buf self.color2
  let buf := writeI32 buf self.deathEffect
  let buf := writeU8 buf (if self.glow then 1 else 0)
  writeString buf self.name

def decode [Bytebuffer] : Decoder ByteReader PlayerAccountData := do
  let cube ← readI32
  let ship ← readI32
  let ball ← readI32
  let ufo ← readI32
  let wave ← readI32
  let robot ← readI32
  let spider ← readI32
  let color1 ← readI32
  let color2 ← readI32
  let deathEffect ← readI32
  let glow := (← readU8) == 1
  let name ← readString
  return { cube, ship, ball, ufo, wave, robot, spider, color1, color2, deathEffect, glow, name }

def isValid (self : PlayerAccountData) : Bool :=
  self.name.utf8ByteSize < 16
    && (utf8 self.name).all (· < 128)
    && self.cube ≥ 0
    && self.cube ≤ 148
    && self.ship ≥ 1
    && self.ship ≤ 51
    && self.ball ≥ 0
    && self.ball ≤ 43
    && self.ufo ≥ 1
    && self.ufo ≤ 35
    && self.wave ≥ 1
    && self.wave ≤ 35
    && self.robot ≥ 1
    && self.robot ≤ 26
    && self.spider ≥ 1
    && self.spider ≤ 17
    && self.deathEffect ≥ 1
    && self.deathEffect ≤ 17

end PlayerAccountData

/-! ## Decoders read what the remaining bytes hold -/

section Follows

variable [Bytebuffer]

theorem PlayerData.follows_decodeSpecific :
    Follows decodeSpecific (@decodeSpecific Bytebuffer.reference) :=
  .bind readF32_eq fun _ => .bind readF32_eq fun _ => .bind readF32_eq fun _ =>
    .bind readU8_eq fun _ => .bind readBit_eq fun _ => .bind readBit_eq fun _ =>
    .bind readBit_eq fun _ => .bind readBit_eq fun _ => .bind readBit_eq fun _ =>
    .flush (.pure _)

theorem PlayerData.follows_decode : Follows decode (@decode Bytebuffer.reference) :=
  .bind readF32_eq fun _ => .bind follows_decodeSpecific fun _ =>
    .bind follows_decodeSpecific fun _ => .bind readF32_eq fun _ => .bind readF32_eq fun _ =>
    .bind readBit_eq fun _ => .bind readBit_eq fun _ => .bind readBit_eq fun _ => .pure _

theorem PlayerAccountData.follows_decode : Follows decode (@decode Bytebuffer.reference) :=
  .bind readI32_eq fun _ => .bind readI32_eq fun _ => .bind readI32_eq fun _ =>
    .bind readI32_eq fun _ => .bind readI32_eq fun _ => .bind readI32_eq fun _ =>
    .bind readI32_eq fun _ => .bind readI32_eq fun _ => .bind readI32_eq fun _ =>
    .bind readI32_eq fun _ => .bind readU8_eq fun _ => .bind readString_eq fun _ => .pure _

end Follows

end Globed.Server
