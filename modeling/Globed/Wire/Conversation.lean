import Globed.Server.Replies
import Globed.Wire.ClientToServer
import Globed.Wire.Reading

/-!
# Conversations

Clients on one side of the wire and clients on the other, with the server between them. A message of
a client is one step of the table (`Table.hear`), and makes the server send packets to clients
(`Table.Tells`), which they read back as the values that were said. In between are the bytes, the
tasks of the server and its two maps, of which nothing is left to see (`conversation`). What a
client reads of a player is the last that this player said, or the empty data that the server gave
it when it entered (`reads_last_words`).
-/

namespace Globed.Server

open Concurrent Bytebuffer

/-! ## What is said -/

/-- A message, the client that sends it, in its state at that time, and the address that the server
sees. -/
structure Said where
  env : Client.Env
  world : Client.World
  message : Client.Message
  peer : SocketAddr

namespace Said

def id (m : Said) : Int32 := m.world.gameSocket.accountId

def key (m : Said) : Int32 := m.world.gameSocket.secretKey

/-- The texts of the message are valid UTF-8. -/
def Legible (m : Said) : Prop :=
  match m.message with
  | .queued (.sendTextMessage message) => (fromUtf8 message).isSome = true
  | .checkIn => (fromUtf8 m.world.accountData.name).isSome = true
  | _ => True

/-- The message is sent as this datagram, which fits the buffer of the server. -/
structure Sends (m : Said) (data : List UInt8) : Prop where
  sendable : m.message.Sendable
  legible : m.Legible
  sent : Client.datagrams (m.message.send m.env m.world).2.trace =
    Client.datagrams m.world.trace ++ [data]
  fits : data.length ≤ 1024

end Said

/-- A message arrives, or a timer of the server fires. -/
inductive Happening
  | said (m : Said)
  | sweep
  | tick

/-- The request that the server gets. -/
inductive Happening.Arrives : Happening → Request → Prop
  | said {m : Said} {data : List UInt8} (h : m.Sends data) :
    Arrives (.said m) (.packet (received data) m.peer)
  | sweep : Arrives .sweep .sweep
  | tick : Arrives .tick .tick

/-! ## Messages as steps of the table -/

namespace Table

variable (t : Table)

/-- A message of the client `c`, whose session is `s`. -/
def heed (now : SystemTime) (c : Int32) (s : Session) : Client.Message → Table
  | .heartbeat => t.insert c { s with client := { s.client with lastKeepaliveTime := now } }
  | .disconnect => t.erase c
  | .queued (.playerLevelEntry levelID) =>
    t.insert c ⟨{ s.client with levelId := levelIdOfPacket levelID }, some .empty⟩
  | .queued .playerLevelExit => t.insert c ⟨{ s.client with levelId := -1 }, none⟩
  | .queued (.playerData data) =>
    if t.Occupied s.client.levelId then t.insert c { s with seen := some data.toServer } else t
  | .queued .menuLayerEntry | .queued .pingServers | .queued (.centralServerChanged _)
  | .queued (.requestPlayerAccount _) | .queued .requestLevelList | .queued .spectatingNoData
  | .queued (.sendTextMessage _) | .checkIn | .accountDataRequest _ | .ping _ _ _ => t

/-- A client with this account data wants to check in. -/
def enrol (settings : ServerSettings) (now : SystemTime) (m : Said) (data : PlayerAccountData) :
    Table :=
  if t.contains m.id = true ∨ t.Full settings then t
  else if data.isValid then t.insert m.id ⟨.checkedIn m.peer m.key now data, none⟩ else t

def hear (settings : ServerSettings) (now : SystemTime) (m : Said) : Table :=
  if m.id = 0 then t
  else
    match m.message with
    | .ping _ _ _ => t
    | .checkIn =>
      match fromUtf8 m.world.accountData.name with
      | some name => t.enrol settings now m (m.world.accountData.toServer name)
      | none => t
    | message =>
      match t.get m.id with
      | some s => if s.client.secretKey = m.key then t.heed now m.id s message else t
      | none => t

def happen (settings : ServerSettings) (now : SystemTime) : Happening → Table
  | .said m => t.hear settings now m
  | .sweep => t.sweep settings now
  | .tick => t.tick

/-- The table after all that happened, with the times when it was handled. -/
def history (settings : ServerSettings) (hs : List (Happening × SystemTime)) : Table :=
  hs.foldl (fun t h => t.happen settings h.2 h.1) t

/-! ## What clients are told -/

/-- Packets, and the addresses that they are sent to. -/
abbrev Told := List (SocketAddr × ServerPacket)

/-- A packet for all clients whose record names the level. -/
def telling (o : IterOrder Int32) (levelId : Int32) (packet : ServerPacket) : Told :=
  ((t.entries o).filter (·.2.client.levelId = levelId)).map fun e => (e.2.client.address, packet)

/-- The answer to a client's data. -/
def TellsLevel (settings : ServerSettings) (client : ClientData) (told : Told) : Prop :=
  match t.levels.get client.levelId with
  | some level =>
    if settings.tickBased then told = []
    else ∃ o h, told = [(client.address, .levelData level o h)]
  | none => told = []

/-- What a message of the client `c`, whose session is `s`, makes the server tell. -/
def Tells (settings : ServerSettings) (c : Int32) (s : Session) (told : Told) :
    Client.Message → Prop
  | .heartbeat => told = [(s.client.address, .keepaliveResponse t.size)]
  | .queued (.playerLevelEntry levelID) =>
    ∃ o, told = t.telling o (levelIdOfPacket levelID)
      (.serverBroadcast s!"{s.client.playerData.name} joined" (30, 200, 30))
  | .queued .playerLevelExit =>
    ∃ o, told = telling (t.insert c ⟨{ s.client with levelId := -1 }, none⟩) o s.client.levelId
      (.serverBroadcast s!"{s.client.playerData.name} left" (200, 30, 30))
  | .queued (.playerData data) =>
    if t.Occupied s.client.levelId then
      TellsLevel (t.insert c { s with seen := some data.toServer }) settings s.client told
    else told = []
  | .queued .spectatingNoData => t.TellsLevel settings s.client told
  | .queued (.requestPlayerAccount playerId) | .accountDataRequest playerId =>
    match t.get playerId with
    | some player =>
      told = [(s.client.address, .playerAccountDataResponse playerId player.client.playerData)]
    | none => told = []
  | .queued .requestLevelList =>
    ∃ o h, told = [(s.client.address, .levelListResponse t.levels o h)]
  | .queued (.sendTextMessage message) =>
    match fromUtf8 message with
    | some text =>
      if h : text.utf8ByteSize ≤ 80 ∨ String.Pos.Raw.IsValid text ⟨80⟩ then
        ∃ o, told = t.telling o s.client.levelId (.textMessageSent c (cutText text h))
      else told = []
    | none => told = []
  | .queued .menuLayerEntry | .queued .pingServers | .queued (.centralServerChanged _)
  | .checkIn | .disconnect | .ping _ _ _ => told = []

/-- What a client is told that wants to check in with this account data. -/
def welcome (settings : ServerSettings) (m : Said) (data : PlayerAccountData) : ServerPacket :=
  if t.contains m.id then
    .serverDisconnect "Client already exists, please wait a minute before reconnecting."
  else if t.Full settings then
    .serverDisconnect
      s!"This server is configured to handle a maximum of {t.size} clients, and cannot take any more."
  else if data.isValid then .checkedIn settings
  else .serverDisconnect
    "Invalid data was passed. Contact the developer if you think this is wrong."

def Responds (settings : ServerSettings) (m : Said) (told : Told) : Prop :=
  match m.message with
  | .ping _ _ _ => told = [(m.peer, .pingResponse (m.env.draw m.world.ticks) t.size)]
  | message =>
    if m.id = 0 then
      told = [(m.peer, .serverDisconnect
        "You have to sign into a Geometry Dash account before connecting. If you already are, please restart your game.")]
    else
      match message with
      | .checkIn =>
        match fromUtf8 m.world.accountData.name with
        | some name => told = [(m.peer, t.welcome settings m (m.world.accountData.toServer name))]
        | none => told = []
      | message =>
        match t.get m.id with
        | some s =>
          if s.client.secretKey = m.key then t.Tells settings m.id s told message
          else told = [(m.peer, .serverDisconnect
            "Failed to verify secret key: Secret key does not match")]
        | none => told = [(m.peer, .serverDisconnect
            s!"Failed to verify secret key: Client not found by id {m.id}")]

/-- What a tick tells of a level: all of it, to each client that is seen on it. -/
def tellingLevel (o : IterOrder Int32) (levelId : Int32)
    (h : (t.level levelId).size ≤ 65535) : Told :=
  ((t.level levelId).entries o).filterMap fun p => (t.get p.1).map fun s =>
    (s.client.address, .levelData (t.level levelId) o h)

def TickTells (told : Told) : Prop :=
  ∃ (visited : List Int32) (os : Int32 → IterOrder Int32)
    (h : ∀ l, (t.level l).size ≤ 65535), visited.Nodup ∧ (∀ l, l ∈ visited ↔ t.Occupied l) ∧
      told = visited.flatMap fun l => t.tellingLevel (os l) l (h l)

/-- What the server tells clients when this happens. -/
def Announces (settings : ServerSettings) (told : Told) : Happening → Prop
  | .said m => t.Responds settings m told
  | .sweep => told = []
  | .tick => t.TickTells told

end Table

/-- The datagrams of packets. -/
def spelled [Bytebuffer] (told : Table.Told) : Table.Sent := told.map fun p => (p.1, p.2.bytes)

/-! ## Small tables -/

section Small

variable {t : Table} {levelId : Int32} {level : LevelData}

theorem Table.level_of_get (h : t.levels.get levelId = some level) : level = t.level levelId := by
  change (if t.Occupied levelId then some (t.level levelId) else none) = some level at h
  split at h
  · exact (Option.some.inj h).symm
  · cases h

theorem Table.size_level_le (t : Table) (levelId : Int32) : (t.level levelId).size ≤ t.size := by
  apply Finset.card_le_card
  intro c hc
  rw [FiniteMap.mem_keys] at hc ⊢
  rw [Table.level, FiniteMap.get_filterMap] at hc
  cases hs : t.get c with
  | none => simp [hs] at hc
  | some s => rfl

/-- Other data of a client makes the table no larger. -/
theorem Table.size_insert_of_get {c : Int32} {s : Session} (h : t.get c = some s) (s' : Session) :
    FiniteMap.size (t.insert c s') = t.size := by
  have hmem : c ∈ t.keys := (t.mem_keys c).mpr (by rw [h]; rfl)
  exact congrArg Finset.card (Finset.insert_eq_of_mem hmem)

end Small

/-! ## What the server makes of a message -/

section Heard

variable [Bytebuffer] {settings : ServerSettings} {m : Said} {r : ByteReader}

theorem spelled_telling (t : Table) (o : IterOrder Int32) (levelId : Int32)
    (packet : ServerPacket) :
    spelled (t.telling o levelId packet) = t.toLevel o levelId packet.buffer := by
  rw [spelled, Table.telling, List.map_map]
  rfl

/-- A level that is answered with is told. -/
theorem Table.Answers.tells {t : Table} {client : ClientData} {out : Table.Sent}
    (hsize : t.size ≤ 65535) (h : t.Answers settings client out) :
    ∃ told, t.TellsLevel settings client told ∧ out = spelled told := by
  unfold Table.Answers at h
  unfold Table.TellsLevel
  cases hlevel : t.levels.get client.levelId with
  | none =>
    rw [hlevel] at h
    exact ⟨[], rfl, h⟩
  | some level =>
    simp only [hlevel] at h
    have hle : level.size ≤ 65535 := by
      rw [t.level_of_get hlevel]
      exact (t.size_level_le client.levelId).trans hsize
    by_cases htick : settings.tickBased = true
    · rw [if_pos htick] at h
      exact ⟨[], by simp only [if_pos htick], h⟩
    · rw [if_neg htick] at h
      obtain ⟨o, rfl⟩ := h
      simp only [if_neg htick]
      exact ⟨[(client.address, .levelData level o hle)], ⟨o, hle, rfl⟩, rfl⟩

/-- The message of a session. -/
def Said.InSession (m : Said) : Prop :=
  m.message ≠ .checkIn ∧ ∀ serverId serverIp port, m.message ≠ .ping serverId serverIp port

/-- A packet with this kind, followed by `r`, is what the message says. -/
structure Means (m : Said) (ptype : ClientPacketKind) (r : ByteReader) : Prop where
  obeys : ∀ (t : Table) now s, t.obey now m.id s r ptype = t.heed now m.id s m.message
  replies : ∀ (t : Table) settings s out, t.get m.id = some s → t.size ≤ 65535 →
    WireFree t.levels → t.Replies settings m.id s r out ptype →
      ∃ told, t.Tells settings m.id s told m.message ∧ out = spelled told

/-- What the server takes for a message of a session means it. -/
theorem means_of_understands {buf : List UInt8}
    (hu : Understands settings m.peer buf m.env m.world m.message) (hlegible : m.Legible)
    (hsession : m.InSession) :
    ∃ ptype r, header buf = some (ptype, m.id, m.key, r) ∧ ptype ≠ .checkIn ∧
      Means m ptype r := by
  obtain ⟨env, w, message, peer⟩ := m
  dsimp only at hu
  cases message with
  | queued message =>
    cases message with
    | playerData data =>
      obtain ⟨r, hheader, -, r', hr, -⟩ := hu
      refine ⟨_, r, hheader, by decide, ?_, ?_⟩
      · intro t now s
        simp only [Table.obey, hr, Table.heed]
      · intro t settings s out hs hsize _ h
        simp only [Table.Replies, hr] at h
        simp only [Table.Tells]
        split at h
        · next hoccupied =>
          simp only [if_pos hoccupied]
          refine h.tells ?_
          rwa [Table.size_insert_of_get hs]
        · next hvacant =>
          simp only [if_neg hvacant]
          exact ⟨[], rfl, h⟩
    | playerLevelEntry levelID =>
      obtain ⟨r, hheader, -, r', hr, -⟩ := hu
      refine ⟨_, r, hheader, by decide, ?_, ?_⟩
      · intro t now s
        simp only [Table.obey, hr, Table.heed]
      · intro t settings s out _ _ _ h
        simp only [Table.Replies, hr] at h
        obtain ⟨o, rfl⟩ := h
        exact ⟨_, ⟨o, rfl⟩, (spelled_telling _ o _ (.serverBroadcast _ _)).symm⟩
    | playerLevelExit =>
      obtain ⟨r, hheader, -, -⟩ := hu
      refine ⟨_, r, hheader, by decide, fun _ _ _ => rfl, ?_⟩
      intro t settings s out _ _ _ h
      obtain ⟨o, rfl⟩ := h
      exact ⟨_, ⟨o, rfl⟩, (spelled_telling _ o _ (.serverBroadcast _ _)).symm⟩
    | requestPlayerAccount playerId =>
      obtain ⟨r, hheader, -, r', hr, -⟩ := hu
      refine ⟨_, r, hheader, by decide, fun _ _ _ => rfl, ?_⟩
      intro t settings s out _ _ _ h
      simp only [Table.Replies, hr] at h
      simp only [Table.Tells]
      cases hplayer : t.get playerId with
      | none =>
        simp only [hplayer] at h
        exact ⟨[], rfl, h⟩
      | some player =>
        simp only [hplayer] at h
        exact ⟨_, rfl, h⟩
    | requestLevelList =>
      obtain ⟨r, hheader, -, -⟩ := hu
      refine ⟨_, r, hheader, by decide, fun _ _ _ => rfl, ?_⟩
      intro t settings s out _ _ hfree h
      obtain ⟨o, rfl⟩ := h
      exact ⟨[(s.client.address, .levelListResponse t.levels o hfree)], ⟨o, hfree, rfl⟩, rfl⟩
    | spectatingNoData =>
      obtain ⟨r, hheader, -, -⟩ := hu
      refine ⟨_, r, hheader, by decide, fun _ _ _ => rfl, ?_⟩
      intro t settings s out _ hsize _ h
      exact Table.Answers.tells hsize h
    | sendTextMessage message =>
      obtain ⟨text, htext⟩ := Option.isSome_iff_exists.mp hlegible
      obtain ⟨r, hheader, -, r', hr, -⟩ := hu text htext
      refine ⟨_, r, hheader, by decide, fun _ _ _ => rfl, ?_⟩
      intro t settings s out _ _ _ h
      simp only [Table.Replies, hr] at h
      simp only [Table.Tells, htext]
      split at h
      · next hcut =>
        simp only [dif_pos hcut]
        obtain ⟨o, rfl⟩ := h
        exact ⟨_, ⟨o, rfl⟩, (spelled_telling _ o _ (.textMessageSent _ _)).symm⟩
      · next hcut =>
        simp only [dif_neg hcut]
        exact ⟨[], rfl, h⟩
    | menuLayerEntry => exact hu.elim
    | pingServers => exact hu.elim
    | centralServerChanged server => exact hu.elim
  | heartbeat =>
    obtain ⟨r, hheader, -, -⟩ := hu
    exact ⟨_, r, hheader, by decide, fun _ _ _ => rfl, fun _ _ _ _ _ _ _ h => ⟨_, rfl, h⟩⟩
  | accountDataRequest playerId =>
    obtain ⟨r, hheader, -, r', hr, -⟩ := hu
    refine ⟨_, r, hheader, by decide, fun _ _ _ => rfl, ?_⟩
    intro t settings s out _ _ _ h
    simp only [Table.Replies, hr] at h
    simp only [Table.Tells]
    cases hplayer : t.get playerId with
    | none =>
      simp only [hplayer] at h
      exact ⟨[], rfl, h⟩
    | some player =>
      simp only [hplayer] at h
      exact ⟨_, rfl, h⟩
  | disconnect =>
    obtain ⟨r, hheader, -, -⟩ := hu
    exact ⟨_, r, hheader, by decide, fun _ _ _ => rfl, fun _ _ _ _ _ _ _ h => ⟨_, rfl, h⟩⟩
  | checkIn => exact absurd rfl hsession.1
  | ping serverId serverIp port => exact absurd rfl (hsession.2 serverId serverIp port)

omit [Bytebuffer] in
theorem Said.checkIn_or_ping (h : ¬m.InSession) : m.message = .checkIn ∨
    ∃ serverId serverIp port, m.message = .ping serverId serverIp port := by
  rw [InSession, not_and_or, not_not] at h
  push Not at h
  exact h

omit [Bytebuffer] in
theorem Table.hear_inSession (t : Table) (now : SystemTime) (h : m.InSession) :
    t.hear settings now m =
      if m.id = 0 then t
      else
        match t.get m.id with
        | some s => if s.client.secretKey = m.key then t.heed now m.id s m.message else t
        | none => t := by
  obtain ⟨env, w, message, peer⟩ := m
  cases message with
  | checkIn => exact absurd rfl h.1
  | ping serverId serverIp port => exact absurd rfl (h.2 serverId serverIp port)
  | _ => rfl

omit [Bytebuffer] in
theorem Table.responds_inSession (t : Table) (told : Table.Told) (h : m.InSession) :
    t.Responds settings m told ↔
      if m.id = 0 then
        told = [(m.peer, .serverDisconnect
          "You have to sign into a Geometry Dash account before connecting. If you already are, please restart your game.")]
      else
        match t.get m.id with
        | some s =>
          if s.client.secretKey = m.key then t.Tells settings m.id s told m.message
          else told = [(m.peer, .serverDisconnect
              "Failed to verify secret key: Secret key does not match")]
        | none => told = [(m.peer, .serverDisconnect
              s!"Failed to verify secret key: Client not found by id {m.id}")] := by
  obtain ⟨env, w, message, peer⟩ := m
  cases message with
  | checkIn => exact absurd rfl h.1
  | ping serverId serverIp port => exact absurd rfl (h.2 serverId serverIp port)
  | _ => exact Iff.rfl

/-- A message that is sent is a packet that the client builds. -/
theorem Said.Sends.understood {data : List UInt8} (h : m.Sends data)
    (settings : ServerSettings) :
    Understands settings m.peer data m.env m.world m.message := by
  have hbuf : ∃ buf, m.message.buffer m.env m.world = .ok buf := by
    have hsendable := h.sendable
    cases hm : m.message with
    | queued message =>
      rw [hm] at hsendable
      cases message with
      | menuLayerEntry => exact hsendable.elim
      | pingServers => exact hsendable.elim
      | centralServerChanged server => exact hsendable.elim
      | _ => exact ⟨_, rfl⟩
    | _ => exact ⟨_, rfl⟩
  obtain ⟨buf, hbuf⟩ := hbuf
  have hsent := Client.Message.datagrams_send hbuf
  rw [h.sent, List.append_cancel_left_eq] at hsent
  obtain rfl := List.singleton_inj.mp hsent
  have hfits := h.fits
  exact understands_buffer hbuf (by omega)

omit [Bytebuffer] in
theorem Said.Sends.of_buffer {buf : Client.ByteBuffer}
    (h : m.message.buffer m.env m.world = .ok buf) (hsendable : m.message.Sendable)
    (hlegible : m.Legible) (hfits : buf.data.length ≤ 1024) : m.Sends buf.data :=
  ⟨hsendable, hlegible, Client.Message.datagrams_send h, hfits⟩

omit [Bytebuffer] in
theorem Said.Sends.received {data : List UInt8} (h : m.Sends data) :
    Server.received data = data :=
  List.take_of_length_le h.fits

/-- The datagram of a ping has no credentials. -/
theorem Said.Sends.ping {data : List UInt8} (h : m.Sends data) {serverId serverIp : Client.CString}
    {port : UInt16} (hm : m.message = .ping serverId serverIp port) :
    header data = none ∧ ∃ number r r', readU8 (fromBytes data) = some (number, r) ∧
      ClientPacketKind.tryFrom number = some .ping ∧
      readI32 r = some (m.env.draw m.world.ticks, r') := by
  have hbuffer : (Client.Message.ping serverId serverIp port).buffer m.env m.world = .ok _ := rfl
  have hsent := Client.Message.datagrams_send hbuffer
  rw [← hm, h.sent, List.append_cancel_left_eq] at hsent
  obtain rfl := List.singleton_inj.mp hsent
  have hdata : (Client.GameSocket.pingPacket m.env (m.env.draw m.world.ticks)).data =
      ClientPacketKind.ping.toU8 :: Client.i32Bytes (m.env.draw m.world.ticks) := by
    rw [Client.GameSocket.pingPacket, Client.data_writeI32, data_writeType]
    rfl
  rw [hdata]
  have h₁ := readU8_cons (Client.i32Bytes (m.env.draw m.world.ticks)) ClientPacketKind.ping.toU8
  rw [← remaining_fromBytes (ClientPacketKind.ping.toU8 ::
    Client.i32Bytes (m.env.draw m.world.ticks))] at h₁
  obtain ⟨r, h₁, hr⟩ := Follows.some readU8_eq h₁
  obtain ⟨r', h₂, -⟩ := readsAll_readI32 hr
  refine ⟨?_, _, r, r', h₁, ClientPacketKind.tryFrom_toU8 _, h₂⟩
  simp [header, h₁]

/-- The datagram of a CheckIn has the account data. -/
theorem Said.Sends.checkIn {data : List UInt8} (h : m.Sends data) (hm : m.message = .checkIn) :
    ∃ name r r', fromUtf8 m.world.accountData.name = some name ∧
      header data = some (.checkIn, m.id, m.key, r) ∧
      PlayerAccountData.decode r = some (m.world.accountData.toServer name, r') := by
  have hu := h.understood ⟨0, 0, false, 0⟩
  have hlegible := h.legible
  rw [hm] at hu
  simp only [Said.Legible, hm] at hlegible
  obtain ⟨name, hname⟩ := Option.isSome_iff_exists.mp hlegible
  obtain ⟨r, hheader, -, r', hr, -⟩ := hu name hname
  exact ⟨name, r, r', hname, hheader, hr⟩

/-- What the table makes of a datagram is what it makes of the message. -/
theorem Said.Sends.packet_eq {data : List UInt8} (h : m.Sends data) (t : Table)
    (now : SystemTime) : t.packet settings now data m.peer = t.hear settings now m := by
  by_cases hsession : m.InSession
  · obtain ⟨ptype, r, hheader, hp, hmeans⟩ :=
      means_of_understands (h.understood settings) h.legible hsession
    rw [t.hear_inSession now hsession, Table.packet, hheader]
    simp only [if_neg hp]
    by_cases hid : m.id = 0
    · rw [if_pos hid, if_pos hid]
    rw [if_neg hid, if_neg hid]
    cases t.get m.id with
    | none => rfl
    | some s => exact if_congr Iff.rfl (hmeans.obeys t now s) rfl
  rcases Said.checkIn_or_ping hsession with hcheckIn | ⟨serverId, serverIp, port, hping⟩
  · obtain ⟨name, r, r', hname, hheader, hr⟩ := h.checkIn hcheckIn
    simp only [Table.packet, hheader, Table.hear, hcheckIn, hname, if_true, Table.checkIn,
      Table.enrol, hr]
  · have hheader := (h.ping hping).1
    simp only [Table.packet, hheader, Table.hear, hping, ite_self]

/-- What the server replies to a datagram is what the message makes it tell. -/
theorem Said.Sends.responds {data : List UInt8} (h : m.Sends data) {t : Table}
    (hsize : t.size ≤ 65535) (hfree : WireFree t.levels) {out : Table.Sent}
    (hout : t.PacketReplies settings data m.peer out) :
    ∃ told, t.Responds settings m told ∧ out = spelled told := by
  by_cases hsession : m.InSession
  · obtain ⟨ptype, r, hheader, hp, hmeans⟩ :=
      means_of_understands (h.understood settings) h.legible hsession
    simp only [Table.PacketReplies, hheader, if_neg hp] at hout
    simp only [t.responds_inSession _ hsession]
    split at hout
    · next hid => exact ⟨[(m.peer, .serverDisconnect _)], by rw [if_pos hid], hout⟩
    · next hid =>
      simp only [if_neg hid]
      cases hs : t.get m.id with
      | none =>
        simp only [hs] at hout
        exact ⟨_, rfl, hout⟩
      | some s =>
        simp only [hs] at hout
        split at hout
        · next hkey =>
          simp only [if_pos hkey]
          exact hmeans.replies t settings s out hs hsize hfree hout
        · next hkey =>
          simp only [if_neg hkey]
          exact ⟨_, rfl, hout⟩
  rcases Said.checkIn_or_ping hsession with hcheckIn | ⟨serverId, serverIp, port, hping⟩
  · obtain ⟨name, r, r', hname, hheader, hr⟩ := h.checkIn hcheckIn
    simp only [Table.PacketReplies, hheader, if_true, Table.checkInReplies, hr] at hout
    simp only [Table.Responds, hcheckIn, hname]
    split at hout
    · next hid => exact ⟨[(m.peer, .serverDisconnect _)], by rw [if_pos hid], hout⟩
    · next hid =>
      refine ⟨_, by rw [if_neg hid], hout.trans ?_⟩
      unfold Table.welcome
      split_ifs <;> rfl
  · obtain ⟨hheader, number, r, r', h₁, hnumber, h₂⟩ := h.ping hping
    simp only [Table.PacketReplies, hheader, h₁, if_pos hnumber, h₂] at hout
    refine ⟨[(m.peer, .pingResponse (m.env.draw m.world.ticks) t.size)], ?_, hout⟩
    simp only [Table.Responds, hping]

end Heard

/-! ## Runs -/

section Runs

variable [Bytebuffer] {settings : ServerSettings} {st : State} {hs : List Happening}
  {ks : List Request} {h : Happening} {k : Request}

theorem Happening.Arrives.serve_eq (hk : h.Arrives k) (t : Table) (now : SystemTime) :
    t.serve settings now k = t.happen settings now h := by
  cases hk with
  | said hsends =>
    rw [hsends.received]
    exact hsends.packet_eq t now
  | sweep => rfl
  | tick => rfl

omit [Bytebuffer] in
theorem Happening.Arrives.external (hk : h.Arrives k) : k.External := by
  cases hk <;> trivial

theorem Table.TickReplies.tells {t : Table} (hsize : t.size ≤ 65535) {out : Table.Sent}
    (hout : t.TickReplies out) : ∃ told, t.TickTells told ∧ out = spelled told := by
  obtain ⟨visited, os, hnodup, hmem, rfl⟩ := hout
  have hle : ∀ l, (t.level l).size ≤ 65535 := fun l => (t.size_level_le l).trans hsize
  refine ⟨visited.flatMap fun l => t.tellingLevel (os l) l (hle l),
    ⟨visited, os, hle, hnodup, hmem, rfl⟩, ?_⟩
  rw [spelled, List.map_flatMap]
  refine List.flatMap_congr fun l _ => ?_
  rw [Table.levelReplies, Table.tellingLevel, List.map_filterMap]
  refine List.filterMap_congr fun p _ => ?_
  rw [Option.map_map]
  rfl

/-- What the server replies to a request is what it announces. -/
theorem Happening.Arrives.announces (hk : h.Arrives k) {t : Table} (hsize : t.size ≤ 65535)
    (hfree : WireFree t.levels) {out : Table.Sent} (hout : t.RequestReplies settings out k) :
    ∃ told, t.Announces settings told h ∧ out = spelled told := by
  cases hk with
  | said hsends =>
    rw [hsends.received] at hout
    exact hsends.responds hsize hfree hout
  | sweep => exact ⟨[], rfl, hout⟩
  | tick => exact Table.TickReplies.tells hsize hout

theorem run_eq_history (hks : List.Forall₂ Happening.Arrives hs ks) (times : List SystemTime)
    (t : Table) : t.run settings (ks.zip times) = t.history settings (hs.zip times) := by
  induction hks generalizing t times with
  | nil => rfl
  | @cons h k hs ks hk _ ih =>
    cases times with
    | nil => rfl
    | cons now times =>
      rw [List.zip_cons_cons, List.zip_cons_cons, Table.run, List.foldl_cons, Table.history,
        List.foldl_cons, hk.serve_eq]
      exact ih times _

/-- Requests that arrive in turn lead to the table of their history, and the next one to what it
announces. -/
theorem inTurn_history (hks : List.Forall₂ Happening.Arrives hs ks) (hk : h.Arrives k)
    (hturn : (server settings sendsSucceed).InTurn .new ks st)
    (hroom : st.connectedClients.size ≤ 65535)
    {conf : Config Action Action.Answer Error State Request}
    (hconf : (server settings sendsSucceed).Handles st k conf) :
    ∃ times : List SystemTime, times.length = hs.length ∧ ∃ t told,
      t = Table.history .empty settings (hs.zip times) ∧ WireFree t.levels ∧
        t.Announces settings told h ∧ sends (events conf) = spelled told := by
  have hexternal : ∀ κ ∈ ks, κ.External := by
    clear hturn
    induction hks with
    | nil => simp
    | cons hk' _ ih => simpa using ⟨hk'.external, ih⟩
  obtain ⟨hreach, hhoused, times, hlen, htable⟩ := inTurn_table hturn hexternal
  have hreplies := handles_sends (R := fun out => st.table.RequestReplies settings out k) hconf
    (replies_task hreach hk.external)
  have hlevels : st.table.levels = st.levels :=
    congrArg State.levels (hhoused.state_table hreach.noEmptyLevel)
  have hfree : WireFree st.table.levels := hlevels ▸ hreach.wireFree
  obtain ⟨told, htold, hsends⟩ := hk.announces hroom hfree hreplies
  refine ⟨times, hlen.trans hks.length_eq.symm, st.table, told, ?_, hfree, htold, hsends⟩
  rw [htable, run_eq_history hks]

/-- **What clients say is what clients read**: while sends succeed and messages are handled one
after another, the next message, or tick, makes the server send the packets that the history of the
messages determines, and every client that gets one of them reads it back. -/
theorem conversation (hks : List.Forall₂ Happening.Arrives hs ks) (hk : h.Arrives k)
    (hturn : (server settings sendsSucceed).InTurn .new ks st)
    (hroom : st.connectedClients.size ≤ 65535)
    {conf : Config Action Action.Answer Error State Request}
    (hconf : (server settings sendsSucceed).Handles st k conf) :
    ∃ times : List SystemTime, times.length = hs.length ∧ ∃ told,
      (Table.history .empty settings (hs.zip times)).Announces settings told h ∧
      sends (events conf) = spelled told ∧
      ∀ p ∈ told, ∀ (env : Client.Env) (w : Client.World) (source : Client.SockAddr),
        p.2.Known w → env.target.Holds p.2.bytes → p.2.bytes.length ≤ 65536 →
          ∃ pkt w', p.2.ReadAs env (w.heardFrom source) pkt w' ∧
            Client.GameSocket.recvPacket env (some ⟨source, p.2.bytes⟩) w = (.ok pkt, w') := by
  obtain ⟨times, hlen, t, told, rfl, -, htold, hsends⟩ :=
    inTurn_history hks hk hturn hroom hconf
  refine ⟨times, hlen, told, htold, hsends, ?_⟩
  intro p _ env w source hknown hholds hfits
  exact p.2.read hknown hholds hfits source

end Runs

/-! ## Last words -/

/-- The level that a player entered and what it said there, after one more message. An entry says
the empty data, which the server then has of the player. -/
def Said.leads (m : Said) (c : Int32) (visit : Option (Int32 × Client.PlayerData)) :
    Option (Int32 × Client.PlayerData) :=
  if m.id = c then
    match m.message with
    | .queued (.playerData data) => visit.map fun v => (v.1, data)
    | .queued (.playerLevelEntry levelID) =>
      some (levelIdOfPacket levelID, PlayerData.empty.toClient)
    | .queued .playerLevelExit | .disconnect => none
    | .queued .menuLayerEntry | .queued .pingServers | .queued (.centralServerChanged _)
    | .queued (.requestPlayerAccount _) | .queued .requestLevelList | .queued .spectatingNoData
    | .queued (.sendTextMessage _) | .heartbeat | .checkIn | .accountDataRequest _
    | .ping _ _ _ => visit
  else visit

/-- The level that the player entered last, and what it said there last, if it has not left. -/
def lastWords (c : Int32) (hs : List Happening) : Option (Int32 × Client.PlayerData) :=
  hs.foldl (fun visit h => match h with
    | .said m => m.leads c visit
    | .sweep | .tick => visit) none

/-- All messages with one id have one key. -/
def HonestKeys (hs : List Happening) : Prop :=
  ∀ m m', Happening.said m ∈ hs → Happening.said m' ∈ hs → m.id = m'.id → m.key = m'.key

/-- The client said with which address and key it is there. -/
def CameFrom (hs : List Happening) (c : Int32) (address : SocketAddr) (key : Int32) : Prop :=
  ∃ m, Happening.said m ∈ hs ∧ m.message = .checkIn ∧ m.id = c ∧ m.peer = address ∧ m.key = key

/-- The session of a client is what it said last. -/
structure Recalls (hs : List Happening) (c : Int32) (s : Session) : Prop where
  ne_zero : c ≠ 0
  cameFrom : CameFrom hs c s.client.address s.client.secretKey
  settled : s.client.levelId = -1 ∨ s.seen.isSome = true
  words : ∀ sent, s.seen = some sent →
    ∃ data, lastWords c hs = some (s.client.levelId, data) ∧ data.toServer = sent

section LastWords

variable {hs : List Happening} {t : Table} {settings : ServerSettings} {c : Int32} {s : Session}

theorem lastWords_said (c : Int32) (hs : List Happening) (m : Said) :
    lastWords c (hs ++ [.said m]) = m.leads c (lastWords c hs) :=
  List.foldl_concat ..

theorem Said.leads_of_ne {m : Said} (h : m.id ≠ c) (visit : Option (Int32 × Client.PlayerData)) :
    m.leads c visit = visit :=
  if_neg h

theorem CameFrom.concat {address : SocketAddr} {key : Int32} (h : CameFrom hs c address key)
    (h' : Happening) : CameFrom (hs ++ [h']) c address key := by
  obtain ⟨m, hm, hrest⟩ := h
  exact ⟨m, List.mem_append_left _ hm, hrest⟩

/-- A session that is not touched, by something that does not change what was said last. -/
theorem Recalls.same (h : Recalls hs c s) {h' : Happening}
    (hwords : lastWords c (hs ++ [h']) = lastWords c hs) : Recalls (hs ++ [h']) c s where
  ne_zero := h.ne_zero
  cameFrom := h.cameFrom.concat h'
  settled := h.settled
  words sent hsent := by
    rw [hwords]
    exact h.words sent hsent

/-- A message is about its own client. -/
theorem Table.get_hear_of_ne (t : Table) (now : SystemTime) {m : Said} (h : c ≠ m.id) :
    (t.hear settings now m).get c = t.get c := by
  have hinsert : ∀ s, FiniteMap.get (t.insert m.id s) c = t.get c :=
    fun s => t.get_insert_of_ne s h
  obtain ⟨env, w, message, peer⟩ := m
  by_cases hid : Said.id ⟨env, w, message, peer⟩ = 0
  · rw [Table.hear, if_pos hid]
  by_cases hsession : Said.InSession ⟨env, w, message, peer⟩
  · rw [t.hear_inSession now hsession, if_neg hid]
    split
    · split
      · cases message with
        | disconnect => exact FiniteMap.get_erase_of_ne t h
        | queued message =>
          cases message with
          | playerData data =>
            simp only [Table.heed]
            split
            · exact hinsert _
            · rfl
          | playerLevelEntry levelID => exact hinsert _
          | playerLevelExit => exact hinsert _
          | _ => rfl
        | heartbeat => exact hinsert _
        | _ => rfl
      · rfl
    · rfl
  · cases message with
    | checkIn =>
      simp only [Table.hear, if_neg hid, Table.enrol]
      split
      · split_ifs
        · rfl
        · exact hinsert _
        · rfl
      · rfl
    | ping serverId serverIp port => simp only [Table.hear, ite_self]
    | _ => exact absurd ⟨nofun, nofun⟩ hsession

/-- What a message of its own makes of a session. -/
theorem Recalls.heed (h : Recalls hs c s) {m : Said} (hm : m.id = c) (hget : t.get c = some s)
    (hseen : t.Occupied s.client.levelId → s.seen.isSome = true) (now : SystemTime) {s' : Session}
    (hget' : (t.heed now c s m.message).get c = some s') : Recalls (hs ++ [.said m]) c s' := by
  have hcame := h.cameFrom.concat (.said m)
  have hwords := lastWords_said c hs m
  rw [Said.leads, if_pos hm] at hwords
  have hself : ∀ s₁, FiniteMap.get (t.insert c s₁) c = some s' → s₁ = s' := by
    intro s₁ hs₁
    rw [FiniteMap.get_insert_self] at hs₁
    exact Option.some.inj hs₁
  have hsame : t.get c = some s' → lastWords c (hs ++ [.said m]) = lastWords c hs →
      Recalls (hs ++ [.said m]) c s' := by
    intro hget' hwords
    rw [hget] at hget'
    obtain rfl := Option.some.inj hget'
    exact h.same hwords
  cases hmessage : m.message with
  | heartbeat =>
    rw [hmessage] at hget' hwords
    obtain rfl := hself _ hget'
    exact ⟨h.ne_zero, hcame, h.settled, (h.same hwords).words⟩
  | disconnect =>
    rw [hmessage] at hget'
    simp [Table.heed] at hget'
  | queued message =>
    rw [hmessage] at hget' hwords
    cases message with
    | playerData data =>
      simp only [Table.heed] at hget'
      simp only at hwords
      split at hget'
      · next hoccupied =>
        obtain rfl := hself _ hget'
        obtain ⟨sent₀, hsent₀⟩ := Option.isSome_iff_exists.mp (hseen hoccupied)
        obtain ⟨data₀, hdata₀, -⟩ := h.words sent₀ hsent₀
        refine ⟨h.ne_zero, hcame, .inr rfl, fun sent hsent => ?_⟩
        obtain rfl := Option.some.inj hsent
        refine ⟨data, ?_, rfl⟩
        rw [hwords, hdata₀]
        rfl
      · next hvacant =>
        rw [hget] at hget'
        obtain rfl := Option.some.inj hget'
        refine ⟨h.ne_zero, hcame, h.settled, fun sent hsent => ?_⟩
        have hoccupied : t.Occupied s.client.levelId :=
          Table.occupied_iff.mpr ⟨c, s, hget, rfl, by rw [hsent]; rfl⟩
        exact absurd hoccupied hvacant
    | playerLevelEntry levelID =>
      obtain rfl := hself _ hget'
      refine ⟨h.ne_zero, hcame, .inr rfl, fun sent hsent => ?_⟩
      obtain rfl := Option.some.inj hsent
      exact ⟨_, hwords, Client.PlayerData.toServer_toClient _⟩
    | playerLevelExit =>
      obtain rfl := hself _ hget'
      refine ⟨h.ne_zero, hcame, .inl rfl, fun sent hsent => ?_⟩
      cases hsent
    | _ => exact hsame hget' hwords
  | _ =>
    rw [hmessage] at hget' hwords
    exact hsame hget' hwords

/-- Nobody enters the level that stands for none. -/
theorem lastWords_ne {levelId : Int32} {data : Client.PlayerData}
    (h : lastWords c hs = some (levelId, data)) : levelId ≠ -1 := by
  induction hs using List.reverseRecOn generalizing data with
  | nil => cases h
  | append_singleton hs h' ih =>
    cases h' with
    | said m =>
      rw [lastWords_said, Said.leads] at h
      split at h
      · split at h
        · obtain ⟨visit, hvisit, heq⟩ := Option.map_eq_some_iff.mp h
          cases heq
          exact ih hvisit
        · cases h
          exact levelIdOfPacket_ne _
        · cases h
        · cases h
        all_goals exact ih h
      · exact ih h
    | sweep =>
      rw [lastWords, List.foldl_concat] at h
      exact ih h
    | tick =>
      rw [lastWords, List.foldl_concat] at h
      exact ih h

/-- The sessions are what the clients said last. -/
def Recalled (hs : List Happening) (t : Table) : Prop :=
  ∀ c s, t.get c = some s → Recalls hs c s

/-- On a level where somebody is seen, every client is. -/
theorem Recalled.seen (h : Recalled hs t) (hget : t.get c = some s)
    (hoccupied : t.Occupied s.client.levelId) : s.seen.isSome = true := by
  obtain ⟨c', s', hget', hlevel, hseen⟩ := Table.occupied_iff.mp hoccupied
  obtain ⟨sent, hsent⟩ := Option.isSome_iff_exists.mp hseen
  obtain ⟨data, hdata, -⟩ := (h c' s' hget').words sent hsent
  rw [hlevel] at hdata
  exact (h c s hget).settled.resolve_left (lastWords_ne hdata)

theorem Recalled.hear (h : Recalled hs t) {m : Said} (hkeys : HonestKeys (hs ++ [.said m]))
    (now : SystemTime) {s' : Session}
    (hget' : (t.hear settings now m).get m.id = some s') : Recalls (hs ++ [.said m]) m.id s' := by
  by_cases hid : m.id = 0
  · rw [Table.hear, if_pos hid] at hget'
    exact absurd hid (h m.id s' hget').ne_zero
  have hwords := lastWords_said m.id hs m
  rw [Said.leads, if_pos rfl] at hwords
  by_cases hsession : m.InSession
  · rw [t.hear_inSession now hsession, if_neg hid] at hget'
    cases hget : t.get m.id with
    | none =>
      rw [hget] at hget'
      exact absurd (hget.symm.trans hget') nofun
    | some s =>
      have hs := h m.id s hget
      obtain ⟨m₀, hm₀, -, hid₀, -, hkey₀⟩ := hs.cameFrom
      have hkey : s.client.secretKey = m.key := hkey₀.symm.trans
        (hkeys m₀ m (List.mem_append_left _ hm₀) (List.mem_append_right _ List.mem_cons_self) hid₀)
      simp only [hget, if_pos hkey] at hget'
      exact hs.heed rfl hget (h.seen hget) now hget'
  · rcases Said.checkIn_or_ping hsession with hmessage | ⟨serverId, serverIp, port, hmessage⟩
    · simp only [hmessage] at hwords
      simp only [Table.hear, if_neg hid, hmessage, Table.enrol] at hget'
      have henrolled : ∀ data, FiniteMap.get (t.insert m.id
          ⟨.checkedIn m.peer m.key now data, none⟩) m.id = some s' →
            Recalls (hs ++ [.said m]) m.id s' := by
        intro data hdata
        rw [FiniteMap.get_insert_self] at hdata
        obtain rfl := Option.some.inj hdata
        have hcame : CameFrom (hs ++ [.said m]) m.id m.peer m.key :=
          ⟨m, List.mem_append_right _ List.mem_cons_self, hmessage, rfl, rfl, rfl⟩
        refine ⟨hid, hcame, .inl rfl, fun sent hsent => ?_⟩
        cases hsent
      split at hget'
      · split_ifs at hget'
        · exact (h m.id s' hget').same hwords
        · exact henrolled _ hget'
        · exact (h m.id s' hget').same hwords
      · exact (h m.id s' hget').same hwords
    · simp only [hmessage] at hwords
      simp only [Table.hear, if_neg hid, hmessage] at hget'
      exact (h m.id s' hget').same hwords

theorem Recalled.happen (h : Recalled hs t) {h' : Happening} (hkeys : HonestKeys (hs ++ [h']))
    (now : SystemTime) : Recalled (hs ++ [h']) (t.happen settings now h') := by
  intro c s' hget'
  cases h' with
  | said m =>
    by_cases hc : c = m.id
    · subst hc
      exact h.hear hkeys now hget'
    · have hget : t.get c = some s' := (t.get_hear_of_ne now hc).symm.trans hget'
      apply (h c s' hget).same
      rw [lastWords_said, Said.leads_of_ne (Ne.symm hc)]
  | sweep =>
    have hget : t.get c = some s' := by
      rw [Table.happen, Table.sweep, FiniteMap.get_retain] at hget'
      exact (Option.filter_eq_some_iff.mp hget').1
    exact (h c s' hget).same (List.foldl_concat ..)
  | tick =>
    rw [Table.happen, Table.tick, FiniteMap.get_map] at hget'
    obtain ⟨s, hget, rfl⟩ := Option.map_eq_some_iff.mp hget'
    have hsame : Recalls (hs ++ [.tick]) c s := (h c s hget).same (List.foldl_concat ..)
    split
    · next hlost =>
      refine ⟨hsame.ne_zero, hsame.cameFrom, .inl rfl, fun sent hsent => ?_⟩
      have hoccupied : t.Occupied s.client.levelId :=
        Table.occupied_iff.mpr ⟨c, s, hget, rfl, by rw [hsent]; rfl⟩
      exact absurd hoccupied hlost.2
    · exact hsame

theorem recalled_history (hkeys : HonestKeys hs) {times : List SystemTime}
    (hlen : times.length = hs.length) :
    Recalled hs (Table.history .empty settings (hs.zip times)) := by
  induction hs using List.reverseRecOn generalizing times with
  | nil => exact fun c s hget => nomatch hget
  | append_singleton hs h' ih =>
    obtain ⟨times, now, rfl⟩ : ∃ times' now, times = times' ++ [now] := by
      have hne : times ≠ [] := by
        rintro rfl
        simp at hlen
      exact ⟨times.dropLast, times.getLast hne, (List.dropLast_append_getLast hne).symm⟩
    have hlen' : times.length = hs.length := by simpa using hlen
    have hkeys' : HonestKeys hs := fun m m' hm hm' =>
      hkeys m m' (List.mem_append_left _ hm) (List.mem_append_left _ hm')
    rw [List.zip_append hlen'.symm, Table.history, List.foldl_append]
    exact (ih hkeys' hlen').happen hkeys now

/-- A level that is sent to an address: it is the level of a client that checked in from there, and
who is on it said so last. -/
structure LevelOf (hs : List Happening) (address : SocketAddr) (level : LevelData)
    (levelId : Int32) : Prop where
  recipient : ∃ c key data, CameFrom hs c address key ∧ lastWords c hs = some (levelId, data)
  players : ∀ c sent, level.get c = some sent →
    ∃ data, lastWords c hs = some (levelId, data) ∧ data.toServer = sent

/-- The level of a client that is seen on it. -/
theorem Recalled.levelOf (h : Recalled hs t) (hget : t.get c = some s)
    (hseen : s.seen.isSome = true) :
    LevelOf hs s.client.address (t.level s.client.levelId) s.client.levelId where
  recipient := by
    obtain ⟨sent, hsent⟩ := Option.isSome_iff_exists.mp hseen
    obtain ⟨data, hdata, -⟩ := (h c s hget).words sent hsent
    exact ⟨c, _, data, (h c s hget).cameFrom, hdata⟩
  players c' sent hsent := by
    rw [Table.level, FiniteMap.get_filterMap] at hsent
    obtain ⟨s', hget', hsent⟩ := Option.bind_eq_some_iff.mp hsent
    split at hsent
    · next hlevel =>
      rw [← hlevel]
      exact (h c' s' hget').words sent hsent
    · cases hsent

/-- The level that stands for none is empty. -/
theorem Recalled.free (h : Recalled hs t) : t.levels.get (-1) = none := by
  refine if_neg fun hoccupied => ?_
  obtain ⟨c, s, hget, hlevel, hseen⟩ := Table.occupied_iff.mp hoccupied
  obtain ⟨sent, hsent⟩ := Option.isSome_iff_exists.mp hseen
  obtain ⟨data, hdata, -⟩ := (h c s hget).words sent hsent
  exact lastWords_ne hdata hlevel

/-- The answer to a client that is seen on its level, or on none. -/
theorem Recalled.tellsLevel (h : Recalled hs t) (hget : t.get c = some s) {told : Table.Told}
    (htold : t.TellsLevel settings s.client told) {address : SocketAddr} {level : LevelData}
    {o : IterOrder Int32} {hle : level.size ≤ 65535}
    (hp : (address, .levelData level o hle) ∈ told) :
    ∃ levelId, LevelOf hs address level levelId := by
  unfold Table.TellsLevel at htold
  cases hlevel : t.levels.get s.client.levelId with
  | none =>
    rw [hlevel] at htold
    rw [htold] at hp
    cases hp
  | some level' =>
    simp only [hlevel] at htold
    split at htold
    · rw [htold] at hp
      cases hp
    · obtain ⟨o', hle', rfl⟩ := htold
      obtain ⟨rfl, hpacket⟩ := Prod.mk.inj (List.mem_singleton.mp hp)
      cases hpacket
      have hoff : s.client.levelId ≠ -1 := by
        intro hoff
        rw [hoff, h.free] at hlevel
        cases hlevel
      rw [t.level_of_get hlevel]
      exact ⟨_, h.levelOf hget ((h c s hget).settled.resolve_left hoff)⟩

/-- The packet is a LevelData. -/
def ServerPacket.OfLevel : ServerPacket → Prop
  | levelData _ _ _ => True
  | _ => False

section Announces

variable {told : Table.Told} {address : SocketAddr} {level : LevelData} {o : IterOrder Int32}
  {hle : level.size ≤ 65535} (hp : (address, .levelData level o hle) ∈ told)

include hp

theorem ofLevel_of_single {addr : SocketAddr} {packet : ServerPacket}
    (htold : told = [(addr, packet)]) : packet.OfLevel := by
  subst htold
  obtain rfl := (Prod.mk.inj (List.mem_singleton.mp hp)).2
  trivial

theorem ofLevel_of_telling {o : IterOrder Int32} {levelId : Int32} {packet : ServerPacket}
    (htold : told = t.telling o levelId packet) : packet.OfLevel := by
  subst htold
  obtain ⟨e, -, heq⟩ := List.mem_map.mp hp
  obtain rfl := (Prod.mk.inj heq).2
  trivial

/-- What a message in a session tells of levels. -/
theorem Recalled.tells (h : Recalled hs t) {m : Said} (hid : m.id ≠ 0)
    (hsession : m.InSession) (hkeys : HonestKeys (hs ++ [.said m])) (hget : t.get m.id = some s)
    (hkey : s.client.secretKey = m.key) (htold : t.Tells settings m.id s told m.message) :
    ∃ levelId, LevelOf (hs ++ [.said m]) address level levelId := by
  have hafter : Recalled _ (t.happen settings 0 (.said m)) := h.happen hkeys 0
  have hheed : t.happen settings 0 (.said m) = t.heed 0 m.id s m.message := by
    change t.hear settings 0 m = _
    simp only [t.hear_inSession 0 hsession, if_neg hid, hget, if_pos hkey]
  rw [hheed] at hafter
  have hnothing : told = [] → ∃ levelId, LevelOf (hs ++ [.said m]) address level levelId := by
    rintro rfl
    cases hp
  cases hmessage : m.message with
  | heartbeat =>
    rw [hmessage] at htold
    exact (ofLevel_of_single hp htold).elim
  | accountDataRequest playerId =>
    simp only [hmessage, Table.Tells] at htold
    split at htold
    · exact (ofLevel_of_single hp htold).elim
    · exact hnothing htold
  | queued message =>
    rw [hmessage] at htold hafter
    cases message with
    | playerData data =>
      simp only [Table.Tells, Table.heed] at htold hafter
      split at htold
      · next hoccupied =>
        rw [if_pos hoccupied] at hafter
        exact hafter.tellsLevel (c := m.id) (FiniteMap.get_insert_self _ _ _) htold hp
      · exact hnothing htold
    | playerLevelEntry levelID =>
      obtain ⟨o', htold⟩ := htold
      exact (ofLevel_of_telling hp htold).elim
    | playerLevelExit =>
      obtain ⟨o', htold⟩ := htold
      exact (ofLevel_of_telling hp htold).elim
    | requestPlayerAccount playerId =>
      simp only [Table.Tells] at htold
      split at htold
      · exact (ofLevel_of_single hp htold).elim
      · exact hnothing htold
    | requestLevelList =>
      obtain ⟨o', hfree, htold⟩ := htold
      exact (ofLevel_of_single hp htold).elim
    | spectatingNoData => exact hafter.tellsLevel hget htold hp
    | sendTextMessage message =>
      simp only [Table.Tells] at htold
      split at htold
      · split at htold
        · obtain ⟨o', htold⟩ := htold
          exact (ofLevel_of_telling hp htold).elim
        · exact hnothing htold
      · exact hnothing htold
    | _ => exact hnothing htold
  | _ =>
    rw [hmessage] at htold
    exact hnothing htold

/-- Every level that is told is what its players said last. -/
theorem Recalled.announces (h : Recalled hs t) {h' : Happening}
    (hkeys : HonestKeys (hs ++ [h'])) (htold : t.Announces settings told h') :
    ∃ levelId, LevelOf (hs ++ [h']) address level levelId := by
  cases h' with
  | said m =>
    change t.Responds settings m told at htold
    by_cases hsession : m.InSession
    · rw [t.responds_inSession told hsession] at htold
      split at htold
      · exact (ofLevel_of_single hp htold).elim
      · next hid =>
        cases hget : t.get m.id with
        | none =>
          simp only [hget] at htold
          exact (ofLevel_of_single hp htold).elim
        | some s =>
          simp only [hget] at htold
          split at htold
          · next hkey => exact h.tells hp hid hsession hkeys hget hkey htold
          · exact (ofLevel_of_single hp htold).elim
    · rcases Said.checkIn_or_ping hsession with hmessage | ⟨serverId, serverIp, port, hmessage⟩
      · simp only [Table.Responds, hmessage] at htold
        split at htold
        · exact (ofLevel_of_single hp htold).elim
        · split at htold
          · have hlevel := ofLevel_of_single hp htold
            unfold Table.welcome at hlevel
            split_ifs at hlevel <;> exact hlevel.elim
          · rw [htold] at hp
            cases hp
      · simp only [Table.Responds, hmessage] at htold
        exact (ofLevel_of_single hp htold).elim
  | sweep =>
    obtain rfl : told = [] := htold
    cases hp
  | tick =>
    obtain ⟨visited, os, hsmall, -, -, rfl⟩ := htold
    obtain ⟨levelId, -, hp⟩ := List.mem_flatMap.mp hp
    obtain ⟨player, hplayer, hp⟩ := List.mem_filterMap.mp hp
    obtain ⟨s, hget, heq⟩ := Option.map_eq_some_iff.mp hp
    obtain ⟨rfl, hpacket⟩ := Prod.mk.inj heq
    cases hpacket
    have hafter : Recalled (hs ++ [.tick]) t :=
      fun c s hget => (h c s hget).same (List.foldl_concat ..)
    have hentry := FiniteMap.mem_entries.mp hplayer
    rw [Table.level, FiniteMap.get_filterMap, hget, Option.bind_some] at hentry
    split at hentry
    · next hlevel =>
      rw [← hlevel]
      exact ⟨_, hafter.levelOf hget (by rw [hentry]; rfl)⟩
    · cases hentry

end Announces

end LastWords

section Reading

variable [Bytebuffer] {settings : ServerSettings} {st : State} {hs : List Happening}
  {ks : List Request} {h : Happening} {k : Request} {env : Client.Env} {w w' : Client.World}

/-- A LevelData is read as what it says of the players on the level. -/
theorem read_levelData {packet : ServerPacket} (hholds : env.target.Holds packet.bytes)
    (hlen : packet.bytes.length ≤ 65536) {source : Client.SockAddr}
    {players : FiniteMap Int32 Client.PlayerData}
    (hrecv : Client.GameSocket.recvPacket env (some ⟨source, packet.bytes⟩) w =
      (.ok (.levelData players), w')) :
    ∃ level o hle, packet = .levelData level o hle ∧
      ∀ c data, players.get c = some data → ∃ sent, level.get c = some sent ∧
        sent.toClient = data := by
  have hkind := packet.packetType_read hrecv
  have hping : packet.kind ≠ .pingResponse := by
    intro h
    rw [h] at hkind
    cases hkind
  have hread := packet.readAs hping hholds hlen hrecv
  cases packet with
  | levelData level o hle =>
    obtain ⟨read, heq, -, hplayers⟩ := hread
    cases heq
    exact ⟨level, o, hle, rfl, fun c data hdata => ((hplayers c data).mp hdata).2⟩
  | _ => cases hkind

/-- **Last words**: while sends succeed, messages are handled one after another and no two clients
share an id, a client that reads a level reads of each player what that player said last, or the
empty data if it has only entered, and that it said it on the level that the client itself entered
last. Only a mode that no icon has is read as that of a cube. -/
theorem reads_last_words (hks : List.Forall₂ Happening.Arrives hs ks) (hk : h.Arrives k)
    (hturn : (server settings sendsSucceed).InTurn .new ks st)
    (hroom : st.connectedClients.size ≤ 65535) (hkeys : HonestKeys (hs ++ [h]))
    {conf : Config Action Action.Answer Error State Request}
    (hconf : (server settings sendsSucceed).Handles st k conf) {address : SocketAddr}
    {bytes : List UInt8} (hsent : (address, bytes) ∈ sends (events conf))
    (hholds : env.target.Holds bytes) (hlen : bytes.length ≤ 65536) {source : Client.SockAddr}
    {players : FiniteMap Int32 Client.PlayerData}
    (hrecv : Client.GameSocket.recvPacket env (some ⟨source, bytes⟩) w =
      (.ok (.levelData players), w')) :
    ∃ levelId, (∃ c key said, CameFrom (hs ++ [h]) c address key ∧
        lastWords c (hs ++ [h]) = some (levelId, said)) ∧
      ∀ c data, players.get c = some data →
        ∃ said, lastWords c (hs ++ [h]) = some (levelId, said) ∧
          data = said.toServer.toClient := by
  obtain ⟨times, hlen', t, told, rfl, -, htold, hsends⟩ :=
    inTurn_history hks hk hturn hroom hconf
  rw [hsends] at hsent
  obtain ⟨⟨address', packet⟩, hp, heq⟩ := List.mem_map.mp hsent
  obtain ⟨rfl, rfl⟩ := Prod.mk.inj heq
  obtain ⟨level, o, hle, rfl, hplayers⟩ := read_levelData hholds hlen hrecv
  have hkeys' : HonestKeys hs := fun m m' hm hm' =>
    hkeys m m' (List.mem_append_left _ hm) (List.mem_append_left _ hm')
  obtain ⟨levelId, hrecipient, hlevel⟩ :=
    (recalled_history hkeys' hlen').announces hp hkeys htold
  refine ⟨levelId, hrecipient, fun c data hdata => ?_⟩
  obtain ⟨sent, hsent, rfl⟩ := hplayers c data hdata
  obtain ⟨said, hsaid, rfl⟩ := hlevel c sent hsent
  exact ⟨said, hsaid, rfl⟩

end Reading

/-! ## Client 7 -/

section Client7

/-- A message of client 7. -/
noncomputable def said7 (message : Client.Message) : Said :=
  ⟨.working [], .new 7 42 data7.toClient [], message, peer7⟩

theorem said7_id (message : Client.Message) : (said7 message).id = 7 := rfl

theorem exists_arrives7 {message : Client.Message} {buf : Client.ByteBuffer}
    (h : message.buffer (said7 message).env (said7 message).world = .ok buf)
    (hsendable : message.Sendable) (hlegible : (said7 message).Legible)
    (hfits : buf.data.length ≤ 1024) : ∃ k, (Happening.said (said7 message)).Arrives k :=
  ⟨_, .said (.of_buffer h hsendable hlegible hfits)⟩

theorem exists_checkIn7_arrives : ∃ k, (Happening.said (said7 .checkIn)).Arrives k := by
  refine exists_arrives7 rfl trivial rfl ?_
  rw [Client.data_encodeAccountData, data_packet]
  decide

/-- The table once client 7 has checked in. -/
theorem hear_checkIn7 (now : SystemTime) :
    Table.hear .empty ⟨30, 0, false, 60⟩ now (said7 .checkIn) =
      FiniteMap.insert .empty 7 ⟨.checkedIn peer7 42 now data7, none⟩ := by
  have hname : fromUtf8 data7.toClient.name = some data7.name := fromUtf8_utf8 _
  have hfull : ¬((FiniteMap.empty : Table).contains 7 = true ∨
      Table.Full .empty ⟨30, 0, false, 60⟩) := by
    rintro (h | h)
    · cases h
    · exact h.1 rfl
  have hvalid : data7.isValid = true := by decide
  have hid : (said7 .checkIn).id ≠ 0 := by decide
  have hworld : (said7 .checkIn).world.accountData = data7.toClient := rfl
  have hmessage : (said7 .checkIn).message = .checkIn := rfl
  rw [Table.hear, if_neg hid]
  simp only [hmessage, hworld, hname]
  exact (if_neg hfull).trans (if_pos hvalid)

/-- Client 7 checks in and sends a Keepalive. It reads that one client is there. -/
theorem conversation_keepalive :
    letI := Bytebuffer.reference
    let settings : ServerSettings := ⟨30, 0, false, 60⟩
    ∃ st conf k k', (Happening.said (said7 .checkIn)).Arrives k ∧
      (Happening.said (said7 .heartbeat)).Arrives k' ∧
      (server settings sendsSucceed).InTurn .new [k] st ∧
      (server settings sendsSucceed).Handles st k' conf ∧
      ∃ bytes, sends (events conf) = [(peer7, bytes)] ∧ ∃ ping w', Client.GameSocket.recvPacket
        (.working []) (some ⟨⟨1, Client.afInet, 1⟩, bytes⟩) (said7 .heartbeat).world =
          (.ok (.keepaliveResponse 1 ping), w') := by
  let := Bytebuffer.reference
  intro settings
  obtain ⟨k, hk⟩ := exists_checkIn7_arrives
  obtain ⟨k', hk'⟩ : ∃ k', (Happening.said (said7 .heartbeat)).Arrives k' := by
    refine exists_arrives7 rfl trivial trivial ?_
    rw [← List.append_nil (Client.GameSocket.packet _ _ _).data, data_packet]
    decide
  obtain ⟨st, hturn⟩ := exists_inTurn settings [k]
  obtain ⟨conf, hconf⟩ := server_handles exists_sendsSucceed settings st k'
  have hroom : st.connectedClients.size ≤ 65535 := by
    obtain ⟨-, -, times, hlen, htable⟩ := inTurn_table hturn (by simpa using hk.external)
    obtain ⟨now, rfl⟩ := List.length_eq_one_iff.mp hlen
    change st.table = Table.serve .empty settings now k at htable
    rw [hk.serve_eq, Table.happen, hear_checkIn7] at htable
    have hsize : FiniteMap.size st.table = 1 := congrArg FiniteMap.size htable
    rw [State.table, FiniteMap.size_map] at hsize
    omega
  obtain ⟨times, hlen, told, htold, hsends, hread⟩ :=
    conversation (.cons hk .nil) hk' hturn hroom hconf
  obtain ⟨now, rfl⟩ := List.length_eq_one_iff.mp hlen
  change (Table.hear .empty settings now (said7 .checkIn)).Responds settings (said7 .heartbeat) told
    at htold
  rw [hear_checkIn7] at htold
  obtain rfl : told = [(peer7, .keepaliveResponse 1)] := htold
  have hbytes : (ServerPacket.keepaliveResponse 1).bytes = [201, 0, 0, 0, 1] := by
    rw [bytes_keepaliveResponse]
    decide
  refine ⟨st, conf, k, k', hk, hk', hturn, hconf, _, hsends, ?_⟩
  obtain ⟨pkt, w', ⟨rfl, -⟩, hrecv⟩ := hread _ List.mem_cons_self (.working [])
    (said7 .heartbeat).world ⟨1, Client.afInet, 1⟩ trivial
    (by rw [hbytes]; exact ⟨by decide, by decide⟩) (by rw [hbytes]; decide)
  exact ⟨_, w', hrecv⟩

/-- Client 7 checks in, enters level 5 and sends its data. Client 8 would read from the answer that
client 7 is there with this data. -/
theorem reads_last_words_level_5 :
    letI := Bytebuffer.reference
    let data : Client.PlayerData := PlayerData.empty.toClient
    let hs : List Happening :=
      [.said (said7 .checkIn), .said (said7 (.queued (.playerLevelEntry 5)))]
    let h : Happening := .said (said7 (.queued (.playerData data)))
    ∃ bytes players w', Client.GameSocket.recvPacket (.working [])
        (some ⟨⟨1, Client.afInet, 1⟩, bytes⟩) (.new 8 42 data7.toClient []) =
          (.ok (.levelData players), w') ∧ players.get 7 = some data ∧
      ∃ levelId, (∃ c key said, CameFrom (hs ++ [h]) c peer7 key ∧
          lastWords c (hs ++ [h]) = some (levelId, said)) ∧
        ∀ c data, players.get c = some data →
          ∃ said, lastWords c (hs ++ [h]) = some (levelId, said) ∧
            data = said.toServer.toClient := by
  let := Bytebuffer.reference
  intro data hs h
  let settings : ServerSettings := ⟨30, 0, false, 60⟩
  obtain ⟨k₁, hk₁⟩ := exists_checkIn7_arrives
  obtain ⟨k₂, hk₂⟩ : ∃ k₂, (Happening.said (said7 (.queued (.playerLevelEntry 5)))).Arrives k₂ := by
    refine exists_arrives7 rfl trivial trivial ?_
    rw [Client.data_writeI32, data_packet]
    decide
  obtain ⟨k₃, hk₃⟩ : ∃ k₃, h.Arrives k₃ := by
    refine exists_arrives7 rfl trivial trivial ?_
    rw [Client.data_encodePlayerData, data_packet]
    decide
  obtain ⟨st, hturn⟩ := exists_inTurn settings [k₁, k₂]
  obtain ⟨conf, hconf⟩ := server_handles exists_sendsSucceed settings st k₃
  have hks : List.Forall₂ Happening.Arrives hs [k₁, k₂] := .cons hk₁ (.cons hk₂ .nil)
  have htables : ∀ {times : List SystemTime}, times.length = 2 →
      ∃ client : ClientData, client.address = peer7 ∧ client.secretKey = 42 ∧
        client.levelId = 5 ∧ Table.history .empty settings (hs.zip times) =
          FiniteMap.insert .empty 7 ⟨client, some .empty⟩ := by
    intro times hlen
    obtain ⟨now, now', rfl⟩ := List.length_eq_two.mp hlen
    refine ⟨{ ClientData.checkedIn peer7 42 now data7 with levelId := 5 }, rfl, rfl, rfl, ?_⟩
    change Table.hear (Table.hear .empty settings now (said7 .checkIn)) settings now'
      (said7 (.queued (.playerLevelEntry 5))) = _
    rw [hear_checkIn7]
    exact FiniteMap.insert_insert_self _ _ _ _
  have hroom : st.connectedClients.size ≤ 65535 := by
    obtain ⟨-, -, times, hlen, htable⟩ :=
      inTurn_table hturn (by simpa using ⟨hk₁.external, hk₂.external⟩)
    obtain ⟨client, -, -, -, hhistory⟩ := htables hlen
    rw [run_eq_history hks, hhistory] at htable
    have hsize : FiniteMap.size st.table = 1 := congrArg FiniteMap.size htable
    rw [State.table, FiniteMap.size_map] at hsize
    omega
  obtain ⟨times, hlen, t, told, ht, -, htold, hsends⟩ := inTurn_history hks hk₃ hturn hroom hconf
  obtain ⟨client, haddress, hkey, hlevel, htable⟩ := htables hlen
  rw [htable] at ht
  subst ht
  have hsession : (said7 (.queued (.playerData data))).InSession := by
    refine ⟨?_, ?_⟩
    · intro h
      cases h
    · intro _ _ _ h
      cases h
  have hget : FiniteMap.get (FiniteMap.insert .empty 7 ⟨client, some .empty⟩ : Table)
      (said7 (.queued (.playerData data))).id = some ⟨client, some .empty⟩ :=
    FiniteMap.get_insert_self _ _ _
  have hoccupied : Table.Occupied (FiniteMap.insert .empty 7 ⟨client, some .empty⟩)
      client.levelId := Table.occupied_iff.mpr ⟨7, _, hget, rfl, rfl⟩
  have hh : h = .said (said7 (.queued (.playerData data))) := rfl
  rw [hh, Table.Announces] at htold
  have hid : (said7 (.queued (.playerData data))).id ≠ 0 := by decide
  have hkey' : client.secretKey = (said7 (.queued (.playerData data))).key := hkey
  simp only [Table.responds_inSession _ _ hsession, if_neg hid, hget, if_pos hkey'] at htold
  change (if Table.Occupied _ client.levelId then _ else _) at htold
  rw [if_pos hoccupied, Table.TellsLevel] at htold
  have hlevels := Table.levels_insert (c := 7)
    (FiniteMap.insert .empty 7 ⟨client, some .empty⟩) ⟨client, some .empty⟩ data.toServer
  simp only [said7_id, hlevels, settings, Bool.false_eq_true, if_false] at htold
  obtain ⟨o, hle, rfl⟩ := htold
  have hsize : FiniteMap.size ((Table.level (FiniteMap.insert .empty 7 ⟨client, some .empty⟩)
      client.levelId).insert 7 data.toServer) ≤ 1 := by
    rw [Table.level_of_get hlevels]
    exact Table.size_level_le _ _
  have hlength := length_bytes_levelData (o := o) hle
  have hholds : (Client.Env.working []).target.Holds (ServerPacket.levelData _ o hle).bytes := by
    refine ⟨by omega, ?_⟩
    change _ ≤ 2 ^ 62
    omega
  have hfits : (ServerPacket.levelData _ o hle).bytes.length ≤ 65536 := by omega
  obtain ⟨pkt, w', ⟨players, rfl, -, hplayers⟩, hrecv⟩ := ServerPacket.read (.levelData _ o hle)
    (w := .new 8 42 data7.toClient []) trivial hholds hfits ⟨1, Client.afInet, 1⟩
  have hkeys : HonestKeys (hs ++ [h]) := by
    intro m m' hm hm' _
    simp only [hs, h, List.cons_append, List.nil_append, List.mem_cons, Happening.said.injEq,
      List.not_mem_nil, or_false] at hm hm'
    rcases hm with rfl | rfl | rfl <;> rcases hm' with rfl | rfl | rfl <;> rfl
  have hsent : (peer7, (ServerPacket.levelData _ o hle).bytes) ∈ sends (events conf) := by
    rw [hsends, ← haddress]
    exact List.mem_cons_self
  refine ⟨_, players, w', hrecv, ?_,
    reads_last_words hks hk₃ hturn hroom hkeys hconf hsent hholds hfits hrecv⟩
  rw [hplayers]
  exact ⟨.inr (by decide), _, FiniteMap.get_insert_self _ _ _, rfl⟩

end Client7

end Globed.Server
