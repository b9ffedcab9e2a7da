import Globed.Client.Reception
import Globed.Client.Session
import Globed.Server.Invariants
import Globed.Wire.Players

/-!
# From the server to the client

Every packet that the server builds is one that `recvPacket` accepts: it reads the values that the
server wrote, up to the last byte.
-/

namespace Globed.Server

open Bytes Bytebuffer Calls

/-! ## The packets of the server -/

/-- A packet and the values it is built from. -/
inductive ServerPacket
  | checkedIn (settings : ServerSettings)
  | keepaliveResponse (clients : Nat)
  | serverDisconnect (message : String)
  | pingResponse (pingId : Int32) (clients : Nat)
  | playerAccountDataResponse (playerId : Int32) (icons : PlayerAccountData)
  | levelListResponse (levels : FiniteMap Int32 LevelData) (o : IterOrder Int32)
      (wireFree : WireFree levels)
  | levelData (level : LevelData) (o : IterOrder Int32) (size_le : level.size ≤ 65535)
  | textMessageSent (sender : Int32) (message : String)
  | serverBroadcast (message : String) (color : UInt8 × UInt8 × UInt8)

namespace ServerPacket

section Bytes

variable [Bytebuffer]

/-- What the server builds. -/
def buffer : ServerPacket → ByteBuffer
  | checkedIn settings => Server.checkedIn settings
  | keepaliveResponse clients => Server.keepaliveResponse clients
  | serverDisconnect message => Server.serverDisconnect message
  | pingResponse pingId clients => Server.pingResponse pingId clients
  | playerAccountDataResponse playerId icons => Server.playerAccountDataResponse playerId icons
  | levelListResponse levels o _ => Server.levelListResponse (State.levelCounts ⟨levels, .empty⟩ o)
  | levelData level o _ => levelDataPacket (level.entries o)
  | textMessageSent sender message => textMessage sender message
  | serverBroadcast message color => Server.serverBroadcast message color

def bytes (packet : ServerPacket) : List UInt8 := asBytes packet.buffer

end Bytes

/-- The client knows the id of the ping that is answered. -/
def Known (w : Client.World) : ServerPacket → Prop
  | pingResponse pingId _ => (w.gameSocket.pingTimes.get pingId).isSome = true
  | _ => True

/-- The client has read the packet `pkt` with the values of the server's packet, and its state `w`
has become `w'`. -/
def ReadAs (env : Client.Env) (w : Client.World) :
    ServerPacket → Client.RecvPacket → Client.World → Prop
  | checkedIn settings, pkt, w' => pkt = .checkedIn (.ofNat settings.tps) ∧ w' = w
  | keepaliveResponse clients, pkt, w' =>
    pkt = .keepaliveResponse (.ofNat clients)
      (env.highResolutionClock w.ticks - w.gameSocket.keepAliveTime).toMs ∧
    w' = { w with ticks := w.ticks + 1 }
  | serverDisconnect message, pkt, w' => pkt = .serverDisconnect (utf8 message) ∧ w' = w
  | pingResponse pingId clients, pkt, w' =>
    ∃ serverId sentAt, w.gameSocket.pingTimes.get pingId = some (serverId, sentAt) ∧
      pkt = .pingResponse serverId (.ofNat clients) (env.systemClock w.ticks - sentAt).toMs ∧
      w' = { w with
        ticks := w.ticks + 1
        gameSocket := { w.gameSocket with
          pingTimes := w.gameSocket.pingTimes.erase pingId } }
  | playerAccountDataResponse playerId icons, pkt, w' =>
    pkt = .accountDataResponse playerId icons.toClient ∧ w' = w
  | levelListResponse levels _ _, pkt, w' =>
    ∃ read, pkt = .levelListResponse read ∧ w' = w ∧
      ∀ id count, read.get id = some count ↔
        ∃ levelId level, levels.get levelId = some level ∧ packetLevelId levelId = id ∧
          UInt16.ofNat level.size = count
  | levelData level _ _, pkt, w' =>
    ∃ players, pkt = .levelData players ∧ w' = w ∧
      ∀ playerId data, players.get playerId = some data ↔
        (env.debug = true ∨ playerId ≠ w.gameSocket.accountId) ∧
          ∃ sent, level.get playerId = some sent ∧ sent.toClient = data
  | textMessageSent sender message, pkt, w' =>
    pkt = .textMessage sender ((utf8 message).take 80) ∧ w' = w
  | serverBroadcast message color, pkt, w' =>
    pkt = .serverMessage ((utf8 message).take 80) color ∧ w' = w

end ServerPacket

/-! ## The bytes of a packet -/

def ServerPacketKind.toClient : ServerPacketKind → Client.PacketType
  | checkedIn => .checkedIn
  | keepaliveResponse => .keepaliveResponse
  | serverDisconnect => .serverDisconnect
  | pingResponse => .pingResponse
  | playerAccountDataResponse => .playerAccountDataResponse
  | levelListResponse => .levelListResponse
  | levelData => .levelData
  | textMessageSent => .textMessageSent
  | serverBroadcast => .serverBroadcast

section Bytes

variable [Bytebuffer]

open ServerPacket

omit [Bytebuffer] in
theorem put_kind (kind : ServerPacketKind) :
    BitWriter.empty.put [kind.toU8] = ⟨[Client.ptToNumber kind.toClient], []⟩ := by
  cases kind <;> rfl

theorem toBytes_levelEntries (entries : List (Int32 × PlayerData)) (buf : ByteBuffer) :
    (written (entries.foldl (fun buf (playerId, playerData) =>
      playerData.encode (writeI32 buf playerId)) buf)).toBytes =
      (written buf).toBytes ++
        (entries.map fun p => (p.1, p.2.toClient)).flatMap Client.GameSocket.playerEntryBytes := by
  induction entries generalizing buf with
  | nil => simp
  | cons p entries ih =>
    rw [List.foldl_cons, ih, toBytes_encode]
    simp [BitWriter.put_eq, Client.GameSocket.playerEntryBytes, Client.i32Bytes, i32Bytes]

theorem toBytes_levelCounts (counts : List (Int32 × Nat)) (buf : ByteBuffer) :
    (written (counts.foldl (fun buf (levelId, players) =>
      writeU16 (writeI32 buf (packetLevelId levelId)) (.ofNat players)) buf)).toBytes =
      (written buf).toBytes ++
        (counts.map fun p => (packetLevelId p.1, UInt16.ofNat p.2)).flatMap
          Client.GameSocket.levelEntryBytes := by
  induction counts generalizing buf with
  | nil => simp
  | cons p counts ih =>
    rw [List.foldl_cons, ih]
    simp [BitWriter.put_eq, Client.GameSocket.levelEntryBytes, Client.i32Bytes, i32Bytes]

theorem bytes_checkedIn (settings : ServerSettings) :
    bytes (.checkedIn settings) = Client.ptToNumber .checkedIn ::
      bigEndian 2 (UInt16.ofNat settings.tps).toNat := by
  simp [bytes, buffer, Server.checkedIn, put_kind, ServerPacketKind.toClient]

theorem bytes_keepaliveResponse (clients : Nat) :
    bytes (.keepaliveResponse clients) = Client.ptToNumber .keepaliveResponse ::
      bigEndian 4 (UInt32.ofNat clients).toNat := by
  simp [bytes, buffer, Server.keepaliveResponse, put_kind, ServerPacketKind.toClient]

theorem bytes_serverDisconnect (message : String) :
    bytes (.serverDisconnect message) = Client.ptToNumber .serverDisconnect ::
      Client.stringBytes (utf8 message) := by
  simp [bytes, buffer, Server.serverDisconnect, put_kind, ServerPacketKind.toClient,
    stringBytes_utf8]

theorem bytes_pingResponse (pingId : Int32) (clients : Nat) :
    bytes (.pingResponse pingId clients) = Client.ptToNumber .pingResponse ::
      (Client.i32Bytes pingId ++ bigEndian 4 (UInt32.ofNat clients).toNat) := by
  simp [bytes, buffer, Server.pingResponse, put_kind, ServerPacketKind.toClient,
    Client.i32Bytes, i32Bytes]

theorem bytes_playerAccountDataResponse (playerId : Int32) (icons : PlayerAccountData) :
    bytes (.playerAccountDataResponse playerId icons) =
      Client.ptToNumber .playerAccountDataResponse ::
        (Client.i32Bytes playerId ++ icons.toClient.bytes) := by
  simp [bytes, buffer, Server.playerAccountDataResponse, put_kind, ServerPacketKind.toClient,
    written_encodeAccount, Client.i32Bytes, i32Bytes]

theorem bytes_textMessageSent (sender : Int32) (message : String) :
    bytes (.textMessageSent sender message) = Client.ptToNumber .textMessageSent ::
      (Client.i32Bytes sender ++ Client.stringBytes (utf8 message)) := by
  simp [bytes, buffer, textMessage, put_kind, ServerPacketKind.toClient, stringBytes_utf8,
    Client.i32Bytes, i32Bytes]

theorem bytes_serverBroadcast (message : String) (color : UInt8 × UInt8 × UInt8) :
    bytes (.serverBroadcast message color) = Client.ptToNumber .serverBroadcast ::
      (Client.stringBytes (utf8 message) ++ [color.1, color.2.1, color.2.2]) := by
  simp [bytes, buffer, Server.serverBroadcast, put_kind, ServerPacketKind.toClient,
    stringBytes_utf8]

theorem bytes_levelData (level : LevelData) (o : IterOrder Int32) (h : level.size ≤ 65535) :
    bytes (.levelData level o h) = Client.ptToNumber .levelData ::
      (bigEndian 2 ((level.entries o).map fun p => (p.1, p.2.toClient)).length ++
        ((level.entries o).map fun p => (p.1, p.2.toClient)).flatMap
          Client.GameSocket.playerEntryBytes) := by
  have hsize : (UInt16.ofNat level.size).toNat = level.size :=
    UInt16.toNat_ofNat_of_lt' (Nat.lt_succ_of_le h)
  rw [bytes, buffer, levelDataPacket, asBytes_eq, toBytes_levelEntries, List.length_map,
    FiniteMap.length_entries]
  simp [put_kind, ServerPacketKind.toClient, hsize]

theorem bytes_levelListResponse (levels : FiniteMap Int32 LevelData) (o : IterOrder Int32)
    (h : WireFree levels) :
    bytes (.levelListResponse levels o h) = Client.ptToNumber .levelListResponse ::
      (bigEndian 4 (((levels.entries o).map fun p =>
          (packetLevelId p.1, UInt16.ofNat p.2.size))).length ++
        ((levels.entries o).map fun p => (packetLevelId p.1, UInt16.ofNat p.2.size)).flatMap
          Client.GameSocket.levelEntryBytes) := by
  have hmod : bigEndian 4 (levels.size % 4294967296) = bigEndian 4 levels.size :=
    bigEndian_mod 4 levels.size
  rw [bytes, buffer, Server.levelListResponse, asBytes_eq, toBytes_levelCounts, State.levelCounts,
    List.length_map, List.length_map, List.map_map, FiniteMap.length_entries]
  simp [put_kind, ServerPacketKind.toClient, hmod, Function.comp_def]

/-! ## Packets in a session -/

/-- A `CheckedIn` answers a `CheckIn`. -/
def ServerPacket.answers (checkIn : Client.CheckIn) : ServerPacket → Option Client.CheckIn
  | checkedIn _ => some checkIn
  | _ => none

omit [Bytebuffer] in
theorem exists_other {bs rest : List UInt8} {packetType : Client.PacketType}
    (hbs : bs = Client.ptToNumber packetType :: rest) (h : packetType ≠ .checkedIn)
    (source : Client.SockAddr) :
    ∃ reply : Client.Reply, reply.datagram = ⟨source, bs⟩ ∧ reply.answers = none := by
  refine ⟨.other ⟨source, bs⟩ fun hhead => h ?_, rfl, rfl⟩
  rw [hbs] at hhead
  exact Client.ptToNumber_inj (Option.some.inj hhead)

/-- Every packet of a server is a reply of the client's session. -/
theorem exists_reply (packet : ServerPacket) (checkIn : Client.CheckIn) :
    ∃ reply : Client.Reply, reply.datagram = ⟨checkIn.peer, bytes packet⟩ ∧
      reply.answers = packet.answers checkIn := by
  cases packet with
  | checkedIn settings =>
    refine ⟨.checkedIn checkIn (.ofNat settings.tps), ?_, rfl⟩
    rw [bytes_checkedIn]
    rfl
  | keepaliveResponse clients => exact exists_other (bytes_keepaliveResponse clients) (by decide) _
  | serverDisconnect message => exact exists_other (bytes_serverDisconnect message) (by decide) _
  | pingResponse pingId clients =>
    exact exists_other (bytes_pingResponse pingId clients) (by decide) _
  | playerAccountDataResponse playerId icons =>
    exact exists_other (bytes_playerAccountDataResponse playerId icons) (by decide) _
  | levelListResponse levels o wireFree =>
    exact exists_other (bytes_levelListResponse levels o wireFree) (by decide) _
  | levelData level o size_le => exact exists_other (bytes_levelData level o size_le) (by decide) _
  | textMessageSent sender message =>
    exact exists_other (bytes_textMessageSent sender message) (by decide) _
  | serverBroadcast message color =>
    exact exists_other (bytes_serverBroadcast message color) (by decide) _

end Bytes

/-! ## The client reads every packet -/

/-- The name of a level leads back to it. -/
theorem levelIdOfPacket_packetLevelId {levelId : Int32} (h : levelId ≠ -1 ∧ levelId ≠ -2) :
    levelIdOfPacket (packetLevelId levelId) = levelId := by
  unfold packetLevelId
  split
  · next hdaily => exact hdaily.symm
  · split
    · next hweekly => exact hweekly.symm
    · rw [levelIdOfPacket, if_neg h.1, if_neg h.2]

theorem packetLevelId_inj {a b : Int32} (ha : a ≠ -1 ∧ a ≠ -2) (hb : b ≠ -1 ∧ b ≠ -2)
    (h : packetLevelId a = packetLevelId b) : a = b := by
  rw [← levelIdOfPacket_packetLevelId ha, h, levelIdOfPacket_packetLevelId hb]

section Reads

variable {env : Client.Env} {w : Client.World}

open ServerPacket Client Client.GameSocket

/-- Every level has a name of its own. -/
theorem nodup_packetLevelIds {levels : FiniteMap Int32 LevelData} (h : WireFree levels)
    (o : IterOrder Int32) :
    (((levels.entries o).map fun p =>
      (packetLevelId p.1, UInt16.ofNat p.2.size)).map Prod.fst).Nodup := by
  have hkeys := FiniteMap.nodup_keys_entries o levels
  rw [List.map_map]
  rw [List.Nodup, List.pairwise_map] at hkeys ⊢
  apply hkeys.imp_of_mem
  intro p q hp hq hne heq
  exact hne (packetLevelId_inj (h.ne (FiniteMap.mem_entries.mp hp))
    (h.ne (FiniteMap.mem_entries.mp hq)) heq)

theorem get_readLevels {levels : FiniteMap Int32 LevelData} (h : WireFree levels)
    (o : IterOrder Int32) (id : Int32) (count : UInt16) :
    (FiniteMap.empty.insertAll ((levels.entries o).map fun p =>
      (packetLevelId p.1, UInt16.ofNat p.2.size))).get id = some count ↔
      ∃ levelId level, levels.get levelId = some level ∧ packetLevelId levelId = id ∧
        UInt16.ofNat level.size = count := by
  rw [FiniteMap.get_insertAll_empty (nodup_packetLevelIds h o)]
  simp only [List.mem_map, Prod.exists, Prod.mk.injEq, FiniteMap.mem_entries]

theorem get_readPlayers (level : LevelData) (o : IterOrder Int32) (accountId playerId : Int32)
    (data : Client.PlayerData) :
    (FiniteMap.empty.insertAll (kept env accountId
      ((level.entries o).map fun p => (p.1, p.2.toClient)))).get playerId = some data ↔
      (env.debug = true ∨ playerId ≠ accountId) ∧
        ∃ sent, level.get playerId = some sent ∧ sent.toClient = data := by
  have hkeys : ((kept env accountId
      ((level.entries o).map fun p => (p.1, p.2.toClient))).map Prod.fst).Nodup := by
    have hnodup : (((level.entries o).map fun p => (p.1, p.2.toClient)).map Prod.fst).Nodup := by
      rw [List.map_map]
      exact FiniteMap.nodup_keys_entries o level
    exact hnodup.sublist (List.filter_sublist.map Prod.fst)
  rw [FiniteMap.get_insertAll_empty hkeys, kept, List.mem_filter]
  simp only [List.mem_map, Prod.exists, Prod.mk.injEq, FiniteMap.mem_entries, Bool.or_eq_true,
    bne_iff_ne]
  constructor
  · rintro ⟨⟨_, sent, hsent, rfl, rfl⟩, hkept⟩
    exact ⟨hkept, sent, hsent, rfl⟩
  · rintro ⟨hkept, sent, hsent, rfl⟩
    exact ⟨⟨_, sent, hsent, rfl, rfl⟩, hkept⟩

variable [Bytebuffer]

theorem exists_parses (packet : ServerPacket) (hknown : packet.Known w)
    (hholds : env.target.Holds packet.bytes) :
    ∃ pkt w', packet.ReadAs env w pkt w' ∧
      Parses env.target (parsePacket env) w packet.bytes pkt w' := by
  have htext : ∀ {message : String}, message.utf8ByteSize ≤ packet.bytes.length →
      env.target.Holds (utf8 message) := by
    intro message hle
    rw [Target.Holds, length_utf8]
    exact ⟨Nat.lt_of_le_of_lt hle hholds.1, hle.trans hholds.2⟩
  cases packet with
  | checkedIn settings =>
    rw [bytes_checkedIn]
    exact ⟨_, _, ⟨rfl, rfl⟩, parses_packet (parses_checkedIn _)⟩
  | keepaliveResponse clients =>
    rw [bytes_keepaliveResponse]
    exact ⟨_, _, ⟨rfl, rfl⟩, parses_packet (parses_keepaliveResponse _)⟩
  | serverDisconnect message =>
    have hle : message.utf8ByteSize ≤ (bytes (.serverDisconnect message)).length := by
      simp [bytes_serverDisconnect, stringBytes]
      omega
    rw [bytes_serverDisconnect]
    exact ⟨_, _, ⟨rfl, rfl⟩, parses_packet (parses_serverDisconnect (htext hle))⟩
  | pingResponse pingId clients =>
    obtain ⟨⟨serverId, sentAt⟩, hping⟩ := Option.isSome_iff_exists.mp hknown
    rw [bytes_pingResponse]
    exact ⟨_, _, ⟨serverId, sentAt, hping, rfl, rfl⟩, parses_packet (parses_pingResponse hping _)⟩
  | playerAccountDataResponse playerId icons =>
    have hle : icons.name.utf8ByteSize ≤
        (bytes (.playerAccountDataResponse playerId icons)).length := by
      simp [bytes_playerAccountDataResponse, Client.PlayerAccountData.bytes,
        PlayerAccountData.toClient, stringBytes]
      omega
    rw [bytes_playerAccountDataResponse]
    exact ⟨_, _, ⟨rfl, rfl⟩, parses_packet (parses_playerAccountDataResponse _ (htext hle))⟩
  | levelListResponse levels o wireFree =>
    have hlen : levels.size < 2 ^ 32 := by
      have h := hholds.1
      rw [bytes_levelListResponse, List.length_cons, List.length_append,
        length_flatMap_levelEntryBytes, List.length_map, FiniteMap.length_entries] at h
      omega
    rw [bytes_levelListResponse]
    refine ⟨_, _, ⟨_, rfl, rfl, get_readLevels wireFree o⟩,
      parses_packet (parses_levelListResponse ?_)⟩
    rwa [List.length_map, FiniteMap.length_entries]
  | levelData level o size_le =>
    rw [bytes_levelData]
    refine ⟨_, _, ⟨_, rfl, rfl, get_readPlayers level o _⟩, parses_packet (parses_levelData ?_ ?_)⟩
    · rw [List.length_map, FiniteMap.length_entries]
      omega
    · intro p hp
      obtain ⟨q, -, rfl⟩ := List.mem_map.mp hp
      exact ⟨q.2.player1.gameMode.toClient_ne_none, q.2.player2.gameMode.toClient_ne_none⟩
  | textMessageSent sender message =>
    have hle : message.utf8ByteSize ≤ (bytes (.textMessageSent sender message)).length := by
      simp [bytes_textMessageSent, stringBytes]
      omega
    rw [bytes_textMessageSent]
    refine ⟨_, _, ⟨?_, rfl⟩, parses_packet (parses_textMessageSent sender (htext hle))⟩
    rw [cutText_eq]
  | serverBroadcast message color =>
    have hle : message.utf8ByteSize ≤ (bytes (.serverBroadcast message color)).length := by
      simp [bytes_serverBroadcast, stringBytes]
      omega
    rw [bytes_serverBroadcast]
    refine ⟨_, _, ⟨?_, rfl⟩, parses_packet (parses_serverBroadcast (htext hle) _ _ _)⟩
    rw [cutText_eq]

theorem bytes_ne_nil (packet : ServerPacket) : packet.bytes ≠ [] := by
  cases packet with
  | checkedIn settings => simp [bytes_checkedIn]
  | keepaliveResponse clients => simp [bytes_keepaliveResponse]
  | serverDisconnect message => simp [bytes_serverDisconnect]
  | pingResponse pingId clients => simp [bytes_pingResponse]
  | playerAccountDataResponse playerId icons => simp [bytes_playerAccountDataResponse]
  | levelListResponse levels o wireFree => simp [bytes_levelListResponse]
  | levelData level o size_le => simp [bytes_levelData]
  | textMessageSent sender message => simp [bytes_textMessageSent]
  | serverBroadcast message color => simp [bytes_serverBroadcast]

/-- **The client reads what the server wrote**: each packet is parsed to its last byte, and received
if it fits the client's buffer. Whatever bytes a player sent that the server accepted, the icons
have modes that every client knows. -/
theorem recvPacket_serverPacket (packet : ServerPacket) (hknown : packet.Known w)
    (hholds : env.target.Holds packet.bytes) :
    (∃ pkt w', packet.ReadAs env w pkt w' ∧
      parsePacket env (.ofBytes packet.bytes) w =
        (.ok (pkt, ⟨packet.bytes, packet.bytes.length⟩), w')) ∧
    (∀ source, packet.bytes.length ≤ 65536 →
      ∃ pkt w', packet.ReadAs env (w.heardFrom source) pkt w' ∧
        recvPacket env (some ⟨source, packet.bytes⟩) w = (.ok pkt, w')) ∧
    ∀ (r r' : ByteReader) (bs : List UInt8) (data : Server.PlayerData),
      remaining r = ⟨bs, 0⟩ → Server.PlayerData.decode r = some (data, r') →
        data.toClient.player1.gameMode = modeOfByte (bs.getD 16 0) ∧
          data.toClient.player2.gameMode = modeOfByte (bs.getD 30 0) := by
  refine ⟨?_, fun source hlen => ?_, fun r r' bs data hr hdecode => ?_⟩
  · obtain ⟨pkt, w', hread, hparse⟩ := exists_parses packet hknown hholds
    exact ⟨pkt, w', hread, hparse.whole hholds.1⟩
  · have hknown' : packet.Known (w.heardFrom source) := by
      cases packet <;> exact hknown
    obtain ⟨pkt, w', hread, hparse⟩ := exists_parses packet hknown' hholds
    exact ⟨pkt, w', hread,
      recvPacket_of_parsePacket (bytes_ne_nil packet) hlen (hparse.whole hholds.1)⟩
  · have hfollows := Server.PlayerData.follows_decode r
    rw [hr, hdecode] at hfollows
    exact of_decode_some hfollows.symm

omit [Bytebuffer] in
/-- A client that has sent the ping 5 reads the answer to it. -/
theorem recvPacket_pingResponse_5 :
    letI := Bytebuffer.reference
    ∃ w : World, ∃ pkt w', ReadAs (.working []) w (.pingResponse 5 12) pkt w' ∧
      parsePacket (.working []) (.ofBytes (bytes (.pingResponse 5 12))) w =
        (.ok (pkt, ⟨bytes (.pingResponse 5 12), (bytes (.pingResponse 5 12)).length⟩), w') := by
  let := Bytebuffer.reference
  let start := World.new 7 42 Server.PlayerAccountData.empty.toClient []
  let w : World := { start with
    gameSocket := { start.gameSocket with pingTimes := FiniteMap.empty.insert 5 ([115], 3) } }
  have hholds : (Env.working []).target.Holds (bytes (.pingResponse 5 12)) := by
    rw [bytes_pingResponse]
    exact ⟨by decide, by decide⟩
  have hknown : Known w (.pingResponse 5 12) := rfl
  exact ⟨w, (recvPacket_serverPacket (.pingResponse 5 12) hknown hholds).1⟩

end Reads

end Globed.Server
