import Globed.Wire.ServerToClient

/-!
# Reading packets

The first byte of a datagram tells which packet the client reads, if it reads one. With
`exists_parses`, a client that reads a packet of the server reads what the server put into it.
-/

namespace Globed.Client

open Calls

def RecvPacket.packetType : RecvPacket → PacketType
  | checkedIn _ => .checkedIn
  | keepaliveResponse _ _ => .keepaliveResponse
  | serverDisconnect _ => .serverDisconnect
  | pingResponse _ _ _ => .pingResponse
  | accountDataResponse _ _ => .playerAccountDataResponse
  | levelListResponse _ => .levelListResponse
  | levelData _ => .levelData
  | textMessage _ _ => .textMessageSent
  | serverMessage _ _ => .serverBroadcast

section Kinds

variable {env : Env} {w w' : World} {pkt : RecvPacket}

theorem gives_packetType (packetType : PacketType) :
    ParseGives (fun pkt => pkt.packetType = packetType) (GameSocket.parseBody env packetType) := by
  cases packetType
  case checkedIn => exact .bind fun _ => .pure rfl
  case keepaliveResponse => exact .bind fun _ => .bind fun _ => .bind fun _ => .pure rfl
  case serverDisconnect => exact .bind fun _ => .pure rfl
  case levelData => exact .bind fun _ => .bind fun _ => .bind fun _ => .pure rfl
  case pingResponse =>
    refine .bind fun _ => .bind fun _ => .bind fun _ => ?_
    split
    · exact .throw _
    · exact .bind fun _ => .bind fun _ => .pure rfl
  case playerAccountDataResponse => exact .bind fun _ => .bind fun _ => .pure rfl
  case levelListResponse => exact .bind fun _ => .bind fun _ => .pure rfl
  case textMessageSent => exact .bind fun _ => .bind fun _ => .pure rfl
  case serverBroadcast =>
    exact .bind fun _ => .bind fun _ => .bind fun _ => .bind fun _ => .pure rfl
  all_goals exact .throw _

/-- A datagram that is read as a packet starts with the number of the packet. -/
theorem head_of_recvPacket {datagram : Datagram}
    (h : GameSocket.recvPacket env (some datagram) w = (.ok pkt, w')) :
    datagram.data.head? = some (ptToNumber pkt.packetType) := by
  rcases GameSocket.recvPacket_head env datagram w with ⟨-, hrecv⟩ | ⟨b, bs, hhead, hrecv⟩
  · rw [hrecv] at h
    cases h
  rw [hrecv] at h
  rcases numberToPt_cases b with ⟨packetType, hpt, rfl⟩ | ⟨e, hpt, -⟩
  · rw [hpt] at h
    have hgives : ∀ buf, Triple (fun _ => True)
        (GameSocket.parseBody env packetType buf >>= fun p => pure p.1 : Net RecvPacket)
        fun r _ => ∀ pkt, r = .ok pkt → pkt.packetType = packetType := by
      intro buf
      refine (gives_packetType packetType buf).bind (fun p => ?_) ?_
      · rintro w' hp pkt heq
        cases heq
        exact hp p.1 p.2 rfl
      · rintro e w' - pkt heq
        cases heq
    have hkind := hgives ⟨ptToNumber packetType :: bs, 1⟩ (w.heardFrom datagram.source) trivial pkt
      (congrArg Prod.fst h)
    rw [hkind]
    exact hhead
  · rw [hpt] at h
    cases h

end Kinds

end Globed.Client

namespace Globed.Server

variable [Bytebuffer] {env : Client.Env} {w w' : Client.World} {pkt : Client.RecvPacket}

open Bytes Bytebuffer ServerPacket

/-- A packet of the server is read by every client that it fits. -/
theorem ServerPacket.read (packet : ServerPacket) (hknown : packet.Known w)
    (hholds : env.target.Holds packet.bytes) (hlen : packet.bytes.length ≤ 65536)
    (source : Client.SockAddr) :
    ∃ pkt w', packet.ReadAs env (w.heardFrom source) pkt w' ∧
      Client.GameSocket.recvPacket env (some ⟨source, packet.bytes⟩) w = (.ok pkt, w') := by
  have hknown' : packet.Known (w.heardFrom source) := by
    cases packet <;> exact hknown
  obtain ⟨pkt, w', hread, hparse⟩ := exists_parses packet hknown' hholds
  exact ⟨pkt, w', hread, Client.GameSocket.recvPacket_of_parsePacket (bytes_ne_nil packet) hlen
    (hparse.whole hholds.1)⟩

/-- The bytes of a packet start with its kind. -/
def ServerPacket.kind : ServerPacket → ServerPacketKind
  | checkedIn _ => .checkedIn
  | keepaliveResponse _ => .keepaliveResponse
  | serverDisconnect _ => .serverDisconnect
  | pingResponse _ _ => .pingResponse
  | playerAccountDataResponse _ _ => .playerAccountDataResponse
  | levelListResponse _ _ _ => .levelListResponse
  | levelData _ _ _ => .levelData
  | textMessageSent _ _ => .textMessageSent
  | serverBroadcast _ _ => .serverBroadcast

theorem ServerPacket.head_bytes (packet : ServerPacket) :
    packet.bytes.head? = some (Client.ptToNumber packet.kind.toClient) := by
  cases packet with
  | checkedIn settings => rw [bytes_checkedIn]; rfl
  | keepaliveResponse clients => rw [bytes_keepaliveResponse]; rfl
  | serverDisconnect message => rw [bytes_serverDisconnect]; rfl
  | pingResponse pingId clients => rw [bytes_pingResponse]; rfl
  | playerAccountDataResponse playerId icons => rw [bytes_playerAccountDataResponse]; rfl
  | levelListResponse levels o wireFree => rw [bytes_levelListResponse]; rfl
  | levelData level o size_le => rw [bytes_levelData]; rfl
  | textMessageSent sender message => rw [bytes_textMessageSent]; rfl
  | serverBroadcast message color => rw [bytes_serverBroadcast]; rfl

/-- What is read of a packet is a packet of its kind. -/
theorem ServerPacket.packetType_read (packet : ServerPacket) {source : Client.SockAddr}
    (hrecv : Client.GameSocket.recvPacket env (some ⟨source, packet.bytes⟩) w = (.ok pkt, w')) :
    packet.kind.toClient = pkt.packetType := by
  have hhead := Client.head_of_recvPacket hrecv
  rw [packet.head_bytes] at hhead
  exact Client.ptToNumber_inj (Option.some.inj hhead)

/-- What is read of a packet that is not the answer to a ping is what the server put into it. -/
theorem ServerPacket.readAs (packet : ServerPacket) (hping : packet.kind ≠ .pingResponse)
    (hholds : env.target.Holds packet.bytes) (hlen : packet.bytes.length ≤ 65536)
    {source : Client.SockAddr}
    (hrecv : Client.GameSocket.recvPacket env (some ⟨source, packet.bytes⟩) w = (.ok pkt, w')) :
    packet.ReadAs env (w.heardFrom source) pkt w' := by
  have hknown : packet.Known w := by
    cases packet with
    | pingResponse pingId clients => exact absurd rfl hping
    | _ => trivial
  obtain ⟨pkt', w'', hread, hrecv'⟩ := packet.read hknown hholds hlen source
  rw [hrecv'] at hrecv
  cases hrecv
  exact hread

/-- Three bytes, and 45 for each player. -/
theorem length_levelDataPacket (level : List (Int32 × PlayerData)) :
    (asBytes (levelDataPacket level)).length = 3 + 45 * level.length := by
  have hentries : ∀ entries : List (Int32 × Client.PlayerData),
      (entries.flatMap Client.GameSocket.playerEntryBytes).length = 45 * entries.length := by
    intro entries
    induction entries with
    | nil => rfl
    | cons entry entries ih =>
      simp [Client.GameSocket.playerEntryBytes, Client.i32Bytes, ih]
      omega
  rw [levelDataPacket, asBytes_eq, toBytes_levelEntries, List.length_append, hentries,
    List.length_map]
  simp [put_kind]

theorem length_bytes_levelData {level : LevelData} {o : IterOrder Int32}
    (h : level.size ≤ 65535) :
    (ServerPacket.levelData level o h).bytes.length = 3 + 45 * level.size := by
  have hlength := length_levelDataPacket (level.entries o)
  rwa [FiniteMap.length_entries] at hlength

end Globed.Server
