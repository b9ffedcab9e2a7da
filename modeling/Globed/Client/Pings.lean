import Globed.Base.Sessions
import Globed.Base.Tickets
import Globed.Client.Destination
import Globed.Client.Grammar

/-!
# Pings

`sendPingTo` draws an id for each ping and keeps it in `pingTimes`, with the server that is pinged,
until a `PingResponse` with this id is accepted. `PingRun` goes along with a run and keeps what was
sent and which ids were answered. While the ids that are drawn are new, `pingTimes` holds the pings
without an answer (`PingRun.Tracked.step`), so that an answer counts for the server whose ping it
answers, and once (`PingRun.pings_attributed`).
-/

namespace Globed.Client

open Bytes Calls Sessions Tickets

/-! ## Calls that leave the pings -/

/-- The client keeps these pings. -/
def HasPings (pingTimes : FiniteMap Int32 (CString × Time)) (w : World) : Prop :=
  w.gameSocket.pingTimes = pingTimes

/-- It neither sends pings nor receives anything. -/
def Event.leavesPings : Event → Bool
  | send (.ping _ _ _) | pingAllServers | receive _ => false
  | handleMessage _ _ (.centralServerChanged _) | handleMessage _ _ .pingServers => false
  | _ => true

section HasPings

variable {env : Env} {pingTimes : FiniteMap Int32 (CString × Time)}

theorem hasPings_modify {f : World → World}
    (h : ∀ w, (f w).gameSocket.pingTimes = w.gameSocket.pingTimes := by intro _; rfl) :
    Keeps (HasPings pingTimes) (modify f : Net Unit) :=
  fun w hw => (h w).trans hw

theorem hasPings_readNext {α : Type} (readings : Nat → α) :
    Keeps (HasPings pingTimes) (readNext readings) :=
  fun _ hw => hw

theorem hasPings_getSocket : Keeps (HasPings pingTimes) getSocket := Keeps.gets _

theorem hasPings_sendAll (origin : Origin) (data : List UInt8) :
    Keeps (HasPings pingTimes) (UdpSocket.sendAll env origin data) := by
  intro w hw
  rw [UdpSocket.sendAll_apply]
  exact hw

theorem hasPings_connect (serverIp : CString) (port : UInt16) :
    Keeps (HasPings pingTimes) (UdpSocket.connect env serverIp port) := by
  intro w hw
  rw [UdpSocket.connect_apply]
  exact hw

theorem hasPings_socketDisconnect : Keeps (HasPings pingTimes) GameSocket.disconnect :=
  Keeps.bind hasPings_modify fun _ => hasPings_modify

theorem hasPings_sendAllTo (data : List UInt8) (serverIp : CString) (port : UInt16) :
    Keeps (HasPings pingTimes) (UdpSocket.sendAllTo env data serverIp port) := by
  refine hasPings_getSocket.bind fun socket => Keeps.ite ?_ ?_
  · refine (hasPings_connect serverIp port).bind fun _ => ?_
    exact (hasPings_sendAll .sendAllTo data).bind fun _ => hasPings_modify
  · refine (hasPings_connect serverIp port).bind fun _ => ?_
    exact (hasPings_sendAll .sendAllTo data).bind fun _ => hasPings_socketDisconnect

theorem hasPings_message {message : Message}
    (h : ∀ serverId serverIp port, message ≠ .ping serverId serverIp port) :
    Keeps (HasPings pingTimes) (message.send env) :=
  keeps_send h hasPings_readNext (fun _ => hasPings_modify) fun _ => hasPings_sendAll _ _

theorem hasPings_sendHeartbeat : Keeps (HasPings pingTimes) (Message.heartbeat.send env) :=
  hasPings_message fun _ _ _ h => (nomatch h)

theorem hasPings_sendCheckIn : Keeps (HasPings pingTimes) (Message.checkIn.send env) :=
  hasPings_message fun _ _ _ h => (nomatch h)

theorem hasPings_disconnect (quiet save : Bool) :
    Keeps (HasPings pingTimes) (NetworkHandler.disconnect env quiet save) := by
  refine (returns_disconnect (fun _ => hasPings_sendAll _ _) ?_ ?_ ?_).keeps
  · exact fun _ hw => hw
  · exact fun _ _ hw => hw
  · intro w hw
    exact ⟨⟨⟩, rfl, hw⟩

theorem hasPings_connectTo (server : GameServer) :
    Keeps (HasPings pingTimes) (NetworkHandler.connectTo env server) := by
  refine (Keeps.lift _).bind fun _ => (hasPings_connect _ _).bind fun _ => Keeps.ite ?_ ?_
  · refine Keeps.bind hasPings_modify fun _ => Keeps.bind hasPings_modify fun _ => ?_
    refine hasPings_sendCheckIn.bind fun _ => Keeps.bind hasPings_modify fun _ => ?_
    exact Keeps.pure _
  · exact Keeps.pure _

theorem hasPings_connectToServer (id : CString) :
    Keeps (HasPings pingTimes) (NetworkHandler.connectToServer env id) := by
  refine (hasPings_disconnect false false).bind fun _ => (Keeps.gets _).bind fun gameServers => ?_
  split
  · exact hasPings_connectTo _
  · exact Keeps.pure _

theorem hasPings_keepaliveRound : Keeps (HasPings pingTimes) (NetworkHandler.keepaliveRound env) :=
  triple_keepaliveRound hasPings_sendHeartbeat hasPings_readNext (hasPings_disconnect true true)
    fun _ hw => hw

theorem hasPings_handleMessage {accountId : Int32} {answer : Option (List GameServer)}
    {message : NetworkThreadMessage}
    (h : (Event.handleMessage accountId answer message).leavesPings = true) :
    Keeps (HasPings pingTimes) (NetworkHandler.handleMessage env accountId answer message) := by
  have hpacket := returns_sendPacket (I := HasPings pingTimes) env
    (fun _ => hasPings_sendAll _ _) message
  cases message with
  | menuLayerEntry =>
    refine Keeps.bind hasPings_modify fun _ => Keeps.ite (hasPings_disconnect true true) ?_
    refine Keeps.get.bind fun w => Keeps.ite ?_ (Keeps.pure _)
    exact (hasPings_connectToServer w.lastServerId).bind fun _ => Keeps.pure _
  | centralServerChanged _ | pingServers => cases h
  | _ => exact hpacket.keeps

theorem hasPings_after {event : Event} (h : event.leavesPings = true) (w : World) :
    (event.after env w).gameSocket.pingTimes = w.gameSocket.pingTimes := by
  cases event with
  | connectToServer id => exact hasPings_connectToServer id w rfl
  | disconnect quiet save => exact hasPings_disconnect quiet save w rfl
  | send message =>
    cases message with
    | ping serverId serverIp port => cases h
    | queued _ | heartbeat | checkIn | accountDataRequest _ | disconnect =>
      refine hasPings_message (fun _ _ _ heq => ?_) w rfl
      cases heq
  | pingAllServers | receive incoming => cases h
  | keepalive => exact hasPings_keepaliveRound w rfl
  | handleMessage accountId answer message => exact hasPings_handleMessage h w rfl
  | updateAccountData accountData => rfl

theorem hasPings_handlePacket (packet : RecvPacket) :
    Keeps (HasPings pingTimes) (NetworkHandler.handlePacket env packet) :=
  keeps_handlePacket hasPings_modify
    (fun _ _ hsocket _ hw => (congrArg GameSocket.pingTimes hsocket).trans hw)
    hasPings_readNext (hasPings_disconnect true true) packet

/-- It is no `PingResponse`. -/
theorem hasPings_recvPacket {datagram : Datagram}
    (h : datagram.data.head? ≠ some (ptToNumber .pingResponse)) :
    Keeps (HasPings pingTimes) (GameSocket.recvPacket env (some datagram)) := by
  intro w hw
  rcases GameSocket.recvPacket_head env datagram w with ⟨-, hrecv⟩ | ⟨b, bs, hhead, hrecv⟩
  · rw [hrecv]
    exact hw
  · rw [hrecv]
    rcases numberToPt_cases b with ⟨packetType, hpt, rfl⟩ | ⟨e, hpt, -⟩
    · rw [hpt]
      have hbody : ParseKeeps (HasPings pingTimes) (GameSocket.parseBody env packetType) :=
        ParseKeeps.parseBody hasPings_readNext fun heq => absurd (heq ▸ hhead) h
      exact (hbody _).bind (fun _ => Keeps.pure _) _ hw
    · rw [hpt]
      exact hw

theorem hasPings_recvRound {datagram : Datagram}
    (h : datagram.data.head? ≠ some (ptToNumber .pingResponse)) (w : World) :
    (NetworkHandler.recvRound env (some datagram) w).2.gameSocket.pingTimes =
      w.gameSocket.pingTimes := by
  have hround : Keeps (HasPings w.gameSocket.pingTimes)
      (NetworkHandler.recvRound env (some datagram)) :=
    ((hasPings_recvPacket h).bind hasPings_handlePacket).tryCatch fun _ => Keeps.pure _
  exact hround w rfl

end HasPings

/-! ## One `PingResponse` -/

section PingResponse

variable {env : Env} {w : World} {pingId : Int32} {serverId : CString} {sentAt : Time}
  {playerCount : UInt32} {source : SockAddr} {bytes rest : List UInt8}

/-- What follows the type of a `PingResponse`. -/
def responseBytes (pingId : Int32) (playerCount : UInt32) : List UInt8 :=
  i32Bytes pingId ++ u32Bytes playerCount

theorem mem_pingResponseFormat {pingTimes : FiniteMap Int32 (CString × Time)} :
    bytes ∈ pingResponseFormat pingTimes ↔ ∃ pingId v playerCount,
      pingTimes.get pingId = some v ∧ bytes = responseBytes pingId playerCount := by
  constructor
  · rintro ⟨pingId, b, hb, rfl⟩
    dsimp only at hb
    cases hget : pingTimes.get pingId with
    | none =>
      rw [if_neg (by simp [FiniteMap.contains, hget])] at hb
      exact absurd hb (Language.notMem_zero b)
    | some v =>
      rw [if_pos (FiniteMap.contains_iff.mpr ⟨v, hget⟩)] at hb
      obtain ⟨playerCount, rfl⟩ := (readsNumber_readU32 (t := .x64 false)).surjective b hb
      exact ⟨pingId, v, playerCount, hget, rfl⟩
  · rintro ⟨pingId, v, playerCount, hget, rfl⟩
    refine ⟨pingId, u32Bytes playerCount, ?_, rfl⟩
    dsimp only
    rw [if_pos (FiniteMap.contains_iff.mpr ⟨v, hget⟩)]
    exact length_bigEndian 4 _

/-- With the id of a ping, and a number behind it. -/
theorem recvPacket_pingResponse
    (h : w.gameSocket.pingTimes.get pingId = some (serverId, sentAt))
    (hlen : (ptToNumber .pingResponse :: (responseBytes pingId playerCount ++ rest)).length ≤
      65536) :
    GameSocket.recvPacket env
        (some ⟨source, ptToNumber .pingResponse :: (responseBytes pingId playerCount ++ rest)⟩) w =
      (.ok (.pingResponse serverId playerCount (env.systemClock w.ticks - sentAt).toMs),
        { GameSocket.ticked (w.heardFrom source) with
          gameSocket := { (w.heardFrom source).gameSocket with
            pingTimes := w.gameSocket.pingTimes.erase pingId } }) := by
  have hget : (w.heardFrom source).gameSocket.pingTimes.get pingId = some (serverId, sentAt) := h
  have hparse : Parses env.target (GameSocket.parsePacket env) (w.heardFrom source) _ _ _ :=
    GameSocket.parses_packet (GameSocket.parses_pingResponse hget playerCount)
  have hsize := env.target.lt_two_pow_sizeBits (Nat.lt_of_le_of_lt hlen (by decide))
  exact GameSocket.recvPacket_of_parsePacket (List.cons_ne_nil _ _) hlen
    (hparse _ [] rest rfl hsize)

/-- With an id that is not known, or too short. -/
theorem parseBody_bad_pingResponse (env : Env) (w : World)
    (h : ∀ pingId v playerCount, w.gameSocket.pingTimes.get pingId = some v →
      ¬responseBytes pingId playerCount <+: bytes) {b : UInt8}
    (hlen : (b :: bytes).length ≤ 65536) :
    ∃ e w', GameSocket.parseBody env .pingResponse ⟨b :: bytes, 1⟩ w = (.error e, w') ∧
      w'.gameSocket.pingTimes = w.gameSocket.pingTimes ∧
      w'.gameServersPings = w.gameServersPings := by
  have haccepts : Accepts (GameSocket.parseBody env .pingResponse) w _ :=
    GameSocket.accepts_pingResponse
  have hrun : Outcome (pingResponseFormat w.gameSocket.pingTimes) [b] bytes
        (GameSocket.parseBody env .pingResponse ⟨b :: bytes, 1⟩ w).1 ∧
      ∀ e, (GameSocket.parseBody env .pingResponse ⟨b :: bytes, 1⟩ w).1 = .error e →
        (GameSocket.parseBody env .pingResponse ⟨b :: bytes, 1⟩ w).2.gameSocket.pingTimes =
          w.gameSocket.pingTimes := haccepts [b] bytes hlen
  have hkeeps : ParseKeeps (fun w' => w'.gameServersPings = w.gameServersPings)
      (GameSocket.parseBody env .pingResponse) :=
    ParseKeeps.parseBody (fun _ _ hw => hw) fun _ _ => Keeps.modify fun _ hw => hw
  have hpings := hkeeps ⟨b :: bytes, 1⟩ w rfl
  generalize GameSocket.parseBody env .pingResponse ⟨b :: bytes, 1⟩ w = r at hrun hpings ⊢
  obtain ⟨e | p, w'⟩ := r
  · exact ⟨e, w', rfl, hrun.2 e rfl, hpings⟩
  · obtain ⟨bs, hstarts, -⟩ := hrun.1
    obtain ⟨pingId, v, playerCount, hget, rfl⟩ := mem_pingResponseFormat.mp hstarts.mem
    exact absurd hstarts.isPrefix (h pingId v playerCount hget)

theorem recvPacket_bad_pingResponse
    (h : ∀ pingId v playerCount, w.gameSocket.pingTimes.get pingId = some v →
      ¬responseBytes pingId playerCount <+: bytes)
    (hlen : (ptToNumber .pingResponse :: bytes).length ≤ 65536) :
    ∃ e w', GameSocket.recvPacket env (some ⟨source, ptToNumber .pingResponse :: bytes⟩) w =
        (.error e, w') ∧
      w'.gameSocket.pingTimes = w.gameSocket.pingTimes ∧
      w'.gameServersPings = w.gameServersPings := by
  obtain ⟨e, w', hbody, hkept⟩ := parseBody_bad_pingResponse env (w.heardFrom source) h hlen
  have hparse : GameSocket.parsePacket env (.ofBytes (ptToNumber .pingResponse :: bytes))
      (w.heardFrom source) = (.error e, w') := (GameSocket.parsePacket_cons hlen _).trans hbody
  refine ⟨e, w', ?_, hkept⟩
  rw [GameSocket.recvPacket_eq (List.cons_ne_nil _ _) hlen]
  exact Call.bind_of_error hparse _

end PingResponse

/-! ## Runs -/

inductive PingStep
  | sendPingTo (serverId serverIp : CString) (port : UInt16)
  | receive (incoming : Option Datagram)
  /-- Anything else that the client does between them. -/
  | other (event : Event) (h : event.leavesPings = true)

/-- A ping: the server, the time, and whether `sendto` took the datagram. -/
structure Ping where
  serverId : CString
  sentAt : Time
  taken : Bool

/-- What `pingTimes` keeps of a ping. -/
def Ping.pending (ping : Ping) : CString × Time := (ping.serverId, ping.sentAt)

/-- The client, with the pings that it sent and the ids that were answered. -/
structure PingRun where
  world : World
  ledger : Ledger Int32 Ping

namespace PingRun

def new (accountId secretKey : Int32) (accountData : PlayerAccountData)
    (gameServers : List GameServer) : PingRun where
  world := .new accountId secretKey accountData gameServers
  ledger := .empty

/-- The id that a `PingResponse` answers, if it is accepted. -/
def answered (env : Env) (w : World) (datagram : Datagram) : Option Int32 :=
  if datagram.data.head? = some (ptToNumber .pingResponse) then
    match (GameSocket.recvPacket env (some datagram) w).1,
      readI32 env.target ⟨datagram.data.take 5, 1⟩ with
    | .ok _, .ok (pingId, _) => some pingId
    | _, _ => none
  else none

def step (env : Env) (s : PingRun) : PingStep → PingRun
  | .sendPingTo serverId serverIp port =>
    { world := (Event.send (.ping serverId serverIp port)).after env s.world
      ledger := s.ledger.issue (env.draw s.world.ticks)
        ⟨serverId, env.systemClock (s.world.ticks + 1), env.sent s.world.sends⟩ }
  | .receive incoming =>
    { world := (Event.receive incoming).after env s.world
      ledger :=
        match incoming.bind (answered env s.world) with
        | some pingId => s.ledger.redeem pingId
        | none => s.ledger }
  | .other event _ => { s with world := event.after env s.world }

/-- It answers the one ping with its id, which was sent before and not answered. -/
structure Answers (s : PingRun) (datagram : Datagram) (pingId : Int32) (serverId : CString)
    (sentAt : Time) (playerCount : UInt32) : Prop where
  data : ptToNumber .pingResponse :: responseBytes pingId playerCount <+: datagram.data
  sent : ∃ taken, ∀ ping, (pingId, ping) ∈ s.ledger.issued ↔ ping = ⟨serverId, sentAt, taken⟩
  first : pingId ∉ s.ledger.redeemed

/-- A `PingResponse` is accepted if it answers a ping, and only then. It counts for the server of
the ping, and otherwise changes nothing of the pings. -/
structure Attributed (env : Env) (s : PingRun) (datagram : Datagram) : Prop where
  accepted_iff : (∃ pkt, (GameSocket.recvPacket env (some datagram) s.world).1 = .ok pkt) ↔
    ∃ pingId serverId sentAt playerCount, s.Answers datagram pingId serverId sentAt playerCount
  accepted : ∀ pingId serverId sentAt playerCount,
    s.Answers datagram pingId serverId sentAt playerCount →
      answered env s.world datagram = some pingId ∧
      ((Event.receive (some datagram)).after env s.world).gameServersPings =
        s.world.gameServersPings.insert serverId
          ((env.systemClock s.world.ticks - sentAt).toMs, playerCount.toInt32)
  rejected : ∀ e, (GameSocket.recvPacket env (some datagram) s.world).1 = .error e →
    ((Event.receive (some datagram)).after env s.world).gameSocket.pingTimes =
        s.world.gameSocket.pingTimes ∧
      ((Event.receive (some datagram)).after env s.world).gameServersPings =
        s.world.gameServersPings

/-- A ping is one datagram with its id, of which the ledger says whether `sendto` took it, and an
answer counts for its server. -/
def Sound (env : Env) (s : PingRun) : PingStep → Prop
  | .sendPingTo serverId serverIp port =>
    ∃ dest taken rest,
      ((Event.send (.ping serverId serverIp port)).after env s.world).trace = s.world.trace ++
        .datagram .sendAllTo dest (ptToNumber .ping :: i32Bytes (env.draw s.world.ticks)) taken ::
          rest ∧
      (rest = [] ∨ rest = [.disconnected]) ∧
      (env.draw s.world.ticks, ⟨serverId, env.systemClock (s.world.ticks + 1), taken⟩) ∈
        (s.step env (.sendPingTo serverId serverIp port)).ledger.issued
  | .receive incoming => ∀ datagram, incoming = some datagram →
    datagram.data.head? = some (ptToNumber .pingResponse) → Attributed env s datagram
  | .other _ _ => True

/-- `pingTimes` holds the pings without an answer. -/
def Tracked (s : PingRun) : Prop :=
  Tracks s.world.gameSocket.pingTimes (s.ledger.map Ping.pending)

variable {env : Env} {s : PingRun} {datagram : Datagram} {pingId : Int32} {serverId : CString}
  {sentAt : Time} {playerCount : UInt32}

/-! ### Sending -/

/-- The world when `sendAllTo` is called. -/
def drawn (env : Env) (w : World) (serverId : CString) : World :=
  { w with
    ticks := w.ticks + 2
    gameSocket := { w.gameSocket with
      pingTimes := w.gameSocket.pingTimes.insertIfNew (env.draw w.ticks)
        (serverId, env.systemClock (w.ticks + 1)) } }

theorem sendPingTo_apply (w : World) (serverId serverIp : CString) (port : UInt16) :
    GameSocket.sendPingTo env serverId serverIp port w =
      UdpSocket.sendAllTo env (GameSocket.pingPacket env (env.draw w.ticks)).data serverIp port
        (drawn env w serverId) := rfl

theorem pingPacket_data (num : Int32) :
    (GameSocket.pingPacket env num).data = ptToNumber .ping :: i32Bytes num := by
  simp [GameSocket.pingPacket, GameSocket.writeType, ByteBuffer.new, i32Bytes]

theorem trace_sendPingTo (w : World) (serverId serverIp : CString) (port : UInt16) :
    ∃ dest rest, (GameSocket.sendPingTo env serverId serverIp port w).2.trace = w.trace ++
        .datagram .sendAllTo dest (ptToNumber .ping :: i32Bytes (env.draw w.ticks))
          (env.sent w.sends) :: rest ∧
      (rest = [] ∨ rest = [.disconnected]) := by
  obtain ⟨rest, htrace, hrest⟩ := @UdpSocket.trace_sendAllTo env (drawn env w serverId)
    (GameSocket.pingPacket env (env.draw w.ticks)).data serverIp port
  rw [sendPingTo_apply, htrace, pingPacket_data]
  exact ⟨_, rest, rfl, hrest⟩

theorem pingTimes_sendPingTo (w : World) (serverId serverIp : CString) (port : UInt16) :
    (GameSocket.sendPingTo env serverId serverIp port w).2.gameSocket.pingTimes =
      w.gameSocket.pingTimes.insertIfNew (env.draw w.ticks)
        (serverId, env.systemClock (w.ticks + 1)) := by
  rw [sendPingTo_apply]
  exact hasPings_sendAllTo _ serverIp port (drawn env w serverId) rfl

/-! ### Receiving -/

theorem Tracked.answers_iff (h : s.Tracked) :
    s.Answers datagram pingId serverId sentAt playerCount ↔
      s.world.gameSocket.pingTimes.get pingId = some (serverId, sentAt) ∧
        ptToNumber .pingResponse :: responseBytes pingId playerCount <+: datagram.data := by
  rw [h.get_iff]
  have hdistinct : s.ledger.keys.Nodup := Ledger.keys_map (l := s.ledger) Ping.pending ▸ h.distinct
  constructor
  · intro hanswers
    obtain ⟨taken, hsent⟩ := hanswers.sent
    have hissued := (hsent ⟨serverId, sentAt, taken⟩).mpr rfl
    exact ⟨⟨(Ledger.mem_issued_map _).mpr ⟨_, hissued, rfl⟩, hanswers.first⟩, hanswers.data⟩
  · rintro ⟨⟨hopen, hnot⟩, hdata⟩
    obtain ⟨⟨serverId', sentAt', taken⟩, hissued, hpending⟩ := (Ledger.mem_issued_map _).mp hopen
    obtain ⟨rfl, rfl⟩ := Prod.mk.inj hpending
    refine ⟨hdata, ⟨taken, fun ping => ⟨fun hping => ?_, ?_⟩⟩, hnot⟩
    · exact Ledger.unique hdistinct hping hissued
    · rintro rfl
      exact hissued

/-- The first bytes of a datagram are not cut off. -/
theorem exists_take (h : ptToNumber .pingResponse :: responseBytes pingId playerCount <+:
    datagram.data) : ∃ rest, datagram.data.take 65536 =
      ptToNumber .pingResponse :: (responseBytes pingId playerCount ++ rest) := by
  have hlen : (ptToNumber .pingResponse :: responseBytes pingId playerCount).length ≤ 65536 := by
    simp [responseBytes, i32Bytes, u32Bytes]
  obtain ⟨rest, hrest⟩ := List.prefix_take_iff.mpr ⟨h, hlen⟩
  exact ⟨rest, hrest.symm⟩

theorem readI32_response (env : Env)
    (h : ptToNumber .pingResponse :: responseBytes pingId playerCount <+: datagram.data) :
    ∃ buf, readI32 env.target ⟨datagram.data.take 5, 1⟩ = .ok (pingId, buf) := by
  obtain ⟨rest, hrest⟩ := h
  have htake : datagram.data.take 5 = [ptToNumber .pingResponse] ++ (i32Bytes pingId ++ []) := by
    have hlen : 5 = (ptToNumber .pingResponse :: i32Bytes pingId).length := by simp [i32Bytes]
    rw [← hrest, responseBytes, List.cons_append, List.append_assoc, ← List.cons_append, hlen,
      List.take_left, List.append_nil]
    rfl
  refine ⟨_, Reads.readI32 pingId _ [ptToNumber .pingResponse] [] htake ?_⟩
  exact env.target.lt_two_pow_sizeBits (Nat.lt_of_le_of_lt (List.length_take_le _ _) (by decide))

theorem recvPacket_of_answers (h : s.Tracked)
    (hanswers : s.Answers datagram pingId serverId sentAt playerCount) :
    GameSocket.recvPacket env (some datagram) s.world =
      (.ok (.pingResponse serverId playerCount (env.systemClock s.world.ticks - sentAt).toMs),
        { GameSocket.ticked (s.world.heardFrom datagram.source) with
          gameSocket := { (s.world.heardFrom datagram.source).gameSocket with
            pingTimes := s.world.gameSocket.pingTimes.erase pingId } }) := by
  obtain ⟨hget, hdata⟩ := h.answers_iff.mp hanswers
  obtain ⟨rest, htake⟩ := exists_take hdata
  have hlen : (datagram.data.take 65536).length ≤ 65536 := List.length_take_le _ _
  rw [htake] at hlen
  rw [← GameSocket.recvPacket_take, htake]
  exact recvPacket_pingResponse hget hlen

theorem answered_of_answers (h : s.Tracked)
    (hanswers : s.Answers datagram pingId serverId sentAt playerCount) :
    answered env s.world datagram = some pingId := by
  have hhead : datagram.data.head? = some (ptToNumber .pingResponse) := by
    obtain ⟨rest, hrest⟩ := hanswers.data
    rw [← hrest]
    rfl
  obtain ⟨buf, hread⟩ := readI32_response env hanswers.data
  rw [answered, if_pos hhead, recvPacket_of_answers h hanswers, hread]

theorem recvRound_of_answers (h : s.Tracked)
    (hanswers : s.Answers datagram pingId serverId sentAt playerCount) :
    (NetworkHandler.recvRound env (some datagram) s.world).2.gameSocket.pingTimes =
        s.world.gameSocket.pingTimes.erase pingId ∧
      (NetworkHandler.recvRound env (some datagram) s.world).2.gameServersPings =
        s.world.gameServersPings.insert serverId
          ((env.systemClock s.world.ticks - sentAt).toMs, playerCount.toInt32) := by
  rw [NetworkHandler.recvRound, Call.tryCatch_apply,
    Call.bind_of_ok (recvPacket_of_answers h hanswers)]
  exact ⟨rfl, rfl⟩

/-- A `PingResponse` that answers no ping is rejected. -/
theorem exists_rejected (env : Env) (h : s.Tracked)
    (hhead : datagram.data.head? = some (ptToNumber .pingResponse))
    (hnot : ¬∃ pingId serverId sentAt playerCount,
      s.Answers datagram pingId serverId sentAt playerCount) :
    ∃ e w', GameSocket.recvPacket env (some datagram) s.world = (.error e, w') ∧
      w'.gameSocket.pingTimes = s.world.gameSocket.pingTimes ∧
      w'.gameServersPings = s.world.gameServersPings := by
  obtain ⟨bytes, htake, hlen⟩ := GameSocket.take_cons hhead
  rw [← GameSocket.recvPacket_take, htake]
  refine recvPacket_bad_pingResponse ?_ hlen
  rintro pingId ⟨serverId, sentAt⟩ playerCount hget hpre
  have hdata : ptToNumber .pingResponse :: responseBytes pingId playerCount <+: datagram.data := by
    apply List.IsPrefix.trans _ (List.take_prefix 65536 datagram.data)
    rw [htake]
    exact (List.prefix_cons_inj _).mpr hpre
  exact hnot ⟨pingId, serverId, sentAt, playerCount, h.answers_iff.mpr ⟨hget, hdata⟩⟩

/-- What a `PingResponse` does, as long as `pingTimes` holds the pings without an answer. -/
theorem Tracked.attributed (h : s.Tracked)
    (hhead : datagram.data.head? = some (ptToNumber .pingResponse)) :
    Attributed env s datagram := by
  by_cases hgood : ∃ pingId serverId sentAt playerCount,
      s.Answers datagram pingId serverId sentAt playerCount
  · obtain ⟨_, _, _, _, hanswers⟩ := id hgood
    have hrecv : GameSocket.recvPacket env (some datagram) s.world = _ :=
      recvPacket_of_answers h hanswers
    refine ⟨iff_of_true ⟨_, congrArg Prod.fst hrecv⟩ hgood, ?_, ?_⟩
    · intro pingId serverId sentAt playerCount hanswers
      exact ⟨answered_of_answers h hanswers, (recvRound_of_answers h hanswers).2⟩
    · intro e he
      rw [hrecv] at he
      cases he
  · obtain ⟨e, w', hrecv, hkept⟩ := exists_rejected env h hhead hgood
    refine ⟨iff_of_false ?_ hgood, ?_, ?_⟩
    · rintro ⟨pkt, hpkt⟩
      rw [hrecv] at hpkt
      cases hpkt
    · intro pingId serverId sentAt playerCount hanswers
      exact absurd ⟨_, _, _, _, hanswers⟩ hgood
    · intro e' he'
      have hround : NetworkHandler.recvRound env (some datagram) s.world = (.ok (), w') := by
        rw [NetworkHandler.recvRound, Call.tryCatch_apply, Call.bind_of_error hrecv]
        rfl
      rw [Event.after, hround]
      exact hkept

/-! ### Runs -/

/-- What is redeemed is what `pingTimes` forgets. -/
theorem Tracked.receive (h : s.Tracked) (incoming : Option Datagram) :
    (s.step env (.receive incoming)).Tracked := by
  cases incoming with
  | none => exact h
  | some datagram =>
    by_cases hhead : datagram.data.head? = some (ptToNumber .pingResponse)
    · by_cases hgood : ∃ pingId serverId sentAt playerCount,
        s.Answers datagram pingId serverId sentAt playerCount
      · obtain ⟨pingId, serverId, sentAt, playerCount, hanswers⟩ := hgood
        have hanswered : answered env s.world datagram = some pingId :=
          answered_of_answers h hanswers
        have hpings : (NetworkHandler.recvRound env (some datagram)
            s.world).2.gameSocket.pingTimes = _ := (recvRound_of_answers h hanswers).1
        have hget := (h.answers_iff.mp hanswers).1
        simp only [Tracked, step, Option.bind_some, hanswered, Event.after, hpings]
        exact h.redeem hget
      · obtain ⟨e, w', hrecv, -⟩ := exists_rejected env h hhead hgood
        have hanswered : answered env s.world datagram = none := by
          rw [answered, if_pos hhead, hrecv]
        have hpings := ((h.attributed hhead).rejected e (congrArg Prod.fst hrecv)).1
        simp only [Tracked, step, Option.bind_some, hanswered, hpings]
        exact h
    · have hanswered : answered env s.world datagram = none := if_neg hhead
      have hpings : (NetworkHandler.recvRound env (some datagram)
          s.world).2.gameSocket.pingTimes = _ := hasPings_recvRound hhead s.world
      simp only [Tracked, step, Option.bind_some, hanswered, Event.after, hpings]
      exact h

/-- The step lemma of the invariant: `pingTimes` holds the pings without an answer as long as the
ids are new. -/
theorem Tracked.step (h : s.Tracked) {st : PingStep}
    (hdrawn : (s.step env st).ledger.keys.Nodup) : (s.step env st).Tracked := by
  cases st with
  | sendPingTo serverId serverIp port =>
    have hkeys : (s.ledger.keys ++ [env.draw s.world.ticks]).Nodup := by
      rwa [PingRun.step, Ledger.keys_issue] at hdrawn
    rw [← List.concat_eq_append, List.nodup_concat] at hkeys
    have hpings : (GameSocket.sendPingTo env serverId serverIp port
        s.world).2.gameSocket.pingTimes = _ := pingTimes_sendPingTo s.world serverId serverIp port
    simp only [Tracked, PingRun.step, Event.after, Message.send, hpings, Ledger.map_issue]
    exact h.issue (by rw [Ledger.keys_map]; exact hkeys.1) _
  | receive incoming => exact h.receive incoming
  | other event hevent =>
    simp only [Tracked, PingRun.step, hasPings_after hevent]
    exact h

/-- The ids that were drawn stay. -/
theorem keys_stay (s : PingRun) (st : PingStep) :
    s.ledger.keys <+: (s.step env st).ledger.keys := by
  cases st with
  | sendPingTo serverId serverIp port =>
    rw [step, Ledger.keys_issue]
    exact List.prefix_append _ _
  | receive incoming =>
    rw [step]
    split <;> exact List.prefix_rfl
  | other event hevent => exact List.prefix_rfl

theorem Tracked.sound (h : s.Tracked) (st : PingStep) : Sound env s st := by
  cases st with
  | sendPingTo serverId serverIp port =>
    obtain ⟨dest, rest, htrace, hrest⟩ := trace_sendPingTo s.world serverId serverIp port
    exact ⟨dest, _, rest, htrace, hrest, List.mem_append_right _ (List.mem_singleton.mpr rfl)⟩
  | receive incoming => exact fun datagram _ hhead => h.attributed hhead
  | other event hevent => trivial

/-- **Ping answers**: in a run whose ids are distinct, a `PingResponse` counts for the server whose
ping it answers, and otherwise changes nothing of the pings; and no id is answered twice. -/
theorem pings_attributed (env : Env) (accountId secretKey : Int32)
    (accountData : PlayerAccountData) (gameServers : List GameServer) (steps : List PingStep)
    (hdrawn : (steps.foldl (step env)
      (.new accountId secretKey accountData gameServers)).ledger.keys.Nodup) :
    Along (step env) (Sound env) (.new accountId secretKey accountData gameServers) steps ∧
      (steps.foldl (step env)
        (.new accountId secretKey accountData gameServers)).ledger.redeemed.Nodup := by
  have hstart : Tracked (.new accountId secretKey accountData gameServers) := tracks_empty
  have hback : ∀ s st, (step env s st).ledger.keys.Nodup → s.ledger.keys.Nodup :=
    fun s st hkeys => hkeys.sublist (keys_stay s st).sublist
  have hkeeps : ∀ s st, Tracked s → (step env s st).ledger.keys.Nodup → Tracked (step env s st) :=
    fun s st h hkeys => h.step hkeys
  obtain ⟨hsound, hend⟩ := along_of_final (R := fun s => s.ledger.keys.Nodup) hback hkeeps
    (fun s st h _ => h.sound st) hstart hdrawn
  exact ⟨hsound, hend.once⟩

/-- A ping to the server `a` and one to the server `b`, and the answers to both of them: that of `b`
cut short, whole and again, and then that of `a`. -/
def twoPings : List PingStep :=
  [.sendPingTo [97] loopback 5, .sendPingTo [98] loopback 6,
    .receive (some ⟨⟨afInet, 6, 0x0100007F⟩, [203, 0, 0, 0, 2, 0, 0]⟩),
    .receive (some ⟨⟨afInet, 6, 0x0100007F⟩, [203, 0, 0, 0, 2, 0, 0, 0, 7]⟩),
    .receive (some ⟨⟨afInet, 6, 0x0100007F⟩, [203, 0, 0, 0, 2, 0, 0, 0, 7]⟩),
    .receive (some ⟨⟨afInet, 5, 0x0100007F⟩, [203, 0, 0, 0, 0, 0, 0, 0, 3]⟩)]

def atStart : PingRun := .new 7 42 loopbackWorld.accountData []

/-- Each answer counts once, and for its own server. -/
theorem pings_attributed_twoPings :
    Along (step loopbackEnv) (Sound loopbackEnv) atStart twoPings ∧
      (twoPings.foldl (step loopbackEnv) atStart).ledger.redeemed = [2, 0] ∧
      ((twoPings.foldl (step loopbackEnv) atStart).world.gameServersPings.get [97]).map Prod.snd =
        some 3 ∧
      ((twoPings.foldl (step loopbackEnv) atStart).world.gameServersPings.get [98]).map Prod.snd =
        some 7 := by
  have hkeys : (twoPings.foldl (step loopbackEnv) atStart).ledger.keys = [0, 2] := rfl
  have hdrawn : (twoPings.foldl (step loopbackEnv) atStart).ledger.keys.Nodup := by
    rw [hkeys]
    decide
  exact ⟨(pings_attributed _ _ _ _ _ _ hdrawn).1, rfl, rfl, rfl⟩

end PingRun

end Globed.Client
