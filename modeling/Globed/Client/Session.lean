import Globed.Base.Sessions
import Globed.Client.Destination
import Globed.Client.Reception

/-!
# The session of the client

What connecting, disconnecting, a timeout of the heartbeats and a datagram that some server sent
make of `connected`, `established` and `g_gameServerId`. `tRecv` sets `established` on every
`CheckedIn`, so that it agrees with the connection throughout a run exactly if every `CheckedIn`
arrives before the connection is over in which the client sent the `CheckIn` that it answers
(`session_agrees_iff`).
-/

namespace Globed.Client

open Bytes Calls Sessions

/-! ## What is seen of a session -/

/-- Where a `CheckIn` was sent, if that was seen. -/
def Observation.checkIn : Observation → Option SockAddr
  | .datagram _ dest data sent =>
    if sent = true ∧ data.head? = some (ptToNumber .checkIn) then some dest else none
  | .connected _ _ | .disconnected => none

def checkInsOf (trace : List Observation) : List SockAddr := trace.filterMap Observation.checkIn

structure Status where
  connected : Bool
  established : Bool
  gameServerId : CString
  gameServers : List GameServer
  /-- Where the client connected to, and did not disconnect since. -/
  server : Option (CString × UInt16)
  checkIns : List SockAddr

def World.status (w : World) : Status where
  connected := w.gameSocket.connected
  established := w.gameSocket.established
  gameServerId := w.gameServerId
  gameServers := w.gameServers
  server := gameServer w.trace
  checkIns := checkInsOf w.trace

/-- After a disconnect. -/
def Status.left (v : Status) : Status :=
  { v with connected := false, established := false, gameServerId := [], server := none }

/-- The address that `connectToServer` connects to. -/
def GameServer.sockAddr (env : Env) (server : GameServer) : Option SockAddr :=
  match splitAddress server.address with
  | .ok (address, port) => env.sockAddr address (if port = 0 then 41001 else port)
  | .error _ => none

/-- The address of the server that `g_gameServerId` names. -/
def Status.named (env : Env) (v : Status) : Option SockAddr :=
  (v.gameServers.find? fun server => server.id == v.gameServerId).bind (GameServer.sockAddr env)

/-- The address of the server that the client is connected to. -/
def Status.current (env : Env) (v : Status) : Option SockAddr :=
  if v.connected = true then v.named env else none

/-- The world is seen as `v`. -/
def Seen (v : Status) (w : World) : Prop := w.status = v

/-- The world is seen as `v`, or as after a disconnect. -/
def SeenOrLeft (v : Status) (w : World) : Prop := w.status = v ∨ w.status = v.left

section Seen

variable {env : Env} {v : Status} {w : World}

/-! ### Calls that leave it -/

theorem seen_modify {f : World → World} (h : ∀ w, (f w).status = w.status := by intro _; rfl) :
    Keeps (Seen v) (modify f : Net Unit) :=
  fun w hw => (h w).trans hw

theorem seen_readNext {α : Type} (readings : Nat → α) : Keeps (Seen v) (readNext readings) :=
  fun _ hw => hw

theorem checkInsOf_append (trace trace' : List Observation) :
    checkInsOf (trace ++ trace') = checkInsOf trace ++ checkInsOf trace' :=
  List.filterMap_append

/-- At most one `CheckIn` is sent, and nothing else changes. -/
theorem status_sending (origin : Origin) (data : List UInt8) :
    ∃ asked : List SockAddr, (∀ dest ∈ asked, dest = w.gameSocket.destAddr ∧
        data.head? = some (ptToNumber .checkIn)) ∧
      (w.sending env origin data).status =
        { w.status with checkIns := w.status.checkIns ++ asked } := by
  refine ⟨checkInsOf [.datagram origin w.gameSocket.destAddr data (env.sent w.sends)], ?_, ?_⟩
  · intro dest hdest
    obtain ⟨o, ho, hsome⟩ := List.mem_filterMap.mp hdest
    obtain rfl := List.mem_singleton.mp ho
    rw [Observation.checkIn] at hsome
    split at hsome
    · next hsent => exact ⟨(Option.some.inj hsome).symm, hsent.2⟩
    · cases hsome
  · simp [World.status, World.sending, checkInsOf_append]

theorem seen_sendBuf {buf : ByteBuffer} (h : buf.data.head? ≠ some (ptToNumber .checkIn)) :
    Keeps (Seen v) (GameSocket.sendBuf env buf) := by
  intro w hw
  rw [GameSocket.sendBuf, UdpSocket.sendAll_apply]
  obtain ⟨asked, hasked, hstatus⟩ := @status_sending env w .sendBuf buf.data
  have hnil : asked = [] := by
    apply List.eq_nil_iff_forall_not_mem.mpr
    intro dest hdest
    exact h (hasked dest hdest).2
  rw [hnil, List.append_nil] at hstatus
  exact hstatus.trans hw

theorem head_packet (socket : GameSocket) (packetType : PacketType) :
    (GameSocket.packet env socket packetType).data.head? = some (ptToNumber packetType) := by
  simp [GameSocket.packet, GameSocket.writeAuth, GameSocket.writeType, ByteBuffer.new]

theorem seen_sendPacket (socket : GameSocket) {packetType : PacketType}
    (h : packetType ≠ .checkIn) :
    Keeps (Seen v) (GameSocket.sendBuf env (GameSocket.packet env socket packetType)) := by
  apply seen_sendBuf
  intro hhead
  exact h (ptToNumber_inj (Option.some.inj ((head_packet socket packetType).symm.trans hhead)))

theorem seen_sendHeartbeat : Keeps (Seen v) (GameSocket.sendHeartbeat env) :=
  keeps_sendHeartbeat seen_readNext (fun _ => seen_modify) fun socket =>
    seen_sendPacket socket (by decide)

/-! ### Disconnecting and connecting -/

/-- Only `g_gameServerId` is left as it was. -/
theorem left_socketDisconnect :
    Returns (Seen v) GameSocket.disconnect fun _ w =>
      { w.status with gameServerId := [] } = v.left := by
  intro w hw
  refine ⟨⟨⟩, rfl, ?_⟩
  have htrace : gameServer (w.trace ++ [.disconnected]) = none := gameServer_disconnected _
  have hcheckIns : checkInsOf (w.trace ++ [.disconnected]) = checkInsOf w.trace := by
    rw [checkInsOf_append]
    exact List.append_nil _
  change Status.mk false false [] w.gameServers (gameServer (w.trace ++ [.disconnected]))
    (checkInsOf (w.trace ++ [.disconnected])) = _
  rw [htrace, hcheckIns, ← hw]
  rfl

theorem left_disconnect (quiet save : Bool) :
    Returns (Seen v) (NetworkHandler.disconnect env quiet save) fun _ => Seen v.left := by
  apply returns_disconnect fun socket => seen_sendPacket socket (by decide)
  · exact fun _ h => h
  · exact fun _ _ h => h
  · exact left_socketDisconnect.bind fun _ => Returns.modify fun _ h => h

theorem seenOrLeft_disconnect (quiet save : Bool) :
    Triple (Seen v) (NetworkHandler.disconnect env quiet save) fun _ => SeenOrLeft v :=
  (left_disconnect quiet save).conseq (fun _ h => h) fun _ _ ⟨_, _, h⟩ => .inr h

/-- The world is seen as `v`, and the socket turned to `dest`. -/
def SeenAt (dest : SockAddr) (v : Status) (w : World) : Prop :=
  w.gameSocket.destAddr = dest ∧ Seen v w

theorem seenAt_observe (dest : SockAddr) (address : CString) (port : UInt16) :
    Returns (SeenAt dest v) (observe (.connected address port)) fun _ =>
      SeenAt dest { v with server := some (address, port) } := by
  apply Returns.modify
  rintro w ⟨hw, rfl⟩
  refine ⟨hw, ?_⟩
  have htrace := gameServer_connected w.trace address port
  have hcheckIns : checkInsOf (w.trace ++ [Observation.connected address port]) =
      checkInsOf w.trace := by
    rw [checkInsOf_append]
    exact List.append_nil _
  change { w.status with
    server := gameServer (w.trace ++ [Observation.connected address port])
    checkIns := checkInsOf (w.trace ++ [Observation.connected address port]) } = _
  rw [htrace, hcheckIns]
  rfl

theorem seenAt_gameServerId (dest : SockAddr) (id : CString) :
    Returns (SeenAt dest v) (modify fun w => { w with gameServerId := id } : Net Unit) fun _ =>
      SeenAt dest { v with gameServerId := id } := by
  apply Returns.modify
  rintro w ⟨hw, rfl⟩
  exact ⟨hw, rfl⟩

/-- At most the address that the socket is turned to is asked. -/
theorem seenAt_sendCheckIn (dest : SockAddr) :
    Triple (SeenAt dest v) (GameSocket.sendCheckIn env) fun _ w =>
      ∃ asked : List SockAddr, (∀ d ∈ asked, d = dest) ∧
        Seen { v with checkIns := v.checkIns ++ asked } w := by
  rintro w ⟨hw, rfl⟩
  have happly : GameSocket.sendCheckIn env w = GameSocket.sendBuf env _ w := rfl
  rw [happly, GameSocket.sendBuf, UdpSocket.sendAll_apply]
  obtain ⟨asked, hasked, hsent⟩ := @status_sending env w .sendBuf _
  exact ⟨asked, fun d hd => (hasked d hd).1.trans hw, hsent⟩

/-- After a successful `connectTo`: at most the server was asked. -/
def Status.Entered (env : Env) (v : Status) (server : GameServer) (w : World) : Prop :=
  ∃ (dest : SockAddr) (address : CString × UInt16) (asked : List SockAddr),
    server.sockAddr env = some dest ∧ (∀ d ∈ asked, d = dest) ∧
      w.status = { v with
        connected := true
        established := false
        gameServerId := server.id
        server := some address
        checkIns := v.checkIns ++ asked }

theorem entered_connected {server : GameServer} {dest : SockAddr} (address : CString)
    (port : UInt16) (hdest : server.sockAddr env = some dest) :
    Triple (SeenAt dest { v.left with connected := true })
      (do
        observe (.connected address port)
        modify fun w => { w with gameServerId := server.id }
        GameSocket.sendCheckIn env
        modify fun w => { w with lastServerId := server.id }
        return true) fun _ => v.Entered env server := by
  refine (seenAt_observe dest address port).triple fun _ => ?_
  refine (seenAt_gameServerId dest server.id).triple fun _ => ?_
  have hasked : Keeps (v.Entered env server)
      (do
        modify fun w => { w with lastServerId := server.id }
        return true : Net Bool) := Keeps.bind (Keeps.modify fun _ h => h) fun _ => Keeps.pure _
  refine (seenAt_sendCheckIn dest).bind (fun _ => hasked.conseq ?_ fun _ _ h => h) ?_
  · rintro w ⟨asked, hasked, hseen⟩
    exact ⟨dest, (address, port), asked, hdest, hasked, hseen⟩
  · rintro _ w ⟨asked, hasked, hseen⟩
    exact ⟨dest, (address, port), asked, hdest, hasked, hseen⟩

theorem entered_connectTo (server : GameServer) :
    Triple (Seen v.left) (NetworkHandler.connectTo env server) fun _ w =>
      w.status = v.left ∨ v.Entered env server w := by
  intro w hw
  cases haddress : splitAddress server.address with
  | error e =>
    rw [NetworkHandler.connectTo, haddress]
    exact .inl hw
  | ok p =>
    obtain ⟨address, port⟩ := p
    have hlift : (liftM (Except.ok (address, port) : Except Failure _) : Net _) w =
      (.ok (address, port), w) := rfl
    have hsockAddr : server.sockAddr env =
        env.sockAddr address (if port = 0 then 41001 else port) := by
      rw [GameServer.sockAddr, haddress]
    rw [NetworkHandler.connectTo, haddress, Call.bind_of_ok hlift]
    dsimp only
    generalize (if port = 0 then 41001 else port) = port at hsockAddr ⊢
    rw [Call.bind_of_ok (UdpSocket.connect_apply address port)]
    cases haddr : env.inetPton (cStr address) with
    | none =>
      -- an address that is not valid leaves the client disconnected
      have hstatus : (UdpSocket.aimed env w address port).status = w.status := by
        simp [World.status, UdpSocket.aimed, haddr]
      exact .inl (hstatus.trans hw)
    | some addr =>
      have hdest : server.sockAddr env = some ⟨afInet, port, addr⟩ := by
        rw [hsockAddr, Env.sockAddr, haddr]
        rfl
      have haim : (UdpSocket.aimed env w address port).gameSocket.destAddr =
          ⟨afInet, port, addr⟩ := by
        simp [UdpSocket.aimed, UdpSocket.aim, haddr]
      have hstatus : (UdpSocket.aimed env w address port).status =
          { w.status with connected := true } := by
        simp [World.status, UdpSocket.aimed, haddr]
      rw [show w.status = v.left from hw] at hstatus
      exact .inr (entered_connected address port hdest _ ⟨haim, hstatus⟩)

theorem entered_connectToServer (id : CString) :
    Triple (Seen v) (NetworkHandler.connectToServer env id) fun _ w =>
      w.status = v.left ∨ ∃ server,
        v.gameServers.find? (fun server => server.id == id) = some server ∧
          v.Entered env server w := by
  refine (left_disconnect false false).triple fun _ => ?_
  intro w hw
  have hservers : w.gameServers = v.gameServers := congrArg Status.gameServers hw
  have hgets : (Call.gets fun w : World => w.gameServers : Net _) w = (.ok v.gameServers, w) := by
    rw [Call.gets_apply, hservers]
  rw [Call.bind_of_ok hgets]
  cases hfind : v.gameServers.find? fun server => server.id == id with
  | none => exact .inl hw
  | some server =>
    rcases entered_connectTo server w hw with hleft | hentered
    · exact .inl hleft
    · exact .inr ⟨server, rfl, hentered⟩

/-! ### Receiving -/

theorem returns_checkedIn (tps : UInt16) :
    Returns (Seen v) (NetworkHandler.handlePacket env (.checkedIn tps)) fun _ =>
      Seen { v with established := true } := by
  have hset : Returns (Seen v) (modifySocket fun socket => { socket with established := true })
      fun _ => Seen { v with established := true } := by
    apply Returns.modify
    rintro w rfl
    rfl
  refine hset.bind fun _ => ?_
  refine Returns.bind (Returns.modify fun w h => ?_) fun _ => Returns.modify fun w h => h
  split <;> exact h

/-- Every `CheckedIn` sets `established`. -/
theorem seen_recvRound_checkedIn (source : SockAddr) (tps : UInt16) :
    Triple (Seen v) (NetworkHandler.recvRound env
        (some ⟨source, ptToNumber .checkedIn :: bigEndian 2 tps.toNat⟩)) fun _ =>
      Seen { v with established := true } := by
  intro w hw
  have hparse : Parses env.target (GameSocket.parsePacket env) (w.heardFrom source) _ _ _ :=
    GameSocket.parses_packet (GameSocket.parses_checkedIn tps)
  have hrecv := GameSocket.recvPacket_of_parsePacket (List.cons_ne_nil _ _) (by simp)
    (hparse.whole (by simp))
  have hhandle : Returns (Seen v) (NetworkHandler.handlePacket env (.checkedIn tps)) _ :=
    returns_checkedIn tps
  obtain ⟨x, hok, hseen⟩ := hhandle (w.heardFrom source) hw
  rw [NetworkHandler.recvRound, Call.tryCatch_apply, Call.bind_of_ok hrecv]
  generalize NetworkHandler.handlePacket env (.checkedIn tps) (w.heardFrom source) = r at *
  obtain ⟨_, w'⟩ := r
  cases hok
  exact hseen

/-- What is parsed, if it is, satisfies `P`. -/
def ParseGives {α : Type} (P : α → Prop) (d : Parse α) : Prop :=
  ∀ buf, Triple (fun _ => True) (d buf) fun r _ => ∀ x buf', r = .ok (x, buf') → P x

theorem ParseGives.bind {α β : Type} {P : β → Prop} {d : Parse α} {f : α → Parse β}
    (hf : ∀ x, ParseGives P (f x)) : ParseGives P (d >>= f) := by
  intro buf
  refine Triple.bind (Q := fun _ _ => True) (fun _ _ => trivial) (fun p => hf p.1 p.2) ?_
  rintro e _ - x buf' h
  cases h

theorem ParseGives.pure {α : Type} {P : α → Prop} {x : α} (h : P x) :
    ParseGives P (Pure.pure x : Parse α) := by
  rintro buf w - y buf' heq
  cases heq
  exact h

theorem ParseGives.throw {α : Type} {P : α → Prop} (e : Failure) :
    ParseGives P (MonadExcept.throw e : Parse α) := by
  rintro buf w - y buf' heq
  cases heq

/-- What `tRecv` does not take for a `CheckedIn`. -/
def NotCheckedIn (pkt : RecvPacket) : Prop := ∀ tps, pkt ≠ .checkedIn tps

theorem gives_parseBody {packetType : PacketType} (h : packetType ≠ .checkedIn) :
    ParseGives NotCheckedIn (GameSocket.parseBody env packetType) := by
  cases packetType
  case checkedIn => exact absurd rfl h
  case keepaliveResponse =>
    exact .bind fun _ => .bind fun _ => .bind fun _ => .pure fun _ heq => (nomatch heq)
  case serverDisconnect => exact .bind fun _ => .pure fun _ heq => (nomatch heq)
  case levelData =>
    exact .bind fun _ => .bind fun _ => .bind fun _ => .pure fun _ heq => (nomatch heq)
  case pingResponse =>
    refine .bind fun _ => .bind fun _ => .bind fun _ => ?_
    split
    · exact .throw _
    · exact .bind fun _ => .bind fun _ => .pure fun _ heq => (nomatch heq)
  case playerAccountDataResponse =>
    exact .bind fun _ => .bind fun _ => .pure fun _ heq => (nomatch heq)
  case levelListResponse => exact .bind fun _ => .bind fun _ => .pure fun _ heq => (nomatch heq)
  case textMessageSent => exact .bind fun _ => .bind fun _ => .pure fun _ heq => (nomatch heq)
  case serverBroadcast =>
    refine .bind fun _ => .bind fun _ => .bind fun _ => ?_
    exact .bind fun _ => .pure fun _ heq => (nomatch heq)
  all_goals exact .throw _

/-- The first byte tells what is read. -/
theorem gives_recvPacket {datagram : Datagram}
    (h : datagram.data.head? ≠ some (ptToNumber .checkedIn)) :
    Triple (Seen v) (GameSocket.recvPacket env (some datagram)) fun r w =>
      Seen v w ∧ ∀ pkt, r = .ok pkt → NotCheckedIn pkt := by
  intro w hw
  rcases GameSocket.recvPacket_head env datagram w with ⟨-, hrecv⟩ | ⟨b, bs, hhead, hrecv⟩
  · rw [hrecv]
    exact ⟨hw, fun _ heq => (nomatch heq)⟩
  · rw [hrecv]
    rcases numberToPt_cases b with ⟨packetType, hpt, rfl⟩ | ⟨e, hpt, -⟩
    · rw [hpt]
      have hnot : packetType ≠ .checkedIn := by
        rintro rfl
        exact h hhead
      have hkeeps : ParseKeeps (Seen v) (GameSocket.parseBody env packetType) :=
        ParseKeeps.parseBody seen_readNext fun _ _ => seen_modify
      have hbody : ∀ buf, Triple (Seen v) (GameSocket.parseBody env packetType buf) fun r w =>
          Seen v w ∧ ∀ x buf', r = .ok (x, buf') → NotCheckedIn x :=
        fun buf w hw => ⟨hkeeps buf w hw, gives_parseBody hnot buf w trivial⟩
      have hgives : ∀ buf, Triple (Seen v)
          (GameSocket.parseBody env packetType buf >>= fun p => pure p.1 : Net RecvPacket)
          fun r w => Seen v w ∧ ∀ pkt, r = .ok pkt → NotCheckedIn pkt := by
        intro buf
        refine (hbody buf).bind (fun p => ?_) ?_
        · rintro w' ⟨hw', hp⟩
          refine ⟨hw', fun pkt heq => ?_⟩
          cases heq
          exact hp p.1 p.2 rfl
        · rintro e w' ⟨hw', -⟩
          exact ⟨hw', fun _ heq => (nomatch heq)⟩
      exact hgives _ _ hw
    · rw [hpt]
      exact ⟨hw, fun _ heq => (nomatch heq)⟩

/-- Any other datagram leaves the session, or ends it. -/
theorem seenOrLeft_recvRound {datagram : Datagram}
    (h : datagram.data.head? ≠ some (ptToNumber .checkedIn)) :
    Triple (Seen v) (NetworkHandler.recvRound env (some datagram)) fun _ => SeenOrLeft v := by
  refine Triple.tryCatch (Q := fun _ => SeenOrLeft v) ?_ (fun _ => Keeps.pure _) fun _ _ h => h
  refine Triple.bind (gives_recvPacket h) (fun pkt => ?_) fun _ _ h => .inl h.1
  rintro w ⟨hw, hpkt⟩
  have hnot := hpkt pkt rfl
  cases pkt with
  | checkedIn tps => exact absurd rfl (hnot tps)
  | keepaliveResponse playerCount ping => exact .inl hw
  | serverDisconnect message =>
    exact seenOrLeft_disconnect true true w hw
  | pingResponse serverId playerCount ping => exact .inl hw
  | levelData players => exact .inl hw
  | accountDataResponse playerId data => exact .inl hw
  | levelListResponse levels => exact .inl hw
  | textMessage sender message => exact .inl hw
  | serverMessage message color => exact .inl hw

/-! ### Heartbeats -/

theorem seenOrLeft_keepaliveRound :
    Triple (Seen v) (NetworkHandler.keepaliveRound env) fun _ => SeenOrLeft v :=
  triple_keepaliveRound seen_sendHeartbeat seen_readNext (seenOrLeft_disconnect true true)
    fun _ => .inl

end Seen

/-! ## Runs -/

/-- A `CheckIn`, with the number of the `connectToServer` that sent it and the server that got it.
-/
abbrev CheckIn := Request SockAddr

/-- A datagram that a server sends to the client. -/
inductive Reply
  | checkedIn (checkIn : CheckIn) (tps : UInt16)
  | other (datagram : Datagram) (h : datagram.data.head? ≠ some (ptToNumber .checkedIn))

namespace Reply

def datagram : Reply → Datagram
  | checkedIn checkIn tps => ⟨checkIn.peer, ptToNumber .checkedIn :: bigEndian 2 tps.toNat⟩
  | other datagram _ => datagram

/-- The `CheckIn` that it answers. -/
def answers : Reply → Option CheckIn
  | checkedIn checkIn _ => some checkIn
  | other _ _ => none

end Reply

/-- The client and the network between it and the servers. -/
structure Session where
  world : World
  /-- How often `connectToServer` was called. -/
  connections : Nat
  checkIns : List CheckIn
  replies : List Reply
  /-- The `CheckIn` that the `CheckedIn` answers which set `established` last. -/
  setBy : Option CheckIn

inductive SessionStep
  | connectToServer (id : CString)
  | disconnect (quiet save : Bool)
  | keepalive
  /-- A server sends something. -/
  | send (reply : Reply)
  /-- It arrives, for the first time or again. -/
  | deliver (reply : Reply)

namespace Session

def new (accountId secretKey : Int32) (accountData : PlayerAccountData)
    (gameServers : List GameServer) : Session where
  world := .new accountId secretKey accountData gameServers
  connections := 0
  checkIns := []
  replies := []
  setBy := none

/-- Who got a `CheckIn` between two worlds. -/
def asked (w w' : World) : List SockAddr := (checkInsOf w'.trace).drop (checkInsOf w.trace).length

def step (env : Env) (s : Session) : SessionStep → Session
  | .connectToServer id =>
    let world := (Event.connectToServer id).after env s.world
    { s with
      world
      connections := s.connections + 1
      checkIns := s.checkIns ++ (asked s.world world).map (Request.mk (s.connections + 1)) }
  | .disconnect quiet save => { s with world := (Event.disconnect quiet save).after env s.world }
  | .keepalive => { s with world := Event.keepalive.after env s.world }
  | .send reply => { s with replies := s.replies ++ [reply] }
  | .deliver reply =>
    { s with
      world := (Event.receive (some reply.datagram)).after env s.world
      setBy := reply.answers.or s.setBy }

/-- A `CheckedIn` answers a `CheckIn`, and what arrives was sent. -/
def Allowed (s : Session) : SessionStep → Prop
  | .send reply => ∀ checkIn, reply.answers = some checkIn → checkIn ∈ s.checkIns
  | .deliver reply => reply ∈ s.replies
  | .connectToServer _ | .disconnect _ _ | .keepalive => True

/-- `established` means that the client is connected, and that the server which `g_gameServerId`
names sent the `CheckedIn`, in answer to the `CheckIn` of the last `connectToServer`. -/
def Agrees (env : Env) (s : Session) : Prop :=
  s.world.gameSocket.established = true → s.world.gameSocket.connected = true ∧
    ∃ checkIn, s.setBy = some checkIn ∧ s.world.status.named env = some checkIn.peer ∧
      checkIn.session = s.connections

/-- A `CheckedIn` arrives before another `connectToServer` and before any disconnect. -/
def Timely (s : Session) : SessionStep → Prop
  | .deliver (.checkedIn checkIn _) =>
    gameServer s.world.trace ≠ none ∧ checkIn.session = s.connections
  | .deliver (.other _ _) | .send _ | .connectToServer _ | .disconnect _ _ | .keepalive => True

/-! ### The abstract session -/

/-- The session seen from outside. -/
def view (env : Env) (s : Session) : State SockAddr where
  opened := s.connections
  current := s.world.status.current env
  flag := s.world.status.established
  setBy := s.setBy
  requests := s.checkIns
  answered := s.replies.filterMap Reply.answers

theorem agrees_view (env : Env) (s : Session) : s.Agrees env ↔ Sessions.Agrees (s.view env) := by
  have hcurrent : ∀ peer, (s.view env).current = some peer ↔
      s.world.gameSocket.connected = true ∧ s.world.status.named env = some peer :=
    fun _ => Option.ite_none_right_eq_some
  constructor
  · intro h hflag
    obtain ⟨hconnected, checkIn, hset, hnamed, hsession⟩ := h hflag
    exact ⟨checkIn, hset, (hcurrent _).mpr ⟨hconnected, hnamed⟩, hsession⟩
  · intro h hestablished
    obtain ⟨checkIn, hset, hpeer, hsession⟩ := h hestablished
    obtain ⟨hconnected, hnamed⟩ := (hcurrent _).mp hpeer
    exact ⟨hconnected, checkIn, hset, hnamed, hsession⟩

/-- `connected` tells whether the client is connected, and then `g_gameServerId` names a server. -/
structure Tracked (env : Env) (v : Status) : Prop where
  server : v.connected = true ↔ v.server ≠ none
  named : v.connected = true → v.named env ≠ none

variable {env : Env} {v : Status} {w : World}

theorem tracked_left : Tracked env v.left where
  server := ⟨fun h => (nomatch h), fun h => absurd rfl h⟩
  named h := (nomatch h)

theorem Tracked.current_ne_none (h : Tracked env v) : v.current env ≠ none ↔ v.server ≠ none := by
  rw [← h.server, Status.current]
  split
  · next hconnected => exact ⟨fun _ => hconnected, fun _ => h.named hconnected⟩
  · next hnot => exact ⟨fun hne => absurd rfl hne, fun hconnected => absurd hconnected hnot⟩

theorem Tracked.of_seenOrLeft (h : Tracked env v) (hw : SeenOrLeft v w) : Tracked env w.status := by
  rcases hw with hw | hw
  · rwa [hw]
  · rw [hw]
    exact tracked_left

/-- A step of the abstract session that a step of the client amounts to. -/
structure Refined (env : Env) (s : Session) (st : SessionStep) (action : Action SockAddr) :
    Prop where
  allowed : Sessions.Allowed (s.view env) action
  timely : s.Timely st ↔ Sessions.Timely (s.view env) action
  view : (s.step env st).view env = Sessions.step (s.view env) action
  tracked : Tracked env (s.step env st).world.status

theorem refined_of_seenOrLeft {s : Session} {st : SessionStep}
    (htracked : Tracked env s.world.status) (hw : SeenOrLeft s.world.status w)
    (hstep : s.step env st = { s with world := w })
    (htimely : s.Timely st) : ∃ action, Refined env s st action := by
  have htracked' : Tracked env (s.step env st).world.status := by
    rw [hstep]
    exact htracked.of_seenOrLeft hw
  rcases hw with hw | hw
  · refine ⟨.idle, trivial, iff_of_true htimely trivial, ?_, htracked'⟩
    simp only [hstep, Session.view, Sessions.step, hw]
  · refine ⟨.leave, trivial, iff_of_true htimely trivial, ?_, htracked'⟩
    simp only [hstep, Session.view, Sessions.step, hw]
    rfl

/-- The server that was found by its id is found by it again. -/
theorem find_id {gameServers : List GameServer} {id : CString} {server : GameServer}
    (h : gameServers.find? (fun server => server.id == id) = some server) :
    gameServers.find? (fun server' => server'.id == server.id) = some server := by
  have hid : server.id = id := by simpa using List.find?_some h
  rwa [hid]

theorem refined_enter {s : Session} {id : CString} {peer : Option SockAddr} {ps : List SockAddr}
    (hstatus : ((Event.connectToServer id).after env s.world).status = v)
    (hflag : v.established = false) (hcheckIns : v.checkIns = s.world.status.checkIns ++ ps)
    (hcurrent : v.current env = peer) (hps : ∀ p ∈ ps, peer = some p) (htracked : Tracked env v) :
    Refined env s (.connectToServer id) (.enter peer ps) := by
  have hasked : asked s.world ((Event.connectToServer id).after env s.world) = ps := by
    have hlist : checkInsOf ((Event.connectToServer id).after env s.world).trace = _ :=
      (congrArg Status.checkIns hstatus).trans hcheckIns
    rw [asked, hlist]
    exact List.drop_left
  refine ⟨hps, .rfl, ?_, ?_⟩
  · simp only [view, step, Sessions.step, hasked, hstatus, hflag, hcurrent]
  · change Tracked env ((Event.connectToServer id).after env s.world).status
    rwa [hstatus]

theorem exists_refined_connectToServer (s : Session) (id : CString) :
    ∃ action, Refined env s (.connectToServer id) action := by
  have hconnect : Triple (Seen s.world.status) (NetworkHandler.connectToServer env id) _ :=
    entered_connectToServer id
  rcases hconnect s.world rfl with hleft | ⟨server, hfind, hentered⟩
  · refine ⟨.enter none [], refined_enter hleft rfl ?_ rfl ?_ tracked_left⟩
    · exact (List.append_nil _).symm
    · exact fun _ h => absurd h List.not_mem_nil
  · obtain ⟨dest, address, ps, hdest, hps, hstatus⟩ := hentered
    have hnamed : (s.world.status.gameServers.find? fun server' => server'.id == server.id).bind
        (GameServer.sockAddr env) = some dest := by
      rw [find_id hfind]
      exact hdest
    refine ⟨.enter (some dest) ps, refined_enter hstatus rfl rfl hnamed ?_ ?_⟩
    · intro p hp
      rw [hps p hp]
    · refine ⟨⟨fun _ h => (nomatch h), fun _ => rfl⟩, fun _ hnone => ?_⟩
      exact Option.some_ne_none dest (hnamed.symm.trans hnone)

theorem exists_refined {s : Session} {st : SessionStep} (htracked : Tracked env s.world.status)
    (hallowed : s.Allowed st) : ∃ action, Refined env s st action := by
  cases st with
  | connectToServer id => exact exists_refined_connectToServer s id
  | disconnect quiet save =>
    exact refined_of_seenOrLeft htracked (seenOrLeft_disconnect quiet save s.world rfl) rfl trivial
  | keepalive =>
    exact refined_of_seenOrLeft htracked (seenOrLeft_keepaliveRound s.world rfl) rfl trivial
  | send reply =>
    cases reply with
    | other datagram h =>
      refine ⟨.idle, trivial, .rfl, ?_, htracked⟩
      simp [view, step, Sessions.step, Reply.answers]
    | checkedIn checkIn tps =>
      refine ⟨.answer checkIn, hallowed checkIn rfl, .rfl, ?_, htracked⟩
      simp [view, step, Sessions.step, Reply.answers]
  | deliver reply =>
    cases reply with
    | other datagram h =>
      exact refined_of_seenOrLeft htracked (seenOrLeft_recvRound h s.world rfl) rfl trivial
    | checkedIn checkIn tps =>
      have hseen : (s.step env (.deliver (.checkedIn checkIn tps))).world.status =
          { s.world.status with established := true } :=
        seen_recvRound_checkedIn checkIn.peer tps s.world rfl
      have hmem : checkIn ∈ (s.view env).answered :=
        List.mem_filterMap.mpr ⟨_, hallowed, rfl⟩
      refine ⟨.deliver checkIn, hmem, ?_, ?_, ?_⟩
      · exact and_congr_left' htracked.current_ne_none.symm
      · simp only [view, Sessions.step, hseen]
        rfl
      · rw [hseen]
        exact ⟨htracked.server, htracked.named⟩

/-- What holds in every state of a run, whenever replies arrive. -/
structure Consistent (env : Env) (s : Session) : Prop where
  tracked : Tracked env s.world.status
  sound : Sound (s.view env)

theorem consistent_new (env : Env) (accountId secretKey : Int32) (accountData : PlayerAccountData)
    (gameServers : List GameServer) :
    Consistent env (.new accountId secretKey accountData gameServers) where
  tracked := ⟨⟨fun h => (nomatch h), fun h => absurd rfl h⟩, fun h => (nomatch h)⟩
  sound := by
    constructor
    · exact fun _ h => absurd h List.not_mem_nil
    · exact fun _ h => absurd h List.not_mem_nil
    · exact fun _ h => absurd h List.not_mem_nil

theorem Consistent.step {s : Session} {st : SessionStep} (h : Consistent env s)
    (hallowed : s.Allowed st) : Consistent env (s.step env st) := by
  obtain ⟨action, hrefined⟩ := exists_refined h.tracked hallowed
  refine ⟨hrefined.tracked, ?_⟩
  rw [hrefined.view]
  exact h.sound.step hrefined.allowed

theorem Consistent.agrees_step_iff {s : Session} {st : SessionStep} (h : Consistent env s)
    (hagrees : s.Agrees env) (hallowed : s.Allowed st) :
    (s.step env st).Agrees env ↔ s.Timely st := by
  obtain ⟨action, hrefined⟩ := exists_refined h.tracked hallowed
  rw [agrees_view, hrefined.view, hrefined.timely]
  exact Sessions.agrees_step_iff h.sound ((agrees_view env s).mp hagrees) hrefined.allowed

/-- **In time**: the session agrees in every state of a run exactly if every `CheckedIn` of the run
arrives before the connection is over whose `CheckIn` it answers. -/
theorem session_agrees_iff (env : Env) (accountId secretKey : Int32)
    (accountData : PlayerAccountData) (gameServers : List GameServer) (steps : List SessionStep)
    (hallowed : Along (step env) Allowed (.new accountId secretKey accountData gameServers) steps) :
    Throughout (step env) (Agrees env) (.new accountId secretKey accountData gameServers) steps ↔
      Along (step env) Timely (.new accountId secretKey accountData gameServers) steps := by
  have hstart := consistent_new env accountId secretKey accountData gameServers
  refine throughout_iff_along ?_ ?_ hstart (fun hestablished => (nomatch hestablished)) hallowed
  · intro s st hs hst
    exact hs.step hst
  · intro s st hs hagrees hst
    exact hs.agrees_step_iff hagrees hst

/-! ### A late `CheckedIn` -/

/-- The account 7 with the key 42, and the server `s` at `a:5`. -/
def atStart : Session :=
  .new 7 42 ⟨1, 1, 1, 1, 1, 1, 1, 1, 1, 1, false, []⟩ [⟨[], [115], [], loopback ++ [58, 53]⟩]

/-- What the server answers to the first `CheckIn`. -/
def firstReply : Reply := .checkedIn ⟨1, ⟨afInet, 5, 0x0100007F⟩⟩ 30

theorem allowed_connect (later : List SessionStep)
    (hlater : Along (step loopbackEnv) Allowed
      ([.connectToServer [115], .send firstReply].foldl (step loopbackEnv) atStart) later) :
    Along (step loopbackEnv) Allowed atStart
      (.connectToServer [115] :: .send firstReply :: later) := by
  refine ⟨trivial, ?_, hlater⟩
  intro checkIn hcheckIn
  have hasked : (atStart.step loopbackEnv (.connectToServer [115])).checkIns =
      [⟨1, ⟨afInet, 5, 0x0100007F⟩⟩] := rfl
  rw [hasked, ← Option.some.inj hcheckIn]
  exact List.mem_cons_self

theorem session_agrees_iff_in_time :
    Throughout (step loopbackEnv) (Agrees loopbackEnv) atStart
      [.connectToServer [115], .send firstReply, .deliver firstReply] := by
  have hallowed := allowed_connect [.deliver firstReply] ⟨List.mem_cons_self, trivial⟩
  refine (session_agrees_iff _ _ _ _ _ _ hallowed).mpr ⟨trivial, trivial, ⟨?_, rfl⟩, trivial⟩
  exact fun hnone => (nomatch hnone)

/-- The `CheckedIn` arrives after the client has left: it is established, and not connected. -/
theorem established_after_leaving :
    ¬∀ env accountId secretKey accountData gameServers steps,
      Along (step env) Allowed (.new accountId secretKey accountData gameServers) steps →
        Throughout (step env) (Agrees env) (.new accountId secretKey accountData gameServers)
          steps := by
  intro h
  have hallowed := allowed_connect [.disconnect false true, .deliver firstReply]
    ⟨trivial, List.mem_cons_self, trivial⟩
  have hagrees := h _ _ _ _ _ _ hallowed _ (List.prefix_refl _)
  have hconnected := (hagrees rfl).1
  cases hconnected

end Session

end Globed.Client
