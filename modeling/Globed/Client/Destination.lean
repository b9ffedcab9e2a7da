import Globed.Client.Rules

/-!
# Where the client sends its packets

The address that packets are sent to is one field of the socket, and pings and received datagrams
change it as well as `connectToServer`. `Aimed` says that it is the address of the game server that
the client is connected to. Every call keeps it but two: a datagram from elsewhere replaces the
address, and a ping whose send throws does not put it back.
-/

namespace Globed.Client

open Calls

/-! ## Packets for the game server -/

/-- Between a connection and its end, all that goes through `sendBuf` goes to that server. -/
def Addressed (env : Env) (trace : List Observation) : Prop :=
  ∀ pre dest data sent post, trace = pre ++ .datagram .sendBuf dest data sent :: post →
    ∀ serverIp port, gameServer pre = some (serverIp, port) →
      env.sockAddr serverIp port = some dest

theorem addressed_nil (env : Env) : Addressed env [] := by
  intro pre dest data sent post h
  cases pre <;> cases h

/-- One more observation. -/
theorem Addressed.snoc {env : Env} {trace : List Observation} (h : Addressed env trace)
    {o : Observation}
    (ho : ∀ dest data sent, o = .datagram .sendBuf dest data sent →
      ∀ serverIp port, gameServer trace = some (serverIp, port) →
        env.sockAddr serverIp port = some dest) : Addressed env (trace ++ [o]) := by
  intro pre dest data sent post heq serverIp port hserver
  rcases List.append_eq_append_iff.mp heq with ⟨mid, rfl, hmid⟩ | ⟨mid, rfl, hmid⟩
  · cases mid with
    | nil =>
      rw [List.append_nil] at hserver
      exact ho dest data sent (List.cons.inj hmid).1 serverIp port hserver
    | cons o' mid => simp at hmid
  · cases mid with
    | nil =>
      rw [List.append_nil] at ho
      exact ho dest data sent (List.cons.inj hmid).1.symm serverIp port hserver
    | cons o' mid =>
      obtain ⟨rfl, -⟩ := List.cons.inj hmid
      exact h pre dest data sent mid rfl serverIp port hserver

/-- The socket sends to the game server that the client is connected to. -/
structure Aimed (env : Env) (w : World) : Prop where
  addressed : Addressed env w.trace
  aimed : ∀ serverIp port, gameServer w.trace = some (serverIp, port) →
    w.gameSocket.connected = true ∧ env.sockAddr serverIp port = some w.gameSocket.destAddr

/-- The client is connected to no game server. -/
structure Closed (env : Env) (w : World) : Prop where
  addressed : Addressed env w.trace
  closed : gameServer w.trace = none

theorem Closed.aimed {env : Env} {w : World} (h : Closed env w) : Aimed env w := by
  refine ⟨h.addressed, fun serverIp port hserver => ?_⟩
  rw [h.closed] at hserver
  cases hserver

/-! ## Calls that keep the aim -/

section Keeps

variable {env : Env} {w w' : World}

/-- What neither sends nor changes the address keeps the aim. -/
theorem Aimed.of_eq (h : Aimed env w) (htrace : w'.trace = w.trace)
    (hsocket : w'.gameSocket.toUdpSocket = w.gameSocket.toUdpSocket) : Aimed env w' := by
  refine ⟨?_, fun serverIp port hserver => ?_⟩
  · rw [htrace]
    exact h.addressed
  · rw [htrace] at hserver
    rw [hsocket]
    exact h.aimed serverIp port hserver

theorem aimed_modify {f : World → World}
    (htrace : ∀ w, (f w).trace = w.trace := by intro _; rfl)
    (hsocket : ∀ w, (f w).gameSocket.toUdpSocket = w.gameSocket.toUdpSocket := by intro _; rfl) :
    Keeps (Aimed env) (modify f : Net Unit) :=
  fun w h => h.of_eq (htrace w) (hsocket w)

theorem Closed.of_trace (h : Closed env w) (htrace : w'.trace = w.trace) : Closed env w' := by
  constructor
  · rw [htrace]
    exact h.addressed
  · rw [htrace]
    exact h.closed

theorem aimed_sending (h : Aimed env w) (data : List UInt8) :
    Aimed env (w.sending env .sendBuf data) := by
  refine ⟨h.addressed.snoc fun dest data' sent heq serverIp port hserver => ?_,
    fun serverIp port hserver => ?_⟩
  · obtain ⟨-, rfl, -, -⟩ := Observation.datagram.inj heq
    exact (h.aimed serverIp port hserver).2
  · rw [World.sending, gameServer_datagram] at hserver
    exact h.aimed serverIp port hserver

theorem aimed_sendBuf (buf : ByteBuffer) : Keeps (Aimed env) (GameSocket.sendBuf env buf) := by
  intro w h
  rw [GameSocket.sendBuf, UdpSocket.sendAll_apply]
  exact aimed_sending h buf.data

theorem aimed_readNext {α : Type} (readings : Nat → α) : Keeps (Aimed env) (readNext readings) :=
  fun _ h => h.of_eq rfl rfl

theorem aimed_message {message : Message}
    (h : ∀ serverId serverIp port, message ≠ .ping serverId serverIp port) :
    Keeps (Aimed env) (message.send env) :=
  keeps_send h aimed_readNext (fun _ => aimed_modify) aimed_sendBuf

theorem aimed_sendHeartbeat : Keeps (Aimed env) (Message.heartbeat.send env) :=
  aimed_message fun _ _ _ h => (nomatch h)

theorem aimed_sendCheckIn : Keeps (Aimed env) (Message.checkIn.send env) :=
  aimed_message fun _ _ _ h => (nomatch h)

/-! ### Connecting and disconnecting -/

/-- The socket is disconnected, whatever it sent to. -/
theorem closed_disconnect :
    Returns (Aimed env) GameSocket.disconnect fun _ => Closed env := by
  intro w h
  refine ⟨⟨⟩, rfl, h.addressed.snoc fun _ _ _ heq => (nomatch heq), ?_⟩
  exact gameServer_disconnected w.trace

theorem closed_networkDisconnect (quiet save : Bool) :
    Returns (Aimed env) (NetworkHandler.disconnect env quiet save) fun _ => Closed env := by
  apply returns_disconnect (fun _ => aimed_sendBuf _)
  · exact fun w h => h.of_eq rfl rfl
  · exact fun w pings h => h.of_eq rfl rfl
  · exact closed_disconnect.bind fun _ => Returns.modify fun _ h => h.of_trace rfl

theorem aimed_networkDisconnect (quiet save : Bool) :
    Keeps (Aimed env) (NetworkHandler.disconnect env quiet save) :=
  Triple.conseq (closed_networkDisconnect quiet save) (fun _ h => h)
    fun _ _ ⟨_, _, h⟩ => h.aimed

/-- The client is connected to the server that the socket sends to. -/
theorem aimed_connected {serverIp : CString} {port : UInt16} (h : Closed env w)
    (haim : w.gameSocket.connected = true ∧
      env.sockAddr serverIp port = some w.gameSocket.destAddr) :
    Aimed env { w with trace := w.trace ++ [.connected serverIp port] } := by
  refine ⟨h.addressed.snoc fun _ _ _ heq => (nomatch heq), ?_⟩
  intro serverIp' port' hserver
  rw [gameServer_connected] at hserver
  cases hserver
  exact haim

/-- A successful `connect` turns the socket to the address that it is given. -/
theorem closed_connect (serverIp : CString) (port : UInt16) :
    Returns (Closed env) (UdpSocket.connect env serverIp port) fun valid w =>
      Closed env w ∧ (valid = true → w.gameSocket.connected = true ∧
        env.sockAddr serverIp port = some w.gameSocket.destAddr) := by
  intro w h
  rw [UdpSocket.connect_apply]
  refine ⟨_, rfl, h.of_trace rfl, fun hvalid => ?_⟩
  obtain ⟨addr, haddr⟩ := Option.isSome_iff_exists.mp hvalid
  simp [UdpSocket.aimed, UdpSocket.aim, Env.sockAddr, haddr]

theorem aimed_connectTo (server : GameServer) :
    Triple (Closed env) (NetworkHandler.connectTo env server) fun _ => Aimed env := by
  refine Triple.bind (Keeps.lift _) (fun ⟨address, port⟩ => ?_) fun _ _ h => h.aimed
  dsimp only
  generalize (if port = 0 then 41001 else port) = port
  refine (closed_connect address port).triple fun valid => Triple.ite (fun hvalid => ?_) ?_
  · have hobserve : Returns (fun w => Closed env w ∧ (valid = true →
        w.gameSocket.connected = true ∧ env.sockAddr address port = some w.gameSocket.destAddr))
        (observe (.connected address port)) fun _ => Aimed env :=
      Returns.modify fun _ ⟨h, haim⟩ => aimed_connected h (haim hvalid)
    refine hobserve.triple fun _ => ?_
    refine Keeps.bind aimed_modify fun _ => ?_
    refine aimed_sendCheckIn.bind fun _ => ?_
    exact Keeps.bind aimed_modify fun _ => Keeps.pure _
  · exact fun _ _ h => h.1.aimed

theorem aimed_connectToServer (id : CString) :
    Keeps (Aimed env) (NetworkHandler.connectToServer env id) := by
  refine (closed_networkDisconnect false false).triple fun _ => ?_
  refine (Returns.gets _).triple fun gameServers => ?_
  split
  · exact aimed_connectTo _
  · exact fun _ h => h.aimed

/-! ### Receiving -/

/-- Reading a packet touches neither the trace nor the address. -/
theorem aimed_parsePacket : ParseKeeps (Aimed env) (GameSocket.parsePacket env) :=
  ParseKeeps.parsePacket aimed_readNext fun _ => aimed_modify

/-- The datagram comes from the game server, if the client is connected to one. -/
def FromServer (env : Env) (w : World) (incoming : Option Datagram) : Prop :=
  ∀ datagram, incoming = some datagram → ∀ serverIp port,
    gameServer w.trace = some (serverIp, port) → env.sockAddr serverIp port = some datagram.source

theorem aimed_receive (bufferSize : Nat) (incoming : Option Datagram) :
    Returns (fun w => Aimed env w ∧ FromServer env w incoming)
      (UdpSocket.receive bufferSize incoming) fun _ => Aimed env := by
  cases incoming with
  | none => exact Returns.pure fun _ h => h.1
  | some datagram =>
    have hsource : Returns (fun w => Aimed env w ∧ FromServer env w (some datagram))
        (modifySocket fun socket => { socket with destAddr := datagram.source })
        fun _ => Aimed env := by
      apply Returns.modify
      rintro w ⟨h, hfrom⟩
      refine ⟨h.addressed, fun serverIp port hserver => ?_⟩
      exact ⟨(h.aimed serverIp port hserver).1, hfrom datagram rfl serverIp port hserver⟩
    exact hsource.bind fun _ => Returns.pure fun _ h => h

theorem aimed_recvPacket (incoming : Option Datagram) :
    Triple (fun w => Aimed env w ∧ FromServer env w incoming)
      (GameSocket.recvPacket env incoming) fun _ => Aimed env := by
  refine (aimed_receive 65536 incoming).triple fun received => ?_
  split
  · exact Keeps.throw _
  · exact Keeps.throw _
  · exact (aimed_parsePacket _).bind fun _ => Keeps.pure _

theorem aimed_handlePacket (packet : RecvPacket) :
    Keeps (Aimed env) (NetworkHandler.handlePacket env packet) := by
  refine keeps_handlePacket aimed_modify ?_ aimed_readNext (aimed_networkDisconnect true true)
    packet
  intro w w' hsocket htrace h
  exact h.of_eq htrace (congrArg GameSocket.toUdpSocket hsocket)

theorem aimed_recvRound (incoming : Option Datagram) :
    Triple (fun w => Aimed env w ∧ FromServer env w incoming)
      (NetworkHandler.recvRound env incoming) fun _ => Aimed env := by
  refine Triple.tryCatch (Q := fun _ => Aimed env) ?_ (fun _ => Keeps.pure _) fun _ _ h => h
  exact Triple.bind (aimed_recvPacket incoming) (fun packet => aimed_handlePacket packet)
    fun _ _ h => h

theorem aimed_keepaliveRound : Keeps (Aimed env) (NetworkHandler.keepaliveRound env) :=
  triple_keepaliveRound aimed_sendHeartbeat aimed_readNext (aimed_networkDisconnect true true)
    fun _ h => h

/-! ### Pings -/

/-- A ping to this address, as the `n`-th datagram, leaves the socket with the address of the game
server: the send does not throw, or the ping goes to the game server. -/
def PingMeets (env : Env) (server : Option (CString × UInt16)) (n : Nat) (serverIp : CString)
    (port : UInt16) : Prop :=
  env.sent n = true ∨ env.target.android = true ∨
    ∀ ip port' dest, server = some (ip, port') → env.sockAddr ip port' = some dest →
      UdpSocket.aim env dest serverIp port = dest

/-- The same of the pings to `targets`, one after the other. -/
def PingsMeet (env : Env) (server : Option (CString × UInt16)) (n : Nat)
    (targets : List (CString × CString × UInt16)) : Prop :=
  ∀ i target, targets[i]? = some target → PingMeets env server (n + i) target.2.1 target.2.2

theorem pingMeets_none (n : Nat) (serverIp : CString) (port : UInt16) :
    PingMeets env none n serverIp port :=
  .inr (.inr fun _ _ _ hserver => (nomatch hserver))

/-- The aim with the next datagram to send, and the game server. -/
structure Pinging (env : Env) (server : Option (CString × UInt16)) (n : Nat) (w : World) :
    Prop where
  aimed : Aimed env w
  sends : w.sends = n
  server : gameServer w.trace = server

variable {server : Option (CString × UInt16)} {n : Nat}

theorem Pinging.of_eq (h : Pinging env server n w) (htrace : w'.trace = w.trace)
    (hsends : w'.sends = w.sends)
    (hsocket : w'.gameSocket.toUdpSocket = w.gameSocket.toUdpSocket) : Pinging env server n w' := by
  refine ⟨h.aimed.of_eq htrace hsocket, hsends.trans h.sends, ?_⟩
  rw [htrace]
  exact h.server

/-- After the datagram of a ping. -/
theorem Pinging.sending (h : Pinging env server n w) (dest : SockAddr) (data : List UInt8)
    (htrace : w'.trace = w.trace ++ [.datagram .sendAllTo dest data (env.sent w.sends)])
    (hsends : w'.sends = w.sends + 1)
    (haimed : ∀ serverIp port, server = some (serverIp, port) →
      w'.gameSocket.connected = true ∧ env.sockAddr serverIp port = some w'.gameSocket.destAddr) :
    Pinging env server (n + 1) w' := by
  have hserver : gameServer w'.trace = server := by
    rw [htrace, gameServer_datagram]
    exact h.server
  refine ⟨⟨?_, ?_⟩, ?_, hserver⟩
  · rw [htrace]
    exact h.aimed.addressed.snoc fun _ _ _ heq => (nomatch heq)
  · rw [hserver]
    exact haimed
  · rw [hsends, h.sends]

/-- The send of a ping that throws leaves the socket with the address of the ping. -/
theorem Pinging.aimed_sending (h : Pinging env server n w) {serverIp : CString} {port : UInt16}
    (hmeets : PingMeets env server n serverIp port)
    (hthrows : ¬(env.sent w.sends = true ∨ env.target.android = true)) (data : List UInt8) :
    Pinging env server (n + 1)
      ((UdpSocket.aimed env w serverIp port).sending env .sendAllTo data) := by
  apply h.sending _ data rfl rfl
  intro ip port' hserver
  obtain ⟨hconnected, hdest⟩ := h.aimed.aimed ip port' (h.server.trans hserver)
  have haim : UdpSocket.aim env w.gameSocket.destAddr serverIp port = w.gameSocket.destAddr := by
    rw [h.sends] at hthrows
    rcases hmeets with hsent | handroid | haim
    · exact absurd (.inl hsent) hthrows
    · exact absurd (.inr handroid) hthrows
    · exact haim ip port' _ hserver hdest
  refine ⟨?_, hdest.trans (congrArg some haim.symm)⟩
  exact Bool.or_eq_true_iff.mpr (.inl hconnected)

/-- A ping while the socket is disconnected ends with another `disconnect`. -/
theorem Pinging.disconnected (h : Pinging env none n w) :
    Pinging env none n (GameSocket.disconnect w).2 := by
  obtain ⟨_, _, hclosed⟩ := closed_disconnect w h.aimed
  exact ⟨hclosed.aimed, h.sends, hclosed.closed⟩

theorem pinging_sendAllTo {serverIp : CString} {port : UInt16}
    (hmeets : PingMeets env server n serverIp port) (data : List UInt8) :
    Triple (Pinging env server n) (UdpSocket.sendAllTo env data serverIp port)
      fun _ => Pinging env server (n + 1) := by
  intro w h
  cases hconnected : w.gameSocket.connected with
  | true =>
    rw [UdpSocket.sendAllTo_of_connected hconnected]
    split
    · apply h.sending _ data rfl rfl
      intro ip port' hserver
      exact h.aimed.aimed ip port' (h.server.trans hserver)
    · next hthrows => exact h.aimed_sending hmeets hthrows data
  | false =>
    have hnone : server = none := by
      cases hserver : server with
      | none => rfl
      | some address =>
        have haimed := h.aimed.aimed address.1 address.2 (h.server.trans hserver)
        rw [hconnected] at haimed
        exact absurd haimed.1 Bool.false_ne_true
    subst hnone
    rw [UdpSocket.sendAllTo_of_not_connected hconnected]
    split
    · apply Pinging.disconnected
      exact h.sending _ data rfl rfl fun _ _ hserver => (nomatch hserver)
    · next hthrows => exact h.aimed_sending hmeets hthrows data

theorem pinging_sendPingTo {serverIp : CString} {port : UInt16}
    (hmeets : PingMeets env server n serverIp port) (serverId : CString) :
    Triple (Pinging env server n) (GameSocket.sendPingTo env serverId serverIp port)
      fun _ => Pinging env server (n + 1) := by
  have hread : ∀ {α : Type} (readings : Nat → α),
      Returns (Pinging env server n) (readNext readings) fun _ => Pinging env server n :=
    fun readings w h => ⟨readings w.ticks, rfl, h.of_eq rfl rfl rfl⟩
  have hpingTime : ∀ num now, Returns (Pinging env server n)
      (modifySocket fun socket =>
        { socket with pingTimes := socket.pingTimes.insertIfNew num (serverId, now) })
      fun _ => Pinging env server n :=
    fun num now => Returns.modify fun _ h => h.of_eq rfl rfl rfl
  refine (hread _).triple fun num => (hread _).triple fun now => ?_
  exact (hpingTime num now).triple fun _ => pinging_sendAllTo hmeets _

theorem pinging_pingServer {target : CString × CString × UInt16}
    (hmeets : PingMeets env server n target.2.1 target.2.2) :
    Returns (Pinging env server n) (NetworkHandler.pingServer env target)
      fun _ => Pinging env server (n + 1) :=
  Returns.caught (pinging_sendPingTo hmeets target.1)

/-- Where the pings to `gameServers` may go. -/
def AllPingsMeet (env : Env) (w : World) (gameServers : List GameServer) : Prop :=
  ∀ addresses, NetworkHandler.pingAddresses w.gameServerId gameServers = .ok addresses →
    PingsMeet env (gameServer w.trace) w.sends (addresses.entries env.order)

theorem aimed_pingAllServers (h : Aimed env w) (hmeets : AllPingsMeet env w w.gameServers) :
    Aimed env (NetworkHandler.pingAllServers env w).2 := by
  rw [NetworkHandler.pingAllServers, Call.bind_of_ok (Call.get_apply w)]
  cases haddresses : NetworkHandler.pingAddresses w.gameServerId w.gameServers with
  | error e => exact h
  | ok addresses =>
    rw [Call.bind_of_ok (Call.lift_apply _ w)]
    have hloop := Returns.forM (J := fun i => Pinging env (gameServer w.trace) (w.sends + i))
      (addresses.entries env.order)
      fun i target htarget => pinging_pingServer (hmeets addresses haddresses i target htarget)
    obtain ⟨_, _, hpinging⟩ := hloop w ⟨h, rfl, rfl⟩
    exact hpinging.aimed

theorem allPingsMeet_of_closed (h : Closed env w) (gameServers : List GameServer) :
    AllPingsMeet env w gameServers := by
  intro addresses _ i target _
  rw [h.closed]
  exact pingMeets_none _ _ _

/-! ### The other messages of the main thread -/

/-- What `handleMessage` needs when the pings that it makes are to keep the aim. -/
def MessageMeets (env : Env) (w : World) (answer : Option (List GameServer)) :
    NetworkThreadMessage → Prop
  | .pingServers => AllPingsMeet env w w.gameServers
  | .centralServerChanged _ =>
    w.gameSocket.established = false → AllPingsMeet env w (answer.getD [])
  | _ => True

theorem aimed_leaveServer (gameServers : List GameServer) :
    Returns (fun w => Aimed env w ∧
        (w.gameSocket.established = false → AllPingsMeet env w gameServers))
      (NetworkHandler.leaveServer env)
      fun _ w => Aimed env w ∧ AllPingsMeet env w gameServers := by
  rintro w ⟨h, hmeets⟩
  have hsocket : getSocket w = (.ok w.gameSocket, w) := rfl
  rw [NetworkHandler.leaveServer, Call.bind_of_ok hsocket]
  cases hestablished : w.gameSocket.established with
  | true =>
    obtain ⟨x, hx, hclosed⟩ := closed_networkDisconnect false true w h
    exact ⟨x, hx, hclosed.aimed, allPingsMeet_of_closed hclosed gameServers⟩
  | false => exact ⟨⟨⟩, rfl, h, hmeets hestablished⟩

theorem aimed_centralServerChanged (accountId : Int32) (answer : Option (List GameServer))
    (server : CString) :
    Triple (fun w => Aimed env w ∧ MessageMeets env w answer (.centralServerChanged server))
      (NetworkHandler.handleMessage env accountId answer (.centralServerChanged server))
      fun _ => Aimed env := by
  refine (aimed_leaveServer (answer.getD [])).triple fun _ => ?_
  rintro w ⟨h, hmeets⟩
  have hservers : ∀ gameServers,
      Aimed env { w with gameServersPings := .empty, gameServers := gameServers } :=
    fun gameServers => h.of_eq rfl rfl
  cases answer with
  | none => exact aimed_pingAllServers (hservers []) hmeets
  | some gameServers => exact aimed_pingAllServers (hservers gameServers) hmeets

theorem aimed_menuLayerEntry (accountId : Int32) (answer : Option (List GameServer)) :
    Keeps (Aimed env) (NetworkHandler.handleMessage env accountId answer .menuLayerEntry) := by
  refine Keeps.bind aimed_modify fun _ => Keeps.ite (aimed_networkDisconnect true true) ?_
  refine Keeps.get.bind fun w => Keeps.ite ?_ (Keeps.pure _)
  exact (aimed_connectToServer w.lastServerId).bind fun _ => Keeps.pure _

theorem aimed_sendPacket (message : NetworkThreadMessage) :
    Keeps (Aimed env) (do
      let socket ← getSocket
      if socket.established then
        tryCatch (GameSocket.sendMessage env message) fun _ => pure ()
      else pure ()) :=
  (returns_sendPacket env aimed_sendBuf message).keeps

theorem aimed_handleMessage (accountId : Int32) (answer : Option (List GameServer))
    (message : NetworkThreadMessage) (h : Aimed env w)
    (hmeets : MessageMeets env w answer message) :
    Aimed env (NetworkHandler.handleMessage env accountId answer message w).2 := by
  cases message with
  | centralServerChanged server =>
    exact aimed_centralServerChanged accountId answer server w ⟨h, hmeets⟩
  | menuLayerEntry => exact aimed_menuLayerEntry accountId answer w h
  | pingServers => exact aimed_pingAllServers h hmeets
  | playerLevelEntry levelID => exact aimed_sendPacket _ w h
  | playerLevelExit => exact aimed_sendPacket _ w h
  | playerData data => exact aimed_sendPacket _ w h
  | requestPlayerAccount playerId => exact aimed_sendPacket _ w h
  | requestLevelList => exact aimed_sendPacket _ w h
  | spectatingNoData => exact aimed_sendPacket _ w h
  | sendTextMessage message => exact aimed_sendPacket _ w h

end Keeps

/-! ## Runs -/

/-- What an event needs to keep the aim: a datagram that is received comes from the game server, and
a ping whose send throws goes to the game server. -/
def Event.Meets (env : Env) (w : World) : Event → Prop
  | .send (.ping _ serverIp port) => PingMeets env (gameServer w.trace) w.sends serverIp port
  | .pingAllServers => AllPingsMeet env w w.gameServers
  | .receive incoming => FromServer env w incoming
  | .handleMessage _ answer message => MessageMeets env w answer message
  | _ => True

theorem aimed_send {env : Env} {w : World} (message : Message) (h : Aimed env w)
    (hmeets : Event.Meets env w (.send message)) : Aimed env (message.send env w).2 := by
  cases message with
  | ping serverId serverIp port =>
    exact (pinging_sendPingTo hmeets serverId w ⟨h, rfl, rfl⟩).aimed
  | queued _ | heartbeat | checkIn | accountDataRequest _ | disconnect =>
    refine aimed_message (fun _ _ _ heq => ?_) w h
    cases heq

/-- Every event keeps the aim. -/
theorem aimed_after {env : Env} {w : World} (event : Event) (h : Aimed env w)
    (hmeets : event.Meets env w) : Aimed env (event.after env w) := by
  cases event with
  | connectToServer id => exact aimed_connectToServer id w h
  | disconnect quiet save => exact aimed_networkDisconnect quiet save w h
  | send message => exact aimed_send message h hmeets
  | pingAllServers => exact aimed_pingAllServers h hmeets
  | receive incoming => exact aimed_recvRound incoming w ⟨h, hmeets⟩
  | keepalive => exact aimed_keepaliveRound w h
  | handleMessage accountId answer message => exact aimed_handleMessage _ answer message h hmeets
  | updateAccountData accountData => exact h.of_eq rfl rfl

theorem aimed_new (env : Env) (accountId secretKey : Int32) (accountData : PlayerAccountData)
    (gameServers : List GameServer) :
    Aimed env (.new accountId secretKey accountData gameServers) :=
  ⟨addressed_nil env, fun _ _ hserver => (nomatch hserver)⟩

/-- Every event of the run meets its condition. -/
def RunMeets (env : Env) (w : World) : List Event → Prop
  | [] => True
  | event :: events => event.Meets env w ∧ RunMeets env (event.after env w) events

theorem aimed_run {env : Env} (events : List Event) {w : World} (h : Aimed env w)
    (hmeets : RunMeets env w events) : Aimed env (run env w events) := by
  induction events generalizing w with
  | nil => exact h
  | cons event events ih => exact ih (aimed_after event h hmeets.1) hmeets.2

/-- As long as datagrams come from the game server alone and no ping to elsewhere throws, all that
goes through `sendBuf` goes to the game server. -/
theorem run_addressed (env : Env) (accountId secretKey : Int32) (accountData : PlayerAccountData)
    (gameServers : List GameServer) (events : List Event)
    (hmeets : RunMeets env (.new accountId secretKey accountData gameServers) events) :
    Addressed env (run env (.new accountId secretKey accountData gameServers) events).trace :=
  (aimed_run events (aimed_new env accountId secretKey accountData gameServers) hmeets).addressed

/-! ### A datagram from a stranger -/

/-- The text `127.0.0.1`. -/
def loopback : CString := [49, 50, 55, 46, 48, 46, 48, 46, 49]

/-- The only valid address is `127.0.0.1`. -/
noncomputable def loopbackEnv : Env := .working [(loopback, 0x0100007F)]

/-- The account 7 with the key 42, and the server `s` at `127.0.0.1:5`. -/
def loopbackWorld : World :=
  .new 7 42 ⟨1, 1, 1, 1, 1, 1, 1, 1, 1, 1, false, []⟩ [⟨[], [115], [], loopback ++ [58, 53]⟩]

/-- The client connects to the server, is checked in by it, and keeps itself alive after `heard`. -/
def keptAlive (heard : Option Datagram) : List Event :=
  [.connectToServer [115], .receive (some ⟨⟨afInet, 5, 0x0100007F⟩, [200, 0, 30]⟩), .receive heard,
    .keepalive]

theorem run_addressed_keptAlive :
    Addressed loopbackEnv (run loopbackEnv loopbackWorld (keptAlive none)).trace := by
  have hserver : FromServer loopbackEnv (run loopbackEnv loopbackWorld [.connectToServer [115]])
      (some ⟨⟨afInet, 5, 0x0100007F⟩, [200, 0, 30]⟩) := by
    intro datagram hdatagram serverIp port hserver
    cases hdatagram
    cases hserver
    rfl
  exact run_addressed _ _ _ _ _ _
    ⟨trivial, hserver, fun _ hnone => (nomatch hnone), trivial, trivial⟩

/-- The heartbeat with the account id and the key goes to whoever sent the last datagram. -/
theorem heartbeat_to_stranger :
    ¬∀ env accountId secretKey accountData gameServers events,
      Addressed env (run env (.new accountId secretKey accountData gameServers) events).trace := by
  intro h
  have htrace : (run loopbackEnv loopbackWorld
      (keptAlive (some ⟨⟨afInet, 9, 0x0200007F⟩, [0]⟩))).trace =
      (run loopbackEnv loopbackWorld [.connectToServer [115]]).trace ++
        .datagram .sendBuf ⟨afInet, 9, 0x0200007F⟩ [101, 0, 0, 0, 7, 0, 0, 0, 42] true :: [] := rfl
  have hserver : gameServer (run loopbackEnv loopbackWorld [.connectToServer [115]]).trace =
      some (loopback, 5) := rfl
  have haddr := h loopbackEnv _ _ _ _ _ _ _ _ _ _ htrace loopback 5 hserver
  exact absurd haddr (by decide)

end Globed.Client
