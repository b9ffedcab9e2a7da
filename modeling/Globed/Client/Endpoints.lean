import Globed.Client.Destination
import Globed.Client.MainLoop

/-!
# Where servers are pinged and joined

An address without a port stands for port 41001. `connectToServer` fills it in, but
`pingAllServers` does not, so that a server that is pinged is pinged where it is joined exactly if
its address has a port other than 0 (`pingedWhereJoined_iff`). Both find a server by its id, and of
several servers with one id both take the first. An address that is not a valid one is not joined,
but pinged all the same, at the host that the socket was aimed at last.
-/

namespace Globed.Client

open Calls

section Endpoints

variable {env : Env} {w w' : World} {server : GameServer} {address : CString} {port : UInt16}

/-! ## Joining -/

theorem keeps_destAddr {dest : SockAddr} {f : World → World}
    (h : ∀ w, (f w).gameSocket.destAddr = w.gameSocket.destAddr := by intro _; rfl) :
    Keeps (fun w => w.gameSocket.destAddr = dest) (modify f : Net Unit) :=
  fun w hw => (h w).trans hw

theorem destAddr_sendCheckIn (dest : SockAddr) :
    Keeps (fun w => w.gameSocket.destAddr = dest) (GameSocket.sendCheckIn env) := by
  refine Keeps.bind (Keeps.gets _) fun _ => Keeps.bind (Keeps.gets _) fun _ => ?_
  intro w hw
  rw [GameSocket.sendBuf, UdpSocket.sendAll_apply]
  exact hw

/-- Only an address that is not valid makes `connectToServer` answer that it did not connect. -/
theorem refused_connectTo_iff (hsplit : splitAddress server.address = .ok (address, port)) :
    (NetworkHandler.connectTo env server w).1 = .ok false ↔
      env.inetPton (cStr address) = none := by
  rw [NetworkHandler.connectTo, hsplit, Call.bind_of_ok (Call.lift_apply _ w)]
  dsimp only
  generalize (if port = 0 then 41001 else port) = port'
  rw [Call.bind_of_ok (UdpSocket.connect_apply address port')]
  have hconnects : Triple (fun _ : World => True)
      (do
        observe (.connected address port')
        modify fun w => { w with gameServerId := server.id }
        GameSocket.sendCheckIn env
        modify fun w => { w with lastServerId := server.id }
        return true : Net Bool) fun r _ => r ≠ .ok false := by
    refine Triple.bind (Q := fun _ _ => True) (fun _ _ => trivial) (fun _ => ?_) (by simp)
    refine Triple.bind (Q := fun _ _ => True) (fun _ _ => trivial) (fun _ => ?_) (by simp)
    refine Triple.bind (Q := fun _ _ => True) (fun _ _ => trivial) (fun _ => ?_) (by simp)
    exact Triple.bind (Q := fun _ _ => True) (fun _ _ => trivial) (fun _ _ _ => by simp) (by simp)
  cases haddr : env.inetPton (cStr address) with
  | none => simp
  | some addr => simpa using hconnects (UdpSocket.aimed env w address port') trivial

/-- A port of 0 is replaced before the socket is aimed. -/
theorem destAddr_connectTo (hsplit : splitAddress server.address = .ok (address, port)) :
    (NetworkHandler.connectTo env server w).2.gameSocket.destAddr =
      UdpSocket.aim env w.gameSocket.destAddr address (if port = 0 then 41001 else port) := by
  rw [NetworkHandler.connectTo, hsplit, Call.bind_of_ok (Call.lift_apply _ w)]
  dsimp only
  generalize (if port = 0 then 41001 else port) = port'
  rw [Call.bind_of_ok (UdpSocket.connect_apply address port')]
  have hkeeps : Keeps
      (fun w' => w'.gameSocket.destAddr = UdpSocket.aim env w.gameSocket.destAddr address port')
      (do
        observe (.connected address port')
        modify fun w => { w with gameServerId := server.id }
        GameSocket.sendCheckIn env
        modify fun w => { w with lastServerId := server.id }
        return true : Net Bool) := by
    refine Keeps.bind keeps_destAddr fun _ => Keeps.bind keeps_destAddr fun _ => ?_
    refine (destAddr_sendCheckIn _).bind fun _ => ?_
    exact Keeps.bind keeps_destAddr fun _ => Keeps.pure true
  split
  · exact hkeeps _ rfl
  · rfl

/-- The disconnect leaves the address and the list alone. -/
theorem keeps_disconnect (env : Env) (quiet save : Bool) (dest : SockAddr)
    (gameServers : List GameServer) :
    Returns (fun w => w.gameSocket.destAddr = dest ∧ w.gameServers = gameServers)
      (NetworkHandler.disconnect env quiet save)
      fun _ w => w.gameSocket.destAddr = dest ∧ w.gameServers = gameServers := by
  apply returns_disconnect
  · intro socket w hw
    rw [GameSocket.sendBuf, UdpSocket.sendAll_apply]
    exact hw
  · exact fun _ hw => hw
  · exact fun _ _ hw => hw
  · intro w hw
    exact ⟨⟨⟩, rfl, hw⟩

/-- `connectToServer` ends what there was, and connects to the first server with the id. -/
theorem connectToServer_eq (env : Env) {id : CString}
    (hfind : (w.gameServers.find? fun server => server.id == id) = some server) :
    ∃ w', NetworkHandler.connectToServer env id w = NetworkHandler.connectTo env server w' ∧
      w'.gameSocket.destAddr = w.gameSocket.destAddr := by
  obtain ⟨⟨⟩, hok, hdest, hservers⟩ := keeps_disconnect env false false _ _ w ⟨rfl, rfl⟩
  have hfind' : ((NetworkHandler.disconnect env false false w).2.gameServers.find?
      fun server => server.id == id) = some server := by
    rw [hservers, hfind]
  refine ⟨_, ?_, hdest⟩
  rw [NetworkHandler.connectToServer, Call.bind_of_ok (Prod.ext hok rfl),
    Call.bind_of_ok (Call.gets_apply _ _), hfind']

theorem destAddr_connectToServer {id : CString}
    (hfind : (w.gameServers.find? fun server => server.id == id) = some server)
    (hsplit : splitAddress server.address = .ok (address, port)) :
    (NetworkHandler.connectToServer env id w).2.gameSocket.destAddr =
      UdpSocket.aim env w.gameSocket.destAddr address (if port = 0 then 41001 else port) := by
  obtain ⟨w', hconnect, hdest⟩ := connectToServer_eq env hfind
  rw [hconnect, destAddr_connectTo hsplit, hdest]

theorem refused_connectToServer_iff (env : Env) {id : CString}
    (hfind : (w.gameServers.find? fun server => server.id == id) = some server)
    (hsplit : splitAddress server.address = .ok (address, port)) :
    (NetworkHandler.connectToServer env id w).1 = .ok false ↔
      env.inetPton (cStr address) = none := by
  obtain ⟨w', hconnect, -⟩ := connectToServer_eq env hfind
  rw [hconnect, refused_connectTo_iff hsplit]

/-! ## Pinging -/

/-- A ping sends one datagram, to the address and port as they were parsed. -/
theorem trace_pingServer (env : Env) (w : World) (id address : CString) (port : UInt16) :
    ∃ data sent rest, (NetworkHandler.pingServer env (id, address, port) w).2.trace =
      w.trace ++ .datagram .sendAllTo (UdpSocket.aim env w.gameSocket.destAddr address port)
        data sent :: rest := by
  have hcaught : (NetworkHandler.pingServer env (id, address, port) w).2 =
      (GameSocket.sendPingTo env id address port w).2 := by
    rw [NetworkHandler.pingServer, Call.tryCatch_apply]
    rcases GameSocket.sendPingTo env id address port w with ⟨_ | _, _⟩ <;> rfl
  have hping : ∃ data w', (GameSocket.sendPingTo env id address port w).2 =
        (UdpSocket.sendAllTo env data address port w').2 ∧
      w'.trace = w.trace ∧ w'.gameSocket.destAddr = w.gameSocket.destAddr :=
    ⟨_, _, rfl, rfl, rfl⟩
  obtain ⟨data, w', hsend, htrace, hdest⟩ := hping
  obtain ⟨rest, hrest, -⟩ := @UdpSocket.trace_sendAllTo env w' data address port
  refine ⟨data, env.sent w'.sends, rest, ?_⟩
  rw [hcaught, hsend, hrest, htrace, hdest]

theorem find?_of_ne {id : CString} {gameServers : List GameServer} (h : server.id ≠ id) :
    ((server :: gameServers).find? fun server => server.id == id) =
      gameServers.find? fun server => server.id == id :=
  List.find?_cons_of_neg (by rwa [beq_iff_eq])

theorem find?_of_eq (gameServers : List GameServer) :
    ((server :: gameServers).find? fun s => s.id == server.id) = some server :=
  List.find?_cons_of_pos (beq_self_eq_true server.id)

/-- A server is pinged at the address of the first entry with its id, unless it is the one that the
client is connected to. -/
theorem get_pingAddresses {gameServerId : CString} {gameServers : List GameServer}
    {addresses : FiniteMap CString (CString × UInt16)}
    (h : NetworkHandler.pingAddresses gameServerId gameServers = .ok addresses) (id : CString) :
    addresses.get id = if id = gameServerId then none else
      (gameServers.find? fun server => server.id == id).bind fun server =>
        (splitAddress server.address).toOption := by
  suffices hacc : ∀ acc, gameServers.foldlM (fun addresses server =>
      if server.id == gameServerId then .ok addresses
      else (splitAddress server.address).map fun address =>
        addresses.insertIfNew server.id address) acc = .ok addresses →
      addresses.get id = (acc.get id).or (if id = gameServerId then none else
        (gameServers.find? fun server => server.id == id).bind fun server =>
          (splitAddress server.address).toOption) from hacc .empty h
  clear h
  induction gameServers with
  | nil =>
    intro acc h
    obtain rfl := Except.ok.inj h
    simp
  | cons server gameServers ih =>
    intro acc h
    rw [List.foldlM_cons] at h
    by_cases hskip : server.id = gameServerId
    · rw [if_pos (beq_iff_eq.mpr hskip)] at h
      rw [ih acc h]
      by_cases hid : id = gameServerId
      · rw [if_pos hid, if_pos hid]
      · have hne : server.id ≠ id := by
          rw [hskip]
          exact fun heq => hid heq.symm
        rw [if_neg hid, if_neg hid, find?_of_ne hne]
    · rw [if_neg (by rwa [beq_iff_eq])] at h
      cases hsplit : splitAddress server.address with
      | error e =>
        rw [hsplit] at h
        cases h
      | ok endpoint =>
        rw [hsplit] at h
        rw [ih (acc.insertIfNew server.id endpoint) h]
        by_cases hid : server.id = id
        · subst hid
          rw [if_neg hskip, if_neg hskip, find?_of_eq]
          cases hget : acc.get server.id with
          | none =>
            rw [FiniteMap.insertIfNew_of_get_none endpoint hget, FiniteMap.get_insert_self]
            simp [hsplit, Except.toOption]
          | some old => simp [FiniteMap.insertIfNew, FiniteMap.contains, hget]
        · have hsame : (acc.insertIfNew server.id endpoint).get id = acc.get id := by
            unfold FiniteMap.insertIfNew
            split
            · rfl
            · exact acc.get_insert_of_ne endpoint (Ne.symm hid)
          rw [hsame, find?_of_ne hid]

/-! ## The same place -/

/-- `pingAllServers` pings the server with this id at this address and port. -/
def Pings (env : Env) (w : World) (id : CString) (endpoint : CString × UInt16) : Prop :=
  ∃ addresses, NetworkHandler.pingAddresses w.gameServerId w.gameServers = .ok addresses ∧
    (id, endpoint) ∈ addresses.entries env.order

/-- Nothing is pinged if one of the addresses cannot be parsed, and never the server that the client
is connected to. Else the first server with the id is pinged at its address as it was parsed. -/
theorem pings_iff (id : CString) :
    Pings env w id (address, port) ↔
      AllHaveAddresses w.gameServerId w.gameServers ∧ id ≠ w.gameServerId ∧
        ∃ found, (w.gameServers.find? fun server => server.id == id) = some found ∧
          splitAddress found.address = .ok (address, port) := by
  have hget : ∀ {addresses},
      NetworkHandler.pingAddresses w.gameServerId w.gameServers = .ok addresses →
      ((id, address, port) ∈ addresses.entries env.order ↔ id ≠ w.gameServerId ∧
        ∃ found, (w.gameServers.find? fun server => server.id == id) = some found ∧
          splitAddress found.address = .ok (address, port)) := by
    intro addresses haddresses
    rw [FiniteMap.mem_entries, get_pingAddresses haddresses id]
    by_cases hid : id = w.gameServerId
    · simp [hid]
    · rw [if_neg hid, Option.bind_eq_some_iff]
      have hsplit : ∀ found : GameServer, (splitAddress found.address).toOption =
          some (address, port) ↔ splitAddress found.address = .ok (address, port) := by
        intro found
        cases splitAddress found.address <;> simp [Except.toOption]
      simp only [hsplit, ne_eq, hid, not_false_eq_true, true_and]
  constructor
  · rintro ⟨addresses, haddresses, hmem⟩
    exact ⟨(pingAddresses_ok_iff _ _).mp ⟨addresses, haddresses⟩, (hget haddresses).mp hmem⟩
  · rintro ⟨hall, hfound⟩
    obtain ⟨addresses, haddresses⟩ := (pingAddresses_ok_iff _ _).mpr hall
    exact ⟨addresses, haddresses, (hget haddresses).mpr hfound⟩

/-- Whenever the server is pinged, the datagram goes where `connectToServer` aims the socket. That
is the server's own host, unless its address is not valid: then `connectToServer` does not connect,
and both mean the host that the socket was aimed at before. -/
def PingedWhereJoined (env : Env) (w : World) (server : GameServer) : Prop :=
  ∀ address port, Pings env w server.id (address, port) →
    ∀ w' dest data sent rest, w'.gameServers = w.gameServers →
      (NetworkHandler.pingServer env (server.id, address, port) w').2.trace =
        w'.trace ++ .datagram .sendAllTo dest data sent :: rest →
      (NetworkHandler.connectToServer env server.id w').2.gameSocket.destAddr = dest ∧
        match env.inetPton (cStr address) with
        | some addr =>
          (NetworkHandler.connectToServer env server.id w').1 ≠ .ok false ∧ dest.addr = addr
        | none =>
          (NetworkHandler.connectToServer env server.id w').1 = .ok false ∧
            dest.addr = w'.gameSocket.destAddr.addr

/-- **Endpoints**: a server is pinged where it would be joined exactly if the first address that is
listed for its id has a port other than 0, or it is not pinged at all: it is the one that the client
is connected to, or an address that cannot be parsed keeps `pingAllServers` from any ping. -/
theorem pingedWhereJoined_iff (env : Env) (w : World) (server : GameServer) :
    PingedWhereJoined env w server ↔
      (AllHaveAddresses w.gameServerId w.gameServers → server.id ≠ w.gameServerId →
        ∀ found, (w.gameServers.find? fun s => s.id == server.id) = some found →
          ∀ address port, splitAddress found.address = .ok (address, port) → port ≠ 0) := by
  constructor
  · rintro h hall hid found hfind address port hsplit rfl
    have hpings : Pings env w server.id (address, 0) :=
      (pings_iff server.id).mpr ⟨hall, hid, found, hfind, hsplit⟩
    obtain ⟨data, sent, rest, htrace⟩ := trace_pingServer env w server.id address 0
    have hdest := (h address 0 hpings w _ data sent rest rfl htrace).1
    rw [destAddr_connectToServer hfind hsplit, if_pos rfl] at hdest
    exact absurd (SockAddr.mk.inj hdest).2.1 (by decide)
  · intro hfine address port hpings w' dest data sent rest hservers htrace
    obtain ⟨hall, hid, found, hfind, hsplit⟩ := (pings_iff server.id).mp hpings
    have hport : port ≠ 0 := hfine hall hid found hfind address port hsplit
    obtain ⟨data', sent', rest', htrace'⟩ := trace_pingServer env w' server.id address port
    have hcons := List.append_cancel_left (htrace'.symm.trans htrace)
    obtain ⟨-, rfl, -, -⟩ := Observation.datagram.inj (List.cons.inj hcons).1
    rw [← hservers] at hfind
    refine ⟨by rw [destAddr_connectToServer hfind hsplit, if_neg hport], ?_⟩
    have hrefused := refused_connectToServer_iff env hfind hsplit
    cases haddr : env.inetPton (cStr address) with
    | some addr =>
      refine ⟨fun heq => ?_, by simp [UdpSocket.aim, haddr]⟩
      rw [hrefused.mp heq] at haddr
      cases haddr
    | none => exact ⟨hrefused.mpr haddr, by simp [UdpSocket.aim, haddr]⟩

/-- The server `s` at `127.0.0.1`, without a port. -/
def portlessServer : GameServer := ⟨[], [115], [], loopback⟩

/-- A server without a port is pinged at port 0, and joined at port 41001. -/
theorem portless_pinged_at_0 :
    HasAddress portlessServer ∧
      ¬PingedWhereJoined loopbackEnv { loopbackWorld with gameServers := [portlessServer] }
        portlessServer := by
  refine ⟨⟨loopback, 0, rfl⟩, fun h => ?_⟩
  have hpings : Pings loopbackEnv { loopbackWorld with gameServers := [portlessServer] } [115]
      (loopback, 0) := ⟨_, rfl, FiniteMap.mem_entries.mpr rfl⟩
  obtain ⟨data, sent, rest, htrace⟩ := trace_pingServer loopbackEnv
    { loopbackWorld with gameServers := [portlessServer] } [115] loopback 0
  have hdest := (h loopback 0 hpings _ _ data sent rest rfl htrace).1
  rw [destAddr_connectToServer rfl rfl, if_pos rfl] at hdest
  exact absurd (SockAddr.mk.inj hdest).2.1 (by decide)

end Endpoints

end Globed.Client
