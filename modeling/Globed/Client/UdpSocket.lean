import Globed.Client.World

/-!
# The UDP socket

`net/udp_socket.cpp`, and `sendAll` of `net/socket.cpp`. A datagram is sent whole or not at all, so
that the loop of `sendAll` ends after one round. `leavesSocket_iff` says when `sendAllTo`, which
aims the socket elsewhere for one datagram, puts it back.
-/

namespace Globed.Client

open Calls

/-- `GameSocket::disconnect`, which overrides `UdpSocket::disconnect`. -/
def GameSocket.disconnect : Net Unit := do
  modifySocket fun socket => { socket with connected := false, established := false }
  observe .disconnected

namespace UdpSocket

variable (env : Env)

def connect (serverIp : CString) (port : UInt16) : Net Bool := do
  modifySocket fun socket =>
    { socket with destAddr := { socket.destAddr with family := afInet, port } }
  match env.inetPton (cStr serverIp) with
  | none => return false
  | some addr =>
    modifySocket fun socket =>
      { socket with destAddr := { socket.destAddr with addr }, connected := true }
    return true

/-- Whether the datagram was sent. -/
def send (origin : Origin) (data : List UInt8) : Net Bool := do
  let w ← get
  let sent := env.sent w.sends
  set { w with
    sends := w.sends + 1
    trace := w.trace ++ [Observation.datagram origin w.gameSocket.destAddr data sent] }
  return sent

def sendAll (origin : Origin) (data : List UInt8) : Net Unit := do
  let sent ← send env origin data
  if sent then pure ()
  else if env.target.android then pure ()
  else throw (.runtimeError s!"failed to send(): {env.lastNetError}")

def sendAllTo (data : List UInt8) (serverIp : CString) (port : UInt16) : Net Unit := do
  let socket ← getSocket
  if socket.connected then
    let prevAddress := socket.destAddr
    let _ ← connect env serverIp port
    sendAll env .sendAllTo data
    modifySocket fun socket => { socket with destAddr := prevAddress }
  else
    let _ ← connect env serverIp port
    sendAll env .sendAllTo data
    GameSocket.disconnect

/-- `recvfrom` stores the address of the sender in `destAddr_`. There is no datagram if it fails. -/
def receive (bufferSize : Nat) (incoming : Option Datagram) : Net (Option (List UInt8)) := do
  match incoming with
  | none => return none
  | some datagram =>
    modifySocket fun socket => { socket with destAddr := datagram.source }
    return some (datagram.data.take bufferSize)

end UdpSocket

/-! ## What is sent -/

/-- The world after a datagram was handed to `sendto`. -/
def World.sending (env : Env) (w : World) (origin : Origin) (data : List UInt8) : World :=
  { w with
    sends := w.sends + 1
    trace := w.trace ++ [.datagram origin w.gameSocket.destAddr data (env.sent w.sends)] }

namespace UdpSocket

variable {env : Env} {w : World}

theorem sendAll_apply (origin : Origin) (data : List UInt8) :
    sendAll env origin data w =
      (if env.sent w.sends = true ∨ env.target.android = true then .ok ()
        else .error (.runtimeError s!"failed to send(): {env.lastNetError}"),
        w.sending env origin data) := by
  have hsend : send env origin data w = (.ok (env.sent w.sends), w.sending env origin data) := rfl
  rw [sendAll, Call.bind_of_ok hsend]
  cases env.sent w.sends with
  | true => rfl
  | false => cases env.target.android <;> rfl

theorem datagrams_sending (origin : Origin) (data : List UInt8) :
    datagrams (w.sending env origin data).trace = datagrams w.trace ++ [data] :=
  datagrams_append _ _

/-- What `connect` makes of the address `old`: an invalid address leaves the old one in place. -/
def aim (env : Env) (old : SockAddr) (serverIp : CString) (port : UInt16) : SockAddr :=
  ⟨afInet, port, (env.inetPton (cStr serverIp)).getD old.addr⟩

/-- The world after `connect`. -/
def aimed (env : Env) (w : World) (serverIp : CString) (port : UInt16) : World :=
  { w with
    gameSocket := { w.gameSocket with
      connected := w.gameSocket.connected || (env.inetPton (cStr serverIp)).isSome
      destAddr := aim env w.gameSocket.destAddr serverIp port } }

theorem connect_apply (serverIp : CString) (port : UInt16) :
    connect env serverIp port w =
      (.ok (env.inetPton (cStr serverIp)).isSome, aimed env w serverIp port) := by
  unfold connect aimed aim
  cases env.inetPton (cStr serverIp) with
  | none => simp [Call.bind_apply, modifySocket]
  | some addr => simp [Call.bind_apply, modifySocket]

/-- The `sendAll` of `sendAllTo`. -/
theorem sendAll_aimed (data : List UInt8) (serverIp : CString) (port : UInt16) :
    sendAll env .sendAllTo data (aimed env w serverIp port) =
      (if env.sent w.sends = true ∨ env.target.android = true then .ok ()
        else .error (.runtimeError s!"failed to send(): {env.lastNetError}"),
        (aimed env w serverIp port).sending env .sendAllTo data) :=
  sendAll_apply .sendAllTo data

/-- While connected, the old address comes back unless the send fails with an exception. -/
theorem sendAllTo_of_connected (h : w.gameSocket.connected = true) (data : List UInt8)
    (serverIp : CString) (port : UInt16) :
    (sendAllTo env data serverIp port w).2 =
      if env.sent w.sends = true ∨ env.target.android = true then
        { (aimed env w serverIp port).sending env .sendAllTo data with gameSocket := w.gameSocket }
      else (aimed env w serverIp port).sending env .sendAllTo data := by
  have hsocket : getSocket w = (.ok w.gameSocket, w) := rfl
  rw [sendAllTo, Call.bind_of_ok hsocket, if_pos h, Call.bind_of_ok (connect_apply serverIp port)]
  have hsend := @sendAll_aimed env w data serverIp port
  by_cases hok : env.sent w.sends = true ∨ env.target.android = true
  · rw [if_pos hok] at hsend ⊢
    rw [Call.bind_of_ok hsend]
    obtain ⟨⟨⟨_, _⟩, _, _, _, _, _⟩, _⟩ := w
    subst h
    rfl
  · rw [if_neg hok] at hsend ⊢
    rw [Call.bind_of_error hsend]

/-- While not connected, the socket is disconnected afterwards, unless the send fails with an
exception. -/
theorem sendAllTo_of_not_connected (h : w.gameSocket.connected = false) (data : List UInt8)
    (serverIp : CString) (port : UInt16) :
    (sendAllTo env data serverIp port w).2 =
      if env.sent w.sends = true ∨ env.target.android = true then
        (GameSocket.disconnect ((aimed env w serverIp port).sending env .sendAllTo data)).2
      else (aimed env w serverIp port).sending env .sendAllTo data := by
  have hsocket : getSocket w = (.ok w.gameSocket, w) := rfl
  have hnot : ¬w.gameSocket.connected = true := by rw [h]; exact Bool.false_ne_true
  rw [sendAllTo, Call.bind_of_ok hsocket, if_neg hnot,
    Call.bind_of_ok (connect_apply serverIp port)]
  have hsend := @sendAll_aimed env w data serverIp port
  by_cases hok : env.sent w.sends = true ∨ env.target.android = true
  · rw [if_pos hok] at hsend ⊢
    rw [Call.bind_of_ok hsend]
  · rw [if_neg hok] at hsend ⊢
    rw [Call.bind_of_error hsend]

theorem datagrams_sendAllTo (data : List UInt8) (serverIp : CString) (port : UInt16) :
    datagrams (sendAllTo env data serverIp port w).2.trace = datagrams w.trace ++ [data] := by
  have hsending : datagrams ((aimed env w serverIp port).sending env .sendAllTo data).trace =
      datagrams w.trace ++ [data] := datagrams_sending .sendAllTo data
  cases h : w.gameSocket.connected with
  | true =>
    rw [sendAllTo_of_connected h]
    split <;> exact hsending
  | false =>
    rw [sendAllTo_of_not_connected h]
    split
    · rw [← hsending]
      exact (datagrams_append _ _).trans (List.append_nil _)
    · exact hsending

/-! ## Pings -/

/-- The call leaves the socket as it found it, and what it sent went to the address and port. -/
structure LeavesSocket (env : Env) (w : World) (data : List UInt8) (serverIp : CString)
    (port : UInt16) : Prop where
  dest : ∀ new, (sendAllTo env data serverIp port w).2.trace = w.trace ++ new →
    ∀ origin dest data', .datagram origin dest data' true ∈ new →
      env.sockAddr serverIp port = some dest
  connected : (sendAllTo env data serverIp port w).2.gameSocket.connected = w.gameSocket.connected
  destAddr : (sendAllTo env data serverIp port w).2.gameSocket.destAddr = w.gameSocket.destAddr

/-- The send of this call does not throw. -/
def SendReturns (env : Env) (w : World) : Prop :=
  env.sent w.sends = true ∨ env.target.android = true

theorem trace_sendAllTo (data : List UInt8) (serverIp : CString) (port : UInt16) :
    ∃ rest, (sendAllTo env data serverIp port w).2.trace = w.trace ++
        .datagram .sendAllTo (aim env w.gameSocket.destAddr serverIp port) data
          (env.sent w.sends) :: rest ∧
      (rest = [] ∨ rest = [.disconnected]) := by
  cases h : w.gameSocket.connected with
  | true =>
    rw [sendAllTo_of_connected h]
    split <;> exact ⟨[], rfl, .inl rfl⟩
  | false =>
    rw [sendAllTo_of_not_connected h]
    split
    · exact ⟨[.disconnected], List.append_assoc _ _ _, .inr rfl⟩
    · exact ⟨[], rfl, .inl rfl⟩

/-- The only datagram of the call goes astray exactly if the address is invalid. -/
theorem dest_sendAllTo_iff (data : List UInt8) (serverIp : CString) (port : UInt16) :
    (∀ new, (sendAllTo env data serverIp port w).2.trace = w.trace ++ new →
      ∀ origin dest data', .datagram origin dest data' true ∈ new →
        env.sockAddr serverIp port = some dest) ↔
      ((env.inetPton (cStr serverIp)).isSome = true ∨ env.sent w.sends = false) := by
  obtain ⟨rest, htrace, hrest⟩ := @trace_sendAllTo env w data serverIp port
  constructor
  · intro h
    cases hsent : env.sent w.sends with
    | false => exact .inr rfl
    | true =>
      rw [hsent] at htrace
      have hdest := h _ htrace _ _ _ List.mem_cons_self
      unfold Env.sockAddr at hdest
      cases hpton : env.inetPton (cStr serverIp) with
      | none => simp [hpton] at hdest
      | some addr => exact .inl rfl
  · intro hvalid new hnew origin dest data' hmem
    obtain rfl := List.append_cancel_left (htrace.symm.trans hnew)
    have hfirst : (.datagram origin dest data' true : Observation) =
        .datagram .sendAllTo (aim env w.gameSocket.destAddr serverIp port) data
          (env.sent w.sends) := by
      rcases List.mem_cons.mp hmem with hfirst | hlater
      · exact hfirst
      · rcases hrest with rfl | rfl <;> simp at hlater
    obtain ⟨rfl, rfl, rfl, hsent⟩ := Observation.datagram.inj hfirst
    rcases hvalid with hvalid | hfailed
    · obtain ⟨addr, haddr⟩ := Option.isSome_iff_exists.mp hvalid
      simp [Env.sockAddr, aim, haddr]
    · rw [hfailed] at hsent
      cases hsent

/-- **Pings**: a call leaves the socket as it found it exactly if the address is valid or nothing
was sent, the socket was aimed at the address before, or is connected and the send returns, and the
send of an unconnected socket to a valid address returns. -/
theorem leavesSocket_iff (env : Env) (w : World) (data : List UInt8) (serverIp : CString)
    (port : UInt16) :
    LeavesSocket env w data serverIp port ↔
      ((env.inetPton (cStr serverIp)).isSome = true ∨ env.sent w.sends = false) ∧
      (aim env w.gameSocket.destAddr serverIp port = w.gameSocket.destAddr ∨
        w.gameSocket.connected = true ∧ SendReturns env w) ∧
      (w.gameSocket.connected = true ∨ env.inetPton (cStr serverIp) = none ∨
        SendReturns env w) := by
  rw [← dest_sendAllTo_iff data]
  have hsocket : (sendAllTo env data serverIp port w).2.gameSocket.connected =
        w.gameSocket.connected ∧
      (sendAllTo env data serverIp port w).2.gameSocket.destAddr = w.gameSocket.destAddr ↔
      (aim env w.gameSocket.destAddr serverIp port = w.gameSocket.destAddr ∨
        w.gameSocket.connected = true ∧ SendReturns env w) ∧
      (w.gameSocket.connected = true ∨ env.inetPton (cStr serverIp) = none ∨
        SendReturns env w) := by
    cases hconnected : w.gameSocket.connected with
    | true =>
      rw [sendAllTo_of_connected hconnected]
      by_cases hreturns : env.sent w.sends = true ∨ env.target.android = true
      · rw [if_pos hreturns]
        simp [SendReturns, hconnected, hreturns]
      · rw [if_neg hreturns]
        simp [SendReturns, hconnected, hreturns, World.sending, aimed]
    | false =>
      rw [sendAllTo_of_not_connected hconnected]
      by_cases hreturns : env.sent w.sends = true ∨ env.target.android = true
      · rw [if_pos hreturns]
        simp [SendReturns, hreturns, GameSocket.disconnect, Call.bind_apply, modifySocket, observe,
          World.sending, aimed]
      · rw [if_neg hreturns]
        simp [SendReturns, hconnected, hreturns, World.sending, aimed, and_comm]
  exact ⟨fun h => ⟨h.dest, hsocket.mp ⟨h.connected, h.destAddr⟩⟩,
    fun h => ⟨h.1, (hsocket.mpr h.2).1, (hsocket.mpr h.2).2⟩⟩

/-- A client that is connected to 127.0.0.1:41001. -/
def connectedWorld : World :=
  let w := World.new 7 42 ⟨1, 1, 1, 1, 1, 1, 1, 1, 1, 1, false, []⟩ []
  { w with gameSocket := { w.gameSocket with
    connected := true
    destAddr := ⟨afInet, 41001, 0x0100007F⟩ } }

/-- A ping to the invalid address `x` goes to the host of the game server, at another port. -/
theorem invalid_ping_to_game_server :
    ¬LeavesSocket (.working []) connectedWorld [0] [120] 4202 := by
  intro h
  have hdest := h.dest [.datagram .sendAllTo ⟨afInet, 4202, 0x0100007F⟩ [0] true] rfl _ _ _
    List.mem_cons_self
  cases hdest

end UdpSocket

end Globed.Client
