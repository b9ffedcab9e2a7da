import Globed.Client.NetworkHandler

/-!
# Rules for the calls of the client

An invariant of the world is kept by a call if it is kept by what the call is made of. Here are the
calls that more than one invariant is proved of: what `recvPacket` reads, sending, disconnecting,
what `tRecv` does with a packet, and a round of `tKeepalive`.
-/

namespace Globed.Client

open Calls

/-! ## Reading -/

/-- A method that reads from a buffer keeps `I`. -/
def ParseKeeps {α : Type} (I : World → Prop) (d : Parse α) : Prop := ∀ buf, Keeps I (d buf)

section ParseKeeps

variable {α β : Type} {I : World → Prop}

theorem ParseKeeps.bind {d : Parse α} {f : α → Parse β} (hd : ParseKeeps I d)
    (hf : ∀ x, ParseKeeps I (f x)) : ParseKeeps I (d >>= f) :=
  fun buf => (hd buf).bind fun r => hf r.1 r.2

theorem ParseKeeps.pure (x : α) : ParseKeeps I (pure x : Parse α) := fun _ => Keeps.pure _

theorem ParseKeeps.throw (e : Failure) : ParseKeeps I (throw e : Parse α) := fun _ => Keeps.throw e

theorem ParseKeeps.lift (d : Reader α) : ParseKeeps I (liftM d : Parse α) := fun _ => Keeps.lift _

theorem ParseKeeps.call {c : Net α} (hc : Keeps I c) : ParseKeeps I (liftM c : Parse α) :=
  fun _ => hc.bind fun _ => Keeps.pure _

end ParseKeeps

/-- Reading a packet reads clocks, and forgets a ping that was answered. -/
theorem ParseKeeps.parseBody {env : Env} {I : World → Prop} {packetType : PacketType}
    (htick : ∀ readings : Nat → Time, Keeps I (readNext readings))
    (herase : packetType = .pingResponse → ∀ pingId, Keeps I (modifySocket fun socket =>
      { socket with pingTimes := socket.pingTimes.erase pingId })) :
    ParseKeeps I (GameSocket.parseBody env packetType) := by
  cases packetType
  case checkedIn => exact (ParseKeeps.lift _).bind fun _ => ParseKeeps.pure _
  case keepaliveResponse =>
    refine (ParseKeeps.call (htick _)).bind fun _ => ?_
    refine (ParseKeeps.call (Keeps.gets _)).bind fun _ => ?_
    exact (ParseKeeps.lift _).bind fun _ => ParseKeeps.pure _
  case serverDisconnect => exact (ParseKeeps.lift _).bind fun _ => ParseKeeps.pure _
  case levelData =>
    refine (ParseKeeps.lift _).bind fun _ => (ParseKeeps.call (Keeps.gets _)).bind fun _ => ?_
    exact (ParseKeeps.lift _).bind fun _ => ParseKeeps.pure _
  case pingResponse =>
    refine (ParseKeeps.call (htick _)).bind fun _ => (ParseKeeps.lift _).bind fun _ => ?_
    refine (ParseKeeps.call (Keeps.gets _)).bind fun _ => ?_
    split
    · exact ParseKeeps.throw _
    · refine (ParseKeeps.lift _).bind fun _ => ?_
      refine (ParseKeeps.call (herase rfl _)).bind fun _ => ?_
      exact ParseKeeps.pure _
  case playerAccountDataResponse =>
    exact (ParseKeeps.lift _).bind fun _ => (ParseKeeps.lift _).bind fun _ => ParseKeeps.pure _
  case levelListResponse =>
    exact (ParseKeeps.lift _).bind fun _ => (ParseKeeps.lift _).bind fun _ => ParseKeeps.pure _
  case textMessageSent =>
    exact (ParseKeeps.lift _).bind fun _ => (ParseKeeps.lift _).bind fun _ => ParseKeeps.pure _
  case serverBroadcast =>
    refine (ParseKeeps.lift _).bind fun _ => (ParseKeeps.lift _).bind fun _ => ?_
    exact (ParseKeeps.lift _).bind fun _ => (ParseKeeps.lift _).bind fun _ => ParseKeeps.pure _
  all_goals exact ParseKeeps.throw _

theorem ParseKeeps.parsePacket {env : Env} {I : World → Prop}
    (htick : ∀ readings : Nat → Time, Keeps I (readNext readings))
    (herase : ∀ pingId, Keeps I (modifySocket fun socket =>
      { socket with pingTimes := socket.pingTimes.erase pingId })) :
    ParseKeeps I (GameSocket.parsePacket env) := by
  refine (ParseKeeps.lift _).bind fun _ => (ParseKeeps.lift _).bind fun packetType => ?_
  exact ParseKeeps.parseBody htick fun _ => herase

/-! ## Sending and disconnecting -/

section Rules

variable {env : Env} {I J : World → Prop}

theorem keeps_sendHeartbeat (htick : ∀ readings : Nat → Time, Keeps I (readNext readings))
    (hset : ∀ now, Keeps I (modifySocket fun socket => { socket with keepAliveTime := now }))
    (hsend : ∀ socket,
      Keeps I (GameSocket.sendBuf env (GameSocket.packet env socket .keepalive))) :
    Keeps I (GameSocket.sendHeartbeat env) := by
  apply Keeps.bind (Keeps.gets _)
  intro socket
  apply Keeps.bind (htick _)
  intro now
  exact (hset now).bind fun _ => hsend socket

/-- A message that is not a ping is made from the state, and sent. -/
theorem keeps_send {message : Message}
    (hmessage : ∀ serverId serverIp port, message ≠ .ping serverId serverIp port)
    (htick : ∀ readings : Nat → Time, Keeps I (readNext readings))
    (hset : ∀ now, Keeps I (modifySocket fun socket => { socket with keepAliveTime := now }))
    (hsend : ∀ buf, Keeps I (GameSocket.sendBuf env buf)) : Keeps I (message.send env) := by
  cases message with
  | queued message => exact (Keeps.gets _).bind fun _ => (Keeps.lift _).bind hsend
  | heartbeat => exact keeps_sendHeartbeat htick hset fun _ => hsend _
  | checkIn => exact (Keeps.gets _).bind fun _ => (Keeps.gets _).bind fun _ => hsend _
  | accountDataRequest playerId => exact (Keeps.gets _).bind fun _ => hsend _
  | disconnect => exact (Keeps.gets _).bind fun _ => hsend _
  | ping serverId serverIp port => exact absurd rfl (hmessage serverId serverIp port)

/-- What `tMain` does with a message that is a packet. -/
theorem returns_sendPacket (env : Env) (hsend : ∀ buf, Keeps I (GameSocket.sendBuf env buf))
    (message : NetworkThreadMessage) :
    Returns I (do
      let socket ← getSocket
      if socket.established then
        tryCatch (GameSocket.sendMessage env message) fun _ => pure ()
      else pure ()) fun _ => I := by
  refine (Returns.gets _).bind fun _ => Returns.ite (Returns.caught ?_) (Returns.pure fun _ h => h)
  exact Keeps.bind (Keeps.gets _) fun _ => (Keeps.lift _).bind hsend

/-- What is sent, saved and kept leaves `I`, and closing the socket makes `J` of it. -/
theorem returns_disconnect {quiet save : Bool}
    (hsend : ∀ socket,
      Keeps I (GameSocket.sendBuf env (GameSocket.packet env socket .disconnect)))
    (hsave : ∀ w, I w → I { w with lastServerId := [] })
    (hpings : ∀ w pings, I w → I { w with gameServersPings := pings })
    (hclose : Returns I (do
      GameSocket.disconnect
      modify fun w => { w with
        gameServerPlayerCount := 0
        gameServerPing := -1
        gameServerTps := 0
        gameServerLastHeartbeat := 0
        gameServerId := [] }) fun _ => J) :
    Returns I (NetworkHandler.disconnect env quiet save) fun _ => J := by
  have hsay : Returns I (NetworkHandler.sayDisconnect env quiet) fun _ => I := by
    apply Returns.bind (Returns.gets _)
    intro socket
    refine Returns.ite (Returns.caught ?_) (Returns.pure fun _ h => h)
    exact Keeps.bind (Keeps.gets _) hsend
  have hclear : Returns I (NetworkHandler.clearLastServer save) fun _ => I :=
    Returns.ite (Returns.modify hsave) (Returns.pure fun _ h => h)
  have hkeep : Returns I NetworkHandler.keepPing fun _ => I := by
    apply Returns.modify
    intro w h
    split
    · exact hpings w _ h
    · exact h
  exact hsay.bind fun _ => hclear.bind fun _ => hkeep.bind fun _ => hclose

/-- A packet sets `established`, changes what is shown of the servers, or ends the connection. -/
theorem keeps_handlePacket
    (hestablish : Keeps I (modifySocket fun socket => { socket with established := true }))
    (hshown : ∀ w w', w'.gameSocket = w.gameSocket → w'.trace = w.trace → I w → I w')
    (htick : ∀ readings : Nat → Time, Keeps I (readNext readings))
    (hdisconnect : Keeps I (NetworkHandler.disconnect env true true)) (packet : RecvPacket) :
    Keeps I (NetworkHandler.handlePacket env packet) := by
  cases packet with
  | checkedIn tps =>
    refine hestablish.bind fun _ => Keeps.bind (Keeps.modify fun w hw => ?_) fun _ => ?_
    · split
      · exact hshown w _ rfl rfl hw
      · exact hw
    · exact Keeps.modify fun w hw => hshown w _ rfl rfl hw
  | keepaliveResponse playerCount ping =>
    refine Keeps.bind (Keeps.modify fun w hw => hshown w _ rfl rfl hw) fun _ => ?_
    have hnow : Keeps I (NetworkHandler.timestampMs env) := (htick _).bind fun _ => Keeps.pure _
    exact hnow.bind fun _ => Keeps.modify fun w hw => hshown w _ rfl rfl hw
  | serverDisconnect message => exact hdisconnect
  | pingResponse serverId playerCount ping =>
    exact Keeps.modify fun w hw => hshown w _ rfl rfl hw
  | levelData players => exact Keeps.pure _
  | accountDataResponse playerId data => exact Keeps.pure _
  | levelListResponse levels => exact Keeps.pure _
  | textMessage sender message => exact Keeps.pure _
  | serverMessage message color => exact Keeps.pure _

/-- A round of `tKeepalive` leaves `I`, unless it disconnects. -/
theorem triple_keepaliveRound (hheartbeat : Keeps I (GameSocket.sendHeartbeat env))
    (htick : ∀ readings : Nat → Time, Keeps I (readNext readings))
    (hdisconnect : Triple I (NetworkHandler.disconnect env true true) fun _ => J)
    (hstay : ∀ w, I w → J w) : Triple I (NetworkHandler.keepaliveRound env) fun _ => J := by
  have hcheck : Triple I (NetworkHandler.checkHeartbeat env) fun _ => J := by
    refine (Returns.gets _).triple fun lastHb => Triple.ite (fun _ => hstay) fun _ => ?_
    have hnow : Keeps I (NetworkHandler.timestampMs env) := (htick _).bind fun _ => Keeps.pure _
    refine Triple.bind hnow (fun now => ?_) fun _ => hstay
    exact Triple.ite (fun _ => hdisconnect) fun _ => hstay
  refine (Returns.gets _).triple fun socket => Triple.ite (fun _ => ?_) fun _ => hstay
  exact (Returns.caught hheartbeat).triple fun _ => hcheck

end Rules

end Globed.Client
