import Globed.Client.Rules

/-!
# The main thread

`tMain` takes one message after another, and an exception that leaves its loop ends the process.
What it sends goes through a `try`, but for the `CheckIn` of `connectToServer`, and the addresses of
the game servers are parsed outside of one. `handleMessage_returns_iff` says for which addresses and
sends a message is survived.
-/

namespace Globed.Client

open Calls

section MainLoop

variable {env : Env} {w : World}

/-! ## Pings -/

/-- The address has no port, or a valid one. -/
def HasAddress (server : GameServer) : Prop :=
  ∃ address port, splitAddress server.address = .ok (address, port)

/-- The addresses of the servers to ping are all valid. -/
def AllHaveAddresses (gameServerId : CString) (gameServers : List GameServer) : Prop :=
  ∀ server ∈ gameServers, server.id ≠ gameServerId → HasAddress server

/-- The addresses are parsed before the first ping is sent. -/
theorem pingAddresses_ok_iff (gameServerId : CString) (gameServers : List GameServer) :
    (∃ addresses, NetworkHandler.pingAddresses gameServerId gameServers = .ok addresses) ↔
      AllHaveAddresses gameServerId gameServers := by
  unfold NetworkHandler.pingAddresses
  generalize (FiniteMap.empty : FiniteMap CString (CString × UInt16)) = addresses
  induction gameServers generalizing addresses with
  | nil => exact ⟨fun _ _ hmem => (nomatch hmem), fun _ => ⟨addresses, rfl⟩⟩
  | cons server gameServers ih =>
    rw [List.foldlM_cons, AllHaveAddresses, List.forall_mem_cons]
    by_cases hid : server.id = gameServerId
    · rw [if_pos (beq_iff_eq.mpr hid)]
      exact (ih addresses).trans ⟨fun h => ⟨fun hne => absurd hid hne, h⟩, fun h => h.2⟩
    · rw [if_neg (by rwa [beq_iff_eq])]
      cases hsplit : splitAddress server.address with
      | error e =>
        constructor
        · rintro ⟨_, hok⟩
          cases hok
        · intro h
          obtain ⟨address, port, hok⟩ := h.1 hid
          rw [hsplit] at hok
          cases hok
      | ok address =>
        refine (ih (addresses.insertIfNew server.id address)).trans ?_
        exact ⟨fun h => ⟨fun _ => ⟨address.1, address.2, hsplit⟩, h⟩, fun h => h.2⟩

/-- A ping that fails is caught. -/
theorem pingAllServers_returns_iff :
    (NetworkHandler.pingAllServers env w).1 = .ok ⟨⟩ ↔
      AllHaveAddresses w.gameServerId w.gameServers := by
  rw [← pingAddresses_ok_iff, NetworkHandler.pingAllServers, Call.bind_of_ok (Call.get_apply w)]
  cases haddresses : NetworkHandler.pingAddresses w.gameServerId w.gameServers with
  | error e =>
    constructor
    · intro h
      cases h
    · rintro ⟨_, hok⟩
      cases hok
  | ok addresses =>
    rw [Call.bind_of_ok (Call.lift_apply _ w)]
    refine ⟨fun _ => ⟨addresses, rfl⟩, fun _ => ?_⟩
    have hping : ∀ target, Returns (fun _ => True) (NetworkHandler.pingServer env target)
        fun _ _ => True :=
      fun target => Returns.caught fun _ _ => trivial
    obtain ⟨⟨⟩, hok, -⟩ := Returns.forM (J := fun _ _ => True) (addresses.entries env.order)
      (fun _ target _ => hping target) w trivial
    exact hok

/-! ## Connecting -/

/-- After a disconnect there is no game server. -/
theorem gameServerId_disconnect (env : Env) (quiet save : Bool) :
    Returns (fun _ => True) (NetworkHandler.disconnect env quiet save)
      fun _ w => w.gameServerId = [] := by
  apply returns_disconnect
  · exact fun _ _ _ => trivial
  · exact fun _ _ => trivial
  · exact fun _ _ _ => trivial
  · intro w _
    exact ⟨⟨⟩, rfl, rfl⟩

/-- A socket that is not connected has nothing to say when it is disconnected. -/
theorem disconnect_of_not_connected (env : Env) (h : w.gameSocket.connected = false)
    (save : Bool) :
    ∃ w', NetworkHandler.disconnect env false save w = (.ok ⟨⟩, w') ∧
      w'.sends = w.sends ∧ w'.gameServers = w.gameServers := by
  have hsay : NetworkHandler.sayDisconnect env false w = (.ok ⟨⟩, w) := by
    have hsocket : getSocket w = (.ok w.gameSocket, w) := rfl
    rw [NetworkHandler.sayDisconnect, Call.bind_of_ok hsocket, h]
    rfl
  rw [NetworkHandler.disconnect, Call.bind_of_ok hsay]
  unfold NetworkHandler.clearLastServer NetworkHandler.keepPing
  cases save <;> cases hestablished : w.gameSocket.established <;>
    refine ⟨_, rfl, ?_, ?_⟩ <;> simp [hestablished]

/-- The call returns exactly if the send with this number does. -/
def ReturnsWith {α : Type} (env : Env) (n : Nat) (c : Net α) : Prop :=
  Triple (fun w => w.sends = n) c fun r _ =>
    (∃ x, r = .ok x) ↔ env.sent n = true ∨ env.target.android = true

theorem returnsWith_sendCheckIn (env : Env) (n : Nat) :
    ReturnsWith env n (GameSocket.sendCheckIn env) := by
  rintro w rfl
  have hsocket : getSocket w = (.ok w.gameSocket, w) := rfl
  have hdata : (Call.gets fun w => w.accountData : Net _) w = (.ok w.accountData, w) := rfl
  rw [GameSocket.sendCheckIn, Call.bind_of_ok hsocket, Call.bind_of_ok hdata, GameSocket.sendBuf,
    UdpSocket.sendAll_apply]
  split
  · next h => exact ⟨fun _ => h, fun _ => ⟨_, rfl⟩⟩
  · next h => exact ⟨fun ⟨_, hok⟩ => (nomatch hok), fun h' => absurd h' h⟩

/-- What follows a send and returns. -/
theorem ReturnsWith.bind {α β : Type} {n : Nat} {c : Net α} {f : α → Net β}
    (hc : ReturnsWith env n c) (hf : ∀ x, Returns (fun _ => True) (f x) fun _ _ => True) :
    ReturnsWith env n (c >>= f) := by
  refine Triple.bind hc (fun x w hiff => ?_) fun e w hiff => ?_
  · obtain ⟨y, hy, -⟩ := hf x w trivial
    exact ⟨fun _ => hiff.mp ⟨x, rfl⟩, fun _ => ⟨y, hy⟩⟩
  · exact ⟨fun ⟨_, hok⟩ => (nomatch hok), fun h => (nomatch (hiff.mpr h).choose_spec)⟩

theorem ReturnsWith.after {α : Type} {n : Nat} {c : Net α} (hc : ReturnsWith env n c)
    {f : World → World} (hsends : ∀ w, (f w).sends = w.sends := by intro _; rfl) :
    ReturnsWith env n (modify f >>= fun _ => c) :=
  Returns.triple (Returns.modify fun w hw => (hsends w).trans hw) fun _ => hc

/-- A `CheckIn` is sent only to a valid address, and its send has to return. -/
theorem connectTo_returns_iff (server : GameServer) :
    (∃ connected, (NetworkHandler.connectTo env server w).1 = .ok connected) ↔
      ∃ address port, splitAddress server.address = .ok (address, port) ∧
        ((env.inetPton (cStr address)).isSome = true → UdpSocket.SendReturns env w) := by
  unfold NetworkHandler.connectTo
  cases hsplit : splitAddress server.address with
  | error e =>
    constructor
    · rintro ⟨_, hok⟩
      cases hok
    · rintro ⟨_, _, hok, -⟩
      cases hok
  | ok split =>
    obtain ⟨address, port⟩ := split
    have hiff : (∃ address' port', (.ok (address, port) : Except Failure _) =
        .ok (address', port') ∧ ((env.inetPton (cStr address')).isSome = true →
          UdpSocket.SendReturns env w)) ↔
        ((env.inetPton (cStr address)).isSome = true → UdpSocket.SendReturns env w) := by
      simp
    rw [hiff, Call.bind_of_ok (Call.lift_apply _ w)]
    dsimp only
    rw [Call.bind_of_ok (UdpSocket.connect_apply _ _)]
    cases hvalid : (env.inetPton (cStr address)).isSome with
    | false => exact ⟨fun _ h => (nomatch h), fun _ => ⟨false, rfl⟩⟩
    | true =>
      have hrest : ∀ _ : Unit, Returns (fun _ => True)
          (do modify fun w => { w with lastServerId := server.id }; return true : Net Bool)
          fun _ _ => True := by
        intro _ w _
        exact ⟨true, rfl, trivial⟩
      have hcheckIn := (returnsWith_sendCheckIn env w.sends).bind hrest
      have hname := hcheckIn.after (f := fun w => { w with gameServerId := server.id })
      have hobserve := hname.after (f := fun w =>
        { w with trace := w.trace ++ [.connected address (if port = 0 then 41001 else port)] })
      exact (hobserve (UdpSocket.aimed env w address _) rfl).trans ⟨fun h _ => h, fun h => h rfl⟩

/-! ## Messages -/

/-- What a message needs to be survived: the addresses that are parsed for it are valid, and if a
`CheckIn` is sent for it, then its send returns. -/
def Survivable (env : Env) (w : World) (accountId : Int32) (answer : Option (List GameServer)) :
    NetworkThreadMessage → Prop
  | .centralServerChanged _ =>
    AllHaveAddresses (if w.gameSocket.established then [] else w.gameServerId) (answer.getD [])
  | .menuLayerEntry =>
    accountId ≠ 0 → w.lastServerId ≠ [] → w.gameSocket.connected = false →
      ∀ server, (w.gameServers.find? fun server => server.id == w.lastServerId) = some server →
        ∃ address port, splitAddress server.address = .ok (address, port) ∧
          ((env.inetPton (cStr address)).isSome = true → UdpSocket.SendReturns env w)
  | .pingServers => AllHaveAddresses w.gameServerId w.gameServers
  | _ => True

theorem gameServerId_leaveServer :
    ∃ w', NetworkHandler.leaveServer env w = (.ok ⟨⟩, w') ∧
      w'.gameServerId = if w.gameSocket.established then [] else w.gameServerId := by
  have hsocket : getSocket w = (.ok w.gameSocket, w) := rfl
  rw [NetworkHandler.leaveServer, Call.bind_of_ok hsocket]
  cases w.gameSocket.established with
  | true =>
    obtain ⟨⟨⟩, hok, hid⟩ := gameServerId_disconnect env false true w trivial
    exact ⟨_, Prod.ext hok rfl, hid⟩
  | false => exact ⟨w, rfl, rfl⟩

theorem centralServerChanged_returns_iff (accountId : Int32) (answer : Option (List GameServer))
    (server : CString) :
    (NetworkHandler.handleMessage env accountId answer (.centralServerChanged server) w).1 =
        .ok ⟨⟩ ↔
      AllHaveAddresses (if w.gameSocket.established then [] else w.gameServerId)
        (answer.getD []) := by
  obtain ⟨w', hleave, hid⟩ := @gameServerId_leaveServer env w
  rw [NetworkHandler.handleMessage, Call.bind_of_ok hleave, ← hid]
  cases answer with
  | none =>
    exact @pingAllServers_returns_iff env { w' with gameServersPings := .empty, gameServers := [] }
  | some gameServers =>
    exact @pingAllServers_returns_iff env { w' with gameServersPings := .empty, gameServers }

theorem connectToServer_returns_iff (env : Env) (h : w.gameSocket.connected = false)
    (id : CString) :
    (∃ connected, (NetworkHandler.connectToServer env id w).1 = .ok connected) ↔
      ∀ server, (w.gameServers.find? fun server => server.id == id) = some server →
        ∃ address port, splitAddress server.address = .ok (address, port) ∧
          ((env.inetPton (cStr address)).isSome = true → UdpSocket.SendReturns env w) := by
  obtain ⟨w', hleft, hsends, hservers⟩ := disconnect_of_not_connected env h false
  have hget : (Call.gets fun w => w.gameServers : Net _) w' = (.ok w.gameServers, w') := by
    rw [Call.gets_apply, hservers]
  rw [NetworkHandler.connectToServer, Call.bind_of_ok hleft, Call.bind_of_ok hget]
  cases hfind : w.gameServers.find? fun server => server.id == id with
  | none => exact ⟨fun _ _ hnone => (nomatch hnone), fun _ => ⟨false, rfl⟩⟩
  | some server =>
    refine (connectTo_returns_iff server).trans ?_
    unfold UdpSocket.SendReturns
    rw [hsends]
    exact ⟨fun h _ hsome => Option.some.inj hsome ▸ h, fun h => h server rfl⟩

theorem menuLayerEntry_returns_iff (accountId : Int32) (answer : Option (List GameServer)) :
    (NetworkHandler.handleMessage env accountId answer .menuLayerEntry w).1 = .ok ⟨⟩ ↔
      Survivable env w accountId answer .menuLayerEntry := by
  let w₁ : World := { w with gameSocket := { w.gameSocket with accountId } }
  have hid : modifySocket (fun socket => { socket with accountId }) w = (.ok ⟨⟩, w₁) := rfl
  rw [NetworkHandler.handleMessage, Call.bind_of_ok hid]
  unfold Survivable
  by_cases haccount : accountId = 0
  · obtain ⟨⟨⟩, hok, -⟩ := gameServerId_disconnect env true true w₁ trivial
    rw [if_pos haccount]
    exact ⟨fun _ hne => absurd haccount hne, fun _ => hok⟩
  · rw [if_neg haccount, Call.bind_of_ok (Call.get_apply w₁)]
    by_cases hconnects : w₁.lastServerId ≠ [] ∧ w₁.gameSocket.connected = false
    · rw [if_pos hconnects]
      have hiff := connectToServer_returns_iff env hconnects.2 w₁.lastServerId
      have hreturns : ((NetworkHandler.connectToServer env w₁.lastServerId >>= fun _ =>
          (pure ⟨⟩ : Net Unit)) w₁).1 = .ok ⟨⟩ ↔
            ∃ connected, (NetworkHandler.connectToServer env w₁.lastServerId w₁).1 =
              .ok connected := by
        rw [Call.bind_apply]
        rcases NetworkHandler.connectToServer env w₁.lastServerId w₁ with ⟨e | connected, w₂⟩
        · exact ⟨fun h => (nomatch h), fun ⟨_, h⟩ => (nomatch h)⟩
        · exact ⟨fun _ => ⟨connected, rfl⟩, fun _ => rfl⟩
      refine hreturns.trans (hiff.trans ?_)
      exact ⟨fun h _ _ _ => h, fun h => h haccount hconnects.1 hconnects.2⟩
    · rw [if_neg hconnects]
      exact ⟨fun _ _ hlast hnot => absurd ⟨hlast, hnot⟩ hconnects, fun _ => rfl⟩

/-- **Messages**: no exception leaves the loop of the main thread exactly if the addresses that a
message makes it parse are valid, and it sends a `CheckIn` only in a send that returns. -/
theorem handleMessage_returns_iff (env : Env) (w : World) (accountId : Int32)
    (answer : Option (List GameServer)) (message : NetworkThreadMessage) :
    (NetworkHandler.handleMessage env accountId answer message w).1 = .ok ⟨⟩ ↔
      Survivable env w accountId answer message := by
  have hpacket : ∀ message, ((do
      let socket ← getSocket
      if socket.established then
        tryCatch (GameSocket.sendMessage env message) fun _ => pure ()
      else pure () : Net Unit) w).1 = .ok ⟨⟩ ↔ True := by
    intro message
    have hreturns : Returns (fun _ => True) _ fun _ _ => True :=
      returns_sendPacket env (fun _ _ _ => trivial) message
    obtain ⟨⟨⟩, hok, -⟩ := hreturns w trivial
    exact ⟨fun _ => trivial, fun _ => hok⟩
  cases message with
  | centralServerChanged server =>
    exact centralServerChanged_returns_iff accountId answer server
  | menuLayerEntry => exact menuLayerEntry_returns_iff accountId answer
  | pingServers => exact pingAllServers_returns_iff
  | playerLevelEntry levelID => exact hpacket _
  | playerLevelExit => exact hpacket _
  | playerData data => exact hpacket _
  | requestPlayerAccount playerId => exact hpacket _
  | requestLevelList => exact hpacket _
  | spectatingNoData => exact hpacket _
  | sendTextMessage message => exact hpacket _

/-- A client that knows one server, at `a:x`. -/
def badPortWorld : World :=
  .new 7 42 ⟨1, 1, 1, 1, 1, 1, 1, 1, 1, 1, false, []⟩ [⟨[], [115], [], [97, 58, 120]⟩]

/-- The list of servers has an address with a port that is no number. -/
theorem pingServers_with_bad_port :
    (NetworkHandler.handleMessage (.working []) 7 none .pingServers badPortWorld).1 =
      .error (.invalidArgument "invalid port number") := rfl

end MainLoop

end Globed.Client
