import Globed.Client.GameSocket
import Globed.Server.System
import Globed.Wire.Players

/-!
# From the client to the server

Every packet that the client sends is one that `handle_packet` takes for what it is: it reads the
kind, the credentials and the values that the client wrote, nothing is left to read, and what it
does is the task on these values.
-/

namespace Globed.Client

open Bytes Calls

/-! ## The messages of the client -/

namespace Message

/-- The message is not one of those that the network thread handles itself. -/
def Sendable : Message → Prop
  | queued .menuLayerEntry | queued .pingServers | queued (.centralServerChanged _) => False
  | _ => True

/-- The packet that is sent. -/
def buffer (env : Env) (w : World) : Message → Except Failure ByteBuffer
  | queued message => GameSocket.messagePacket env w.gameSocket message
  | heartbeat => .ok (GameSocket.packet env w.gameSocket .keepalive)
  | checkIn =>
    .ok (encodeAccountData env.target w.accountData (GameSocket.packet env w.gameSocket .checkIn))
  | accountDataRequest playerId =>
    .ok ((GameSocket.packet env w.gameSocket .playerAccountDataRequest).writeI32
      env.target playerId)
  | disconnect => .ok (GameSocket.packet env w.gameSocket .disconnect)
  | ping _ _ _ => .ok (GameSocket.pingPacket env (env.draw w.ticks))

theorem datagrams_send {env : Env} {w : World} {message : Message} {buf : ByteBuffer}
    (h : message.buffer env w = .ok buf) :
    datagrams (message.send env w).2.trace = datagrams w.trace ++ [buf.data] := by
  have hsocket : getSocket w = (.ok w.gameSocket, w) := rfl
  have hbuf : ∀ w' : World, w'.trace = w.trace →
      datagrams (GameSocket.sendBuf env buf w').2.trace = datagrams w.trace ++ [buf.data] := by
    intro w' hw'
    rw [GameSocket.sendBuf, UdpSocket.sendAll_apply, UdpSocket.datagrams_sending, hw']
  cases message with
  | queued message =>
    have hlift : (liftM (GameSocket.messagePacket env w.gameSocket message) : Net ByteBuffer) w =
        (.ok buf, w) := by
      rw [Call.lift_apply]
      exact congrArg (·, w) h
    change datagrams (GameSocket.sendMessage env message w).2.trace = _
    rw [GameSocket.sendMessage, Call.bind_of_ok hsocket, Call.bind_of_ok hlift]
    exact hbuf w rfl
  | heartbeat =>
    obtain rfl := Except.ok.inj h
    exact hbuf _ rfl
  | checkIn =>
    obtain rfl := Except.ok.inj h
    exact hbuf _ rfl
  | accountDataRequest playerId =>
    obtain rfl := Except.ok.inj h
    exact hbuf _ rfl
  | disconnect =>
    obtain rfl := Except.ok.inj h
    exact hbuf _ rfl
  | ping serverId serverIp port =>
    obtain rfl := Except.ok.inj h
    exact UdpSocket.datagrams_sendAllTo _ _ _

end Message

end Globed.Client

namespace Globed.Server

open Bytes Bytebuffer

/-! ## What the server does with what it has read

The tasks of `server.rs` and of the handlers once more, over values in the place of the reader: no
byte of the packet is left in them.
-/

section Heeded

variable [Bytebuffer]

/-- What only the client with these credentials gets done. -/
def asClient (peer : SocketAddr) (socket : Client.GameSocket) (act : Task Unit) : Task Unit :=
  if socket.accountId = 0 then
    sendBufTo peer (serverDisconnect
      "You have to sign into a Geometry Dash account before connecting. If you already are, please restart your game.")
  else do
    verifySecretKeyOrDisconnect socket.accountId socket.secretKey peer
    act

/-- Sign the client in with this account data. -/
def signIn (settings : ServerSettings) (peer : SocketAddr) (socket : Client.GameSocket)
    (data : PlayerAccountData) : Task Unit :=
  if socket.accountId = 0 then
    sendBufTo peer (serverDisconnect
      "You have to sign into a Geometry Dash account before connecting. If you already are, please restart your game.")
  else do
    match ← perform (.addClient socket.accountId peer socket.secretKey) with
    | .ok _ =>
      if !data.isValid then
        sendBufTo peer (serverDisconnect
          "Invalid data was passed. Contact the developer if you think this is wrong.")
        let _ ← perform (.takeClient socket.accountId)
      else if ← perform (.setPlayerData socket.accountId data) then
        sendTo socket.accountId (checkedIn settings)
      else anyhow "this should never happen, src/server.rs:341"
    | .error e => sendBufTo peer (serverDisconnect e.toString)

/-- Move the client to the level that `levelID` stands for. -/
def enterLevel (clientId levelID : Int32) : Task Unit := do
  match ← perform (.nameAndLevel clientId) with
  | none => anyhow "this should never happen, src/handlers/level.rs:21"
  | some (name, levelId) =>
    leaveLevel clientId levelId
    broadcastMessage s!"{name} joined" (30, 200, 30) (some (levelIdOfPacket levelID))
    addClientToLevel clientId (levelIdOfPacket levelID)

/-- Keep what a client said of itself, if it is on a level and said anything. -/
def keepData (clientId levelId : Int32) : Option PlayerData → Task Unit
  | some data => do
    if levelId ≠ -1 then
      if ← perform (.storePlayerData clientId levelId data) then pure ()
      else anyhow "this should never happen, src/handlers/level.rs:94"
    else pure ()
  | none => pure ()

/-- Keep what a client said of itself and answer with its level. -/
def updateData (settings : ServerSettings) (clientId : Int32) (data : Option PlayerData) :
    Task Unit := do
  match ← perform (.levelIdOf clientId) with
  | none => anyhow "this happens with malformed user input, src/handlers/level.rs:81"
  | some levelId =>
    keepData clientId levelId data
    answerLevel settings clientId levelId

/-- Tell the client the account data of this player. -/
def tellAccount (clientId playerId : Int32) : Task Unit := do
  match ← perform (.accountData playerId) with
  | none => anyhow "user requested account data of non-existing player"
  | some icons => sendTo clientId (playerAccountDataResponse playerId icons)

/-- Pass the text on in the name of the client. -/
def passText (clientId : Int32) (text : String) : Task Unit := do
  let _ ← perform (.senderInfo clientId)
  broadcastUserMessage clientId text

/-- Answer a ping with this number. -/
def answerPing (peer : SocketAddr) (pingId : Int32) : Task Unit := do
  let clients ← perform .clientCount
  sendBufTo peer (pingResponse pingId clients)

end Heeded

/-! ## What the server takes a packet for -/

section Understood

variable [Bytebuffer]

/-- `d` reads `x`, and nothing is left to read. -/
def ReadsAll {α : Type} (d : Decoder ByteReader α) (r : ByteReader) (x : α) : Prop :=
  ∃ r', d r = some (x, r') ∧ (remaining r').exhausted = true

/-- The bytes are taken for a packet of this kind with these credentials, followed by `payload`, and
`act` is all that the server does about it. -/
def TakenFor (settings : ServerSettings) (peer : SocketAddr) (buf : List UInt8)
    (ptype : ClientPacketKind) (socket : Client.GameSocket) (payload : ByteReader → Prop)
    (act : Task Unit) : Prop :=
  ∃ r, header buf = some (ptype, socket.accountId, socket.secretKey, r) ∧
    handlePacket settings buf peer = act ∧ payload r

/-- Nothing follows. -/
def NoPayload (r : ByteReader) : Prop := (remaining r).exhausted = true

/-- The server takes the bytes for the message that the client sent in the state `w`, and does what
it asks for with the values that the client wrote. -/
def Understands (settings : ServerSettings) (peer : SocketAddr) (buf : List UInt8)
    (env : Client.Env) (w : Client.World) : Client.Message → Prop
  | .queued (.playerData data) =>
    TakenFor settings peer buf .userLevelData w.gameSocket
      (ReadsAll PlayerData.decode · data.toServer)
      (asClient peer w.gameSocket
        (updateData settings w.gameSocket.accountId (some data.toServer)))
  | .queued (.playerLevelEntry levelID) =>
    TakenFor settings peer buf .userLevelEntry w.gameSocket (ReadsAll readI32 · levelID)
      (asClient peer w.gameSocket (enterLevel w.gameSocket.accountId levelID))
  | .queued .playerLevelExit =>
    TakenFor settings peer buf .userLevelExit w.gameSocket NoPayload
      (asClient peer w.gameSocket (onUserlevelexit w.gameSocket.accountId))
  | .queued (.requestPlayerAccount playerId) =>
    TakenFor settings peer buf .playerAccountDataRequest w.gameSocket (ReadsAll readI32 · playerId)
      (asClient peer w.gameSocket (tellAccount w.gameSocket.accountId playerId))
  | .queued .requestLevelList =>
    TakenFor settings peer buf .levelListRequest w.gameSocket NoPayload
      (asClient peer w.gameSocket (onLevellistrequest w.gameSocket.accountId))
  | .queued .spectatingNoData =>
    TakenFor settings peer buf .spectateNoData w.gameSocket NoPayload
      (asClient peer w.gameSocket (updateData settings w.gameSocket.accountId none))
  | .queued (.sendTextMessage message) =>
    ∀ text, fromUtf8 message = some text →
      TakenFor settings peer buf .sendTextMessage w.gameSocket (ReadsAll readString · text)
        (asClient peer w.gameSocket (passText w.gameSocket.accountId text))
  | .queued .menuLayerEntry | .queued .pingServers | .queued (.centralServerChanged _) => False
  | .heartbeat =>
    TakenFor settings peer buf .keepalive w.gameSocket NoPayload
      (asClient peer w.gameSocket (onKeepalive w.gameSocket.accountId))
  | .checkIn =>
    ∀ name, fromUtf8 w.accountData.name = some name →
      TakenFor settings peer buf .checkIn w.gameSocket
        (ReadsAll PlayerAccountData.decode · (w.accountData.toServer name))
        (signIn settings peer w.gameSocket (w.accountData.toServer name))
  | .accountDataRequest playerId =>
    TakenFor settings peer buf .playerAccountDataRequest w.gameSocket (ReadsAll readI32 · playerId)
      (asClient peer w.gameSocket (tellAccount w.gameSocket.accountId playerId))
  | .disconnect =>
    TakenFor settings peer buf .disconnect w.gameSocket NoPayload
      (asClient peer w.gameSocket (onDisconnect w.gameSocket.accountId))
  | .ping _ _ _ =>
    ∃ r, read readU8 (fromBytes buf) = .ret (ClientPacketKind.ping.toU8, r) ∧
      handlePacket settings buf peer = answerPing peer (env.draw w.ticks) ∧
      ReadsAll readI32 r (env.draw w.ticks)

/-! ### The tasks on a packet are the tasks on what it says -/

variable {settings : ServerSettings} {peer : SocketAddr} {socket : Client.GameSocket}
  {clientId : Int32} {r : ByteReader}

theorem ReadsAll.read {α : Type} {d : Decoder ByteReader α} {x : α} (h : ReadsAll d r x) :
    ∃ r', Server.read d r = .ret (x, r') := by
  obtain ⟨r', hr, -⟩ := h
  exact ⟨r', by rw [Server.read, hr]⟩

theorem serve_asClient {ptype : ClientPacketKind} (hp : ptype ≠ .checkIn) {act : Task Unit}
    (h : dispatch settings ptype socket.accountId r = act) :
    serve settings ptype socket.accountId socket.secretKey peer r = asClient peer socket act := by
  rw [serve, asClient, if_neg hp, h]

theorem serve_signIn {data : PlayerAccountData} (h : ReadsAll PlayerAccountData.decode r data) :
    serve settings .checkIn socket.accountId socket.secretKey peer r =
      signIn settings peer socket data := by
  obtain ⟨r', hr⟩ := h.read
  rw [serve, signIn, if_pos rfl, handleCheckIn, hr]
  refine if_congr Iff.rfl rfl (congrArg _ (funext fun answer => ?_))
  cases answer <;> rfl

theorem onUserlevelentry_eq {levelID : Int32} (h : ReadsAll readI32 r levelID) :
    onUserlevelentry clientId r = enterLevel clientId levelID := by
  obtain ⟨r', hr⟩ := h.read
  rw [onUserlevelentry, enterLevel, hr]
  rfl

theorem updateLevel_eq {levelId : Int32} {data : PlayerData}
    (h : ReadsAll PlayerData.decode r data) :
    updateLevel clientId levelId false r = keepData clientId levelId (some data) := by
  obtain ⟨r', hr⟩ := h.read
  rw [updateLevel, keepData, hr]
  rfl

theorem onUpdatedata_eq {data : PlayerData} (h : ReadsAll PlayerData.decode r data) :
    onUpdatedata settings clientId false r = updateData settings clientId (some data) := by
  refine congrArg (perform (.levelIdOf clientId) >>= ·) (funext fun found => ?_)
  cases found with
  | none => rfl
  | some levelId =>
    exact congrArg (· >>= fun _ => answerLevel settings clientId levelId) (updateLevel_eq h)

theorem onUpdatedata_spectating :
    onUpdatedata settings clientId true r = updateData settings clientId none := by
  rw [onUpdatedata, updateData]
  rfl

theorem onPlayeraccountdatarequest_eq {playerId : Int32} (h : ReadsAll readI32 r playerId) :
    onPlayeraccountdatarequest clientId r = tellAccount clientId playerId := by
  obtain ⟨r', hr⟩ := h.read
  rw [onPlayeraccountdatarequest, tellAccount, hr]
  rfl

theorem onSendtextmessage_eq {text : String} (h : ReadsAll readString r text) :
    onSendtextmessage clientId r = passText clientId text := by
  obtain ⟨r', hr, -⟩ := h
  rw [onSendtextmessage, passText, hr]

theorem handlePing_eq {pingId : Int32} (h : ReadsAll readI32 r pingId) :
    handlePing peer r = answerPing peer pingId := by
  obtain ⟨r', hr⟩ := h.read
  rw [handlePing, answerPing, hr]
  rfl

/-! ### Reading -/

theorem ReadsAll.of_reference {α : Type} {d : Decoder ByteReader α} {d' : Decoder BitReader α}
    (h : Follows d d') {r : ByteReader} {c : BitReader} {x : α}
    (hd : d' (remaining r) = some (x, c)) (hc : c.exhausted = true) : ReadsAll d r x := by
  obtain ⟨r', hr, rfl⟩ := h.some hd
  exact ⟨r', hr, hc⟩

/-- The bytes of a packet with credentials. -/
def packetBytes (number : UInt8) (clientId key : Int32) (payload : List UInt8) : List UInt8 :=
  number :: (Client.i32Bytes clientId ++ (Client.i32Bytes key ++ payload))

theorem exists_header {ptype : ClientPacketKind} (hp : ptype ≠ .ping) (clientId key : Int32)
    (payload : List UInt8) :
    ∃ r, header (packetBytes ptype.toU8 clientId key payload) = some (ptype, clientId, key, r) ∧
      remaining r = ⟨payload, 0⟩ := by
  have h₁ := readU8_cons (Client.i32Bytes clientId ++ (Client.i32Bytes key ++ payload)) ptype.toU8
  have h₂ := readI32_append (Client.i32Bytes key ++ payload) clientId
  have h₃ := readI32_append payload key
  have hr := remaining_fromBytes (packetBytes ptype.toU8 clientId key payload)
  rw [packetBytes] at hr ⊢
  rw [← hr] at h₁
  obtain ⟨r₁, h₁, hr₁⟩ := Follows.some readU8_eq h₁
  rw [← hr₁] at h₂
  obtain ⟨r₂, h₂, hr₂⟩ := Follows.some readI32_eq h₂
  rw [← hr₂] at h₃
  obtain ⟨r₃, h₃, hr₃⟩ := Follows.some readI32_eq h₃
  exact ⟨r₃, by simp [header, h₁, h₂, h₃, hp], hr₃⟩

theorem takenFor {ptype : ClientPacketKind} (hp : ptype ≠ .ping) {buf payload : List UInt8}
    (hbuf : buf = packetBytes ptype.toU8 socket.accountId socket.secretKey payload)
    {P : ByteReader → Prop} {act : Task Unit} (hP : ∀ r, remaining r = ⟨payload, 0⟩ → P r)
    (hact : ∀ r, P r → serve settings ptype socket.accountId socket.secretKey peer r = act) :
    TakenFor settings peer buf ptype socket P act := by
  subst hbuf
  obtain ⟨r, hheader, hr⟩ := exists_header hp socket.accountId socket.secretKey payload
  have hserve := handlePacket_of_header hheader settings peer
  exact ⟨r, hheader, hserve.trans (hact r (hP r hr)), hP r hr⟩

theorem noPayload {r : ByteReader} (hr : remaining r = ⟨[], 0⟩) : NoPayload r := by
  rw [NoPayload, hr]
  rfl

theorem readsAll_readI32 {r : ByteReader} {x : Int32} (hr : remaining r = ⟨Client.i32Bytes x, 0⟩) :
    ReadsAll readI32 r x := by
  have h := readI32_append [] x
  rw [List.append_nil, ← hr] at h
  exact .of_reference readI32_eq h rfl

theorem readsAll_readString {r : ByteReader} {s : String} (hs : s.utf8ByteSize < 2 ^ 32)
    (hr : remaining r = ⟨Client.stringBytes (utf8 s), 0⟩) : ReadsAll readString r s := by
  have h := readString_append [] hs
  rw [List.append_nil, ← hr] at h
  exact .of_reference readString_eq h rfl

theorem readsAll_decode {r : ByteReader} {data : Client.PlayerData}
    (hr : remaining r = ⟨data.bytes, 0⟩) : ReadsAll PlayerData.decode r data.toServer := by
  have h := decode_append data []
  rw [List.append_nil, ← hr] at h
  exact .of_reference PlayerData.follows_decode h rfl

theorem readsAll_decodeAccount {r : ByteReader} {data : Client.PlayerAccountData} {name : String}
    (hname : data.name = utf8 name) (hlen : name.utf8ByteSize < 2 ^ 32)
    (hr : remaining r = ⟨data.bytes, 0⟩) :
    ReadsAll PlayerAccountData.decode r (data.toServer name) := by
  have h := decodeAccount_append hname hlen []
  rw [List.append_nil, ← hr] at h
  exact .of_reference PlayerAccountData.follows_decode h rfl

end Understood

/-! ## The server understands every message -/

def ClientPacketKind.toClient : ClientPacketKind → Client.PacketType
  | checkIn => .checkIn
  | keepalive => .keepalive
  | disconnect => .disconnect
  | ping => .ping
  | playerAccountDataRequest => .playerAccountDataRequest
  | levelListRequest => .levelListRequest
  | sendTextMessage => .sendTextMessage
  | userLevelEntry => .userLevelEntry
  | userLevelExit => .userLevelExit
  | userLevelData => .userLevelData
  | spectateNoData => .spectateNoData

theorem ClientPacketKind.ptToNumber_toClient (ptype : ClientPacketKind) :
    Client.ptToNumber ptype.toClient = ptype.toU8 := by
  cases ptype <;> rfl

section Messages

variable {env : Client.Env} {w : Client.World}

@[simp] theorem data_writeType (packetType : Client.PacketType) :
    (Client.GameSocket.writeType env packetType).data = [Client.ptToNumber packetType] := by
  simp [Client.GameSocket.writeType, Client.ByteBuffer.new]

theorem data_packet (socket : Client.GameSocket) (packetType : Client.PacketType)
    (payload : List UInt8) :
    (Client.GameSocket.packet env socket packetType).data ++ payload =
      packetBytes (Client.ptToNumber packetType) socket.accountId socket.secretKey payload := by
  simp [Client.GameSocket.packet, Client.GameSocket.writeAuth, packetBytes, Client.i32Bytes]

variable [Bytebuffer] {settings : ServerSettings} {peer : SocketAddr}

/-- A packet with a payload is taken for what it is. -/
theorem takenFor_packet (ptype : ClientPacketKind) (hp : ptype ≠ .ping) {buf payload : List UInt8}
    (hbuf : buf = (Client.GameSocket.packet env w.gameSocket ptype.toClient).data ++ payload)
    {P : ByteReader → Prop} {act : Task Unit} (hP : ∀ r, remaining r = ⟨payload, 0⟩ → P r)
    (hact : ∀ r, P r →
      serve settings ptype w.gameSocket.accountId w.gameSocket.secretKey peer r = act) :
    TakenFor settings peer buf ptype w.gameSocket P act := by
  rw [data_packet, ptype.ptToNumber_toClient] at hbuf
  exact takenFor hp hbuf hP hact

theorem takenFor_noPayload (ptype : ClientPacketKind) (hp : ptype ≠ .ping)
    (hcheckIn : ptype ≠ .checkIn) {act : Task Unit}
    (hact : ∀ r, dispatch settings ptype w.gameSocket.accountId r = act) :
    TakenFor settings peer (Client.GameSocket.packet env w.gameSocket ptype.toClient).data ptype
      w.gameSocket NoPayload (asClient peer w.gameSocket act) :=
  takenFor_packet ptype hp (List.append_nil _).symm (fun _ => noPayload)
    fun r _ => serve_asClient hcheckIn (hact r)

theorem understands_ping (num : Int32) :
    ∃ r, read readU8 (fromBytes (ClientPacketKind.ping.toU8 :: Client.i32Bytes num)) =
        .ret (ClientPacketKind.ping.toU8, r) ∧
      handlePacket settings (ClientPacketKind.ping.toU8 :: Client.i32Bytes num) peer =
        answerPing peer num ∧ ReadsAll readI32 r num := by
  have h₁ := readU8_cons (Client.i32Bytes num) ClientPacketKind.ping.toU8
  rw [← remaining_fromBytes (ClientPacketKind.ping.toU8 :: Client.i32Bytes num)] at h₁
  obtain ⟨r₁, h₁, hr₁⟩ := Follows.some readU8_eq h₁
  have hread := readsAll_readI32 hr₁
  refine ⟨r₁, by rw [read, h₁], ?_, hread⟩
  rw [← handlePing_eq hread]
  simp [handlePacket, read, h₁]

theorem understands_buffer {message : Client.Message} {buf : Client.ByteBuffer}
    (h : message.buffer env w = .ok buf) (hlen : buf.data.length < 2 ^ 32) :
    Understands settings peer buf.data env w message := by
  cases message with
  | queued message =>
    cases message with
    | playerData data =>
      obtain rfl := Except.ok.inj h
      exact takenFor_packet .userLevelData (by decide) (Client.data_encodePlayerData data _)
        (fun _ => readsAll_decode) fun _ h => serve_asClient (by decide) (onUpdatedata_eq h)
    | playerLevelEntry levelID =>
      obtain rfl := Except.ok.inj h
      exact takenFor_packet .userLevelEntry (by decide) (Client.data_writeI32 levelID)
        (fun _ => readsAll_readI32) fun _ h => serve_asClient (by decide) (onUserlevelentry_eq h)
    | playerLevelExit =>
      obtain rfl := Except.ok.inj h
      exact takenFor_noPayload .userLevelExit (by decide) (by decide) fun _ => rfl
    | requestPlayerAccount playerId =>
      obtain rfl := Except.ok.inj h
      exact takenFor_packet .playerAccountDataRequest (by decide) (Client.data_writeI32 playerId)
        (fun _ => readsAll_readI32) fun _ h =>
          serve_asClient (by decide) (onPlayeraccountdatarequest_eq h)
    | requestLevelList =>
      obtain rfl := Except.ok.inj h
      exact takenFor_noPayload .levelListRequest (by decide) (by decide) fun _ => rfl
    | spectatingNoData =>
      obtain rfl := Except.ok.inj h
      exact takenFor_noPayload .spectateNoData (by decide) (by decide) fun _ =>
        onUpdatedata_spectating
    | sendTextMessage message =>
      obtain rfl := Except.ok.inj h
      intro text htext
      have hmessage := utf8_of_fromUtf8 htext
      subst hmessage
      rw [Client.data_writeString, List.length_append, List.length_append, length_utf8] at hlen
      have hsize : text.utf8ByteSize < 2 ^ 32 := by omega
      exact takenFor_packet .sendTextMessage (by decide) (Client.data_writeString (utf8 text))
        (fun _ => readsAll_readString hsize) fun _ h =>
          serve_asClient (by decide) (onSendtextmessage_eq h)
    | menuLayerEntry => exact nomatch h
    | pingServers => exact nomatch h
    | centralServerChanged server => exact nomatch h
  | heartbeat =>
    obtain rfl := Except.ok.inj h
    exact takenFor_noPayload .keepalive (by decide) (by decide) fun _ => rfl
  | checkIn =>
    obtain rfl := Except.ok.inj h
    intro name hname
    have hutf8 := utf8_of_fromUtf8 hname
    rw [Client.data_encodeAccountData, List.length_append, Client.PlayerAccountData.bytes,
      ← hutf8] at hlen
    simp only [List.length_append, Client.stringBytes, length_utf8] at hlen
    have hsize : name.utf8ByteSize < 2 ^ 32 := by omega
    exact takenFor_packet .checkIn (by decide) (Client.data_encodeAccountData w.accountData _)
      (fun _ => readsAll_decodeAccount hutf8.symm hsize) fun _ h => serve_signIn h
  | accountDataRequest playerId =>
    obtain rfl := Except.ok.inj h
    exact takenFor_packet .playerAccountDataRequest (by decide) (Client.data_writeI32 playerId)
      (fun _ => readsAll_readI32) fun _ h =>
        serve_asClient (by decide) (onPlayeraccountdatarequest_eq h)
  | disconnect =>
    obtain rfl := Except.ok.inj h
    exact takenFor_noPayload .disconnect (by decide) (by decide) fun _ => rfl
  | ping serverId serverIp port =>
    obtain rfl := Except.ok.inj h
    have hdata : (Client.GameSocket.pingPacket env (env.draw w.ticks)).data =
        ClientPacketKind.ping.toU8 :: Client.i32Bytes (env.draw w.ticks) := by
      rw [Client.GameSocket.pingPacket, Client.data_writeI32, data_writeType]
      rfl
    rw [hdata]
    exact understands_ping (env.draw w.ticks)

/-- **The server reads what the client wrote**: each message is one datagram, and if that fits the
server's buffer, the server takes it for the message and does what it asks for. -/
theorem handlePacket_message {message : Client.Message} (h : message.Sendable) :
    ∃ data, Client.datagrams (message.send env w).2.trace = Client.datagrams w.trace ++ [data] ∧
      (data.length ≤ 1024 → Understands settings peer (received data) env w message) := by
  have hbuf : ∃ buf, message.buffer env w = .ok buf := by
    cases message with
    | queued message =>
      cases message with
      | menuLayerEntry => exact h.elim
      | pingServers => exact h.elim
      | centralServerChanged server => exact h.elim
      | _ => exact ⟨_, rfl⟩
    | _ => exact ⟨_, rfl⟩
  obtain ⟨buf, hbuf⟩ := hbuf
  refine ⟨buf.data, Client.Message.datagrams_send hbuf, fun hlen => ?_⟩
  rw [received, List.take_of_length_le hlen]
  exact understands_buffer hbuf (by omega)

omit [Bytebuffer] in
/-- Client 7 enters level 5. -/
theorem handlePacket_message_entry :
    letI := Bytebuffer.reference
    let w := Client.World.new 7 42 PlayerAccountData.empty.toClient []
    ∃ data, Client.datagrams
        ((Client.Message.queued (.playerLevelEntry 5)).send (.working []) w).2.trace =
          Client.datagrams w.trace ++ [data] ∧
      (data.length ≤ 1024 →
        Understands ⟨30, 0, false, 60⟩ (.v4 0 0) (received data) (.working []) w
          (.queued (.playerLevelEntry 5))) := by
  let := Bytebuffer.reference
  exact handlePacket_message trivial

end Messages

end Globed.Server
