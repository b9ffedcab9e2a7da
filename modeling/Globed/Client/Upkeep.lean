import Globed.Client.Interpolation
import Globed.Client.MainLoop
import Globed.Client.Session

/-!
# What the globals keep

Disconnecting and keepalive rounds never throw. No call changes the account but `MenuLayerEntry`,
which sets it to that of the game. Every icon that is received has a game mode, so that every player
of the corrector can be drawn.
-/

namespace Globed.Client

open Calls

/-! ## Calls that return -/

theorem disconnect_ok (env : Env) (quiet save : Bool) (w : World) :
    (NetworkHandler.disconnect env quiet save w).1 = .ok ⟨⟩ := by
  obtain ⟨⟨⟩, hok, -⟩ := gameServerId_disconnect env quiet save w trivial
  exact hok

/-- A heartbeat that fails is caught. -/
theorem keepaliveRound_ok (env : Env) (w : World) :
    (NetworkHandler.keepaliveRound env w).1 = .ok ⟨⟩ := by
  have hdisconnect : Returns (fun _ => True) (NetworkHandler.disconnect env true true)
      fun _ _ => True := fun w _ => ⟨⟨⟩, disconnect_ok env true true w, trivial⟩
  have hnothing : Returns (fun _ : World => True) (pure ⟨⟩ : Net Unit) fun _ _ => True :=
    Returns.pure fun _ _ => trivial
  have hnow : Returns (fun _ => True) (NetworkHandler.timestampMs env) fun _ _ => True :=
    fun _ _ => ⟨_, rfl, trivial⟩
  have hcheck : Returns (fun _ => True) (NetworkHandler.checkHeartbeat env) fun _ _ => True :=
    (Returns.gets _).bind fun _ => Returns.ite hnothing
      (hnow.bind fun _ => Returns.ite hdisconnect hnothing)
  have hround : Returns (fun _ => True) (NetworkHandler.keepaliveRound env) fun _ _ => True :=
    (Returns.gets _).bind fun _ => Returns.ite
      ((Returns.caught fun _ _ => trivial).bind fun _ => hcheck) hnothing
  obtain ⟨⟨⟩, hok, -⟩ := hround w trivial
  exact hok

/-! ## The account -/

/-- The session is that of this account. -/
def OfAccount (a : Int32) (w : World) : Prop := w.gameSocket.accountId = a

section Account

variable {env : Env} {a : Int32}

theorem account_of_eq {w w' : World} (h : OfAccount a w)
    (haccount : w'.gameSocket.accountId = w.gameSocket.accountId) : OfAccount a w' :=
  haccount.trans h

theorem account_sendAll (origin : Origin) (data : List UInt8) :
    Keeps (OfAccount a) (UdpSocket.sendAll env origin data) := by
  intro w h
  rw [UdpSocket.sendAll_apply]
  exact account_of_eq h rfl

theorem account_connect (serverIp : CString) (port : UInt16) :
    Keeps (OfAccount a) (UdpSocket.connect env serverIp port) := by
  intro w h
  rw [UdpSocket.connect_apply]
  exact account_of_eq h rfl

theorem account_readNext {α : Type} (readings : Nat → α) :
    Keeps (OfAccount a) (readNext readings) := fun _ h => account_of_eq h rfl

theorem account_modifySocket {f : GameSocket → GameSocket}
    (hf : ∀ socket, (f socket).accountId = socket.accountId) :
    Keeps (OfAccount a) (modifySocket f) := fun w h => account_of_eq h (hf w.gameSocket)

theorem account_close : Keeps (OfAccount a) GameSocket.disconnect :=
  fun _ h => account_of_eq h rfl

theorem account_disconnect (quiet save : Bool) :
    Keeps (OfAccount a) (NetworkHandler.disconnect env quiet save) := by
  apply Returns.keeps
  apply returns_disconnect (fun _ => account_sendAll _ _)
  · exact fun w h => account_of_eq h rfl
  · exact fun w pings h => account_of_eq h rfl
  · exact fun w h => ⟨⟨⟩, rfl, account_of_eq h rfl⟩

theorem account_connectTo (server : GameServer) :
    Keeps (OfAccount a) (NetworkHandler.connectTo env server) := by
  refine (Keeps.lift _).bind fun ⟨address, port⟩ => ?_
  refine (account_connect _ _).bind fun valid => Keeps.ite ?_ (Keeps.pure _)
  refine Keeps.bind (Keeps.modify fun _ h => account_of_eq h rfl) fun _ => ?_
  refine Keeps.bind (Keeps.modify fun _ h => account_of_eq h rfl) fun _ => ?_
  have hcheckIn : Keeps (OfAccount a) (GameSocket.sendCheckIn env) :=
    (Keeps.gets _).bind fun _ => (Keeps.gets _).bind fun _ => account_sendAll _ _
  refine hcheckIn.bind fun _ => ?_
  exact Keeps.bind (Keeps.modify fun _ h => account_of_eq h rfl) fun _ => Keeps.pure _

theorem account_connectToServer (id : CString) :
    Keeps (OfAccount a) (NetworkHandler.connectToServer env id) := by
  refine (account_disconnect false false).bind fun _ => (Keeps.gets _).bind fun gameServers => ?_
  split
  · exact account_connectTo _
  · exact Keeps.pure _

theorem account_recvPacket (incoming : Option Datagram) :
    Keeps (OfAccount a) (GameSocket.recvPacket env incoming) := by
  have hreceive : Keeps (OfAccount a) (UdpSocket.receive 65536 incoming) := by
    cases incoming with
    | none => exact Keeps.pure _
    | some datagram => exact Keeps.bind (fun _ h => account_of_eq h rfl) fun _ => Keeps.pure _
  refine hreceive.bind fun received => ?_
  split
  · exact Keeps.throw _
  · exact Keeps.throw _
  · have hparse : ParseKeeps (OfAccount a) (GameSocket.parsePacket env) :=
      ParseKeeps.parsePacket account_readNext fun _ => account_modifySocket fun _ => rfl
    exact (hparse _).bind fun _ => Keeps.pure _

theorem account_handlePacket (packet : RecvPacket) :
    Keeps (OfAccount a) (NetworkHandler.handlePacket env packet) := by
  refine keeps_handlePacket (account_modifySocket fun _ => rfl) ?_ account_readNext
    (account_disconnect true true) packet
  intro w w' hsocket _ h
  exact account_of_eq h (congrArg GameSocket.accountId hsocket)

theorem account_keepaliveRound : Keeps (OfAccount a) (NetworkHandler.keepaliveRound env) :=
  triple_keepaliveRound (keeps_sendHeartbeat account_readNext
    (fun _ => account_modifySocket fun _ => rfl) fun _ => account_sendAll _ _) account_readNext
    (account_disconnect true true) fun _ h => h

theorem account_sendAllTo (data : List UInt8) (serverIp : CString) (port : UInt16) :
    Keeps (OfAccount a) (UdpSocket.sendAllTo env data serverIp port) := by
  refine (Keeps.gets _).bind fun socket => Keeps.ite ?_ ?_
  · refine (account_connect _ _).bind fun _ => (account_sendAll _ _).bind fun _ => ?_
    exact fun _ h => account_of_eq h rfl
  · refine (account_connect _ _).bind fun _ => (account_sendAll _ _).bind fun _ => ?_
    exact account_close

theorem account_pingServer (target : CString × CString × UInt16) :
    Keeps (OfAccount a) (NetworkHandler.pingServer env target) := by
  refine Keeps.tryCatch ?_ fun _ => Keeps.pure _
  refine (account_readNext _).bind fun _ => (account_readNext _).bind fun _ => ?_
  exact Keeps.bind (fun _ h => account_of_eq h rfl) fun _ => account_sendAllTo _ _ _

theorem account_pingAllServers : Keeps (OfAccount a) (NetworkHandler.pingAllServers env) := by
  refine Keeps.get.bind fun w => (Keeps.lift _).bind fun addresses => ?_
  generalize addresses.entries env.order = targets
  induction targets with
  | nil => exact Keeps.pure _
  | cons target targets ih => exact (account_pingServer target).bind fun _ => ih

/-- `tMain` takes the account of the game, which is the same one. -/
theorem account_handleMessage (answer : Option (List GameServer))
    (message : NetworkThreadMessage) :
    Keeps (OfAccount a) (NetworkHandler.handleMessage env a answer message) := by
  have hpacket : ∀ message, Keeps (OfAccount a) (do
      let socket ← getSocket
      if socket.established then
        tryCatch (GameSocket.sendMessage env message) fun _ => pure ()
      else pure ()) :=
    fun message => (returns_sendPacket env (fun _ => account_sendAll _ _) message).keeps
  cases message with
  | centralServerChanged server =>
    have hleave : Keeps (OfAccount a) (NetworkHandler.leaveServer env) :=
      (Keeps.gets _).bind fun _ => Keeps.ite (account_disconnect false true) (Keeps.pure _)
    refine hleave.bind fun _ => Keeps.bind (Keeps.modify fun _ h => account_of_eq h rfl) fun _ => ?_
    refine Keeps.bind ?_ fun _ => account_pingAllServers
    cases answer with
    | none => exact Keeps.pure _
    | some gameServers => exact Keeps.modify fun _ h => account_of_eq h rfl
  | menuLayerEntry =>
    have hset : Keeps (OfAccount a) (modifySocket fun socket => { socket with accountId := a }) :=
      fun _ _ => rfl
    refine hset.bind fun _ => Keeps.ite (account_disconnect true true) ?_
    refine Keeps.get.bind fun w => Keeps.ite ?_ (Keeps.pure _)
    exact (account_connectToServer w.lastServerId).bind fun _ => Keeps.pure _
  | pingServers => exact account_pingAllServers
  | playerLevelEntry levelID => exact hpacket _
  | playerLevelExit => exact hpacket _
  | playerData data => exact hpacket _
  | requestPlayerAccount playerId => exact hpacket _
  | requestLevelList => exact hpacket _
  | spectatingNoData => exact hpacket _
  | sendTextMessage message => exact hpacket _

end Account

/-! ## Game modes -/

/-- The values that a read may give. -/
def ReaderGives {α : Type} (P : α → Prop) (d : Reader α) : Prop :=
  ∀ buf x buf', d buf = .ok (x, buf') → P x

section Reading

variable {α β : Type} {P : α → Prop} {Q : β → Prop}

theorem ReaderGives.any (d : Reader α) : ReaderGives (fun _ => True) d := fun _ _ _ _ => trivial

theorem ReaderGives.pure {x : α} (h : P x) : ReaderGives P (pure x) := by
  intro buf y buf' heq
  cases heq
  exact h

theorem ReaderGives.bind {d : Reader α} {f : α → Reader β} (hd : ReaderGives P d)
    (hf : ∀ x, P x → ReaderGives Q (f x)) : ReaderGives Q (d >>= f) := by
  intro buf y buf' heq
  change (d buf).bind (fun r => f r.1 r.2) = .ok (y, buf') at heq
  cases hread : d buf with
  | error e =>
    rw [hread] at heq
    cases heq
  | ok r =>
    rw [hread] at heq
    exact hf r.1 (hd buf r.1 r.2 hread) r.2 y buf' heq

theorem ReaderGives.lift {x : Except Failure α} (h : ∀ y, x = .ok y → P y) :
    ReaderGives P (liftM x : Reader α) := by
  intro buf y buf' heq
  cases x with
  | error e => cases heq
  | ok y' =>
    cases heq
    exact h _ rfl

theorem ParseGives.lift_bind {d : Reader α} {f : α → Parse β} (hd : ReaderGives P d)
    (hf : ∀ x, P x → ParseGives Q (f x)) : ParseGives Q (liftM d >>= f) := by
  intro buf
  refine Triple.bind (Q := fun r _ => ∀ x buf', r = .ok (x, buf') → P x) ?_ (fun p => ?_) ?_
  · exact fun _ _ x buf' heq => hd buf x buf' heq
  · intro w hp
    exact hf p.1 (hp p.1 p.2 rfl) p.2 w trivial
  · rintro e _ - x buf' heq
    cases heq

end Reading

/-- Both icons have a game mode. -/
def PlayerData.HasModes (data : PlayerData) : Prop :=
  data.player1.gameMode ≠ .none ∧ data.player2.gameMode ≠ .none

def HaveModes (players : FiniteMap Int32 PlayerData) : Prop :=
  ∀ playerId data, players.get playerId = some data → data.HasModes

def RecvPacket.HasModes : RecvPacket → Prop
  | .levelData players => HaveModes players
  | _ => True

section Received

variable {env : Env}

theorem numberToGm_ne_none {number : UInt8} {gm : IconGameMode} (h : numberToGm number = .ok gm) :
    gm ≠ .none := by
  unfold numberToGm at h
  split_ifs at h <;>
    · cases h
      intro hnone
      cases hnone

theorem decodeSpecificIcon_gives (t : Target) :
    ReaderGives (fun data => data.gameMode ≠ .none) (decodeSpecificIcon t) := by
  refine (ReaderGives.any _).bind fun x _ => (ReaderGives.any _).bind fun y _ => ?_
  refine (ReaderGives.any _).bind fun rot _ => (ReaderGives.any _).bind fun number _ => ?_
  refine (ReaderGives.lift fun gm hgm => numberToGm_ne_none hgm).bind fun gm hgm => ?_
  exact (ReaderGives.any _).bind fun flags _ => ReaderGives.pure hgm

theorem decodePlayerData_gives (t : Target) :
    ReaderGives PlayerData.HasModes (decodePlayerData t) := by
  refine (ReaderGives.any _).bind fun timestamp _ => ?_
  refine (decodeSpecificIcon_gives t).bind fun player1 h₁ => ?_
  refine (decodeSpecificIcon_gives t).bind fun player2 h₂ => ?_
  refine (ReaderGives.any _).bind fun camX _ => (ReaderGives.any _).bind fun camY _ => ?_
  exact (ReaderGives.any _).bind fun flags _ => ReaderGives.pure ⟨h₁, h₂⟩

theorem readPlayers_gives (accountId : Int32) (n : Nat) {players : FiniteMap Int32 PlayerData}
    (h : HaveModes players) :
    ReaderGives HaveModes (GameSocket.readPlayers env accountId n players) := by
  induction n generalizing players with
  | zero => exact ReaderGives.pure h
  | succ n ih =>
    refine (ReaderGives.any _).bind fun playerId _ => ?_
    refine (decodePlayerData_gives _).bind fun data hdata => ?_
    split
    · exact ih h
    · refine ih fun id data' hget => ?_
      rw [FiniteMap.insertIfNew] at hget
      split at hget
      · exact h id data' hget
      · rw [FiniteMap.get_insert] at hget
        split at hget
        · obtain rfl := Option.some.inj hget
          exact hdata
        · exact h id data' hget

theorem parseBody_gives (packetType : PacketType) :
    ParseGives RecvPacket.HasModes (GameSocket.parseBody env packetType) := by
  cases packetType
  case levelData =>
    refine .bind fun playerCount => .bind fun socket => ?_
    have hempty : HaveModes .empty := fun _ _ h => nomatch h
    exact .lift_bind (readPlayers_gives socket.accountId playerCount.toNat hempty)
      fun players hplayers => .pure hplayers
  case checkedIn => exact .bind fun _ => .pure trivial
  case keepaliveResponse => exact .bind fun _ => .bind fun _ => .bind fun _ => .pure trivial
  case serverDisconnect => exact .bind fun _ => .pure trivial
  case pingResponse =>
    refine .bind fun _ => .bind fun _ => .bind fun _ => ?_
    split
    · exact .throw _
    · exact .bind fun _ => .bind fun _ => .pure trivial
  case playerAccountDataResponse => exact .bind fun _ => .bind fun _ => .pure trivial
  case levelListResponse => exact .bind fun _ => .bind fun _ => .pure trivial
  case textMessageSent => exact .bind fun _ => .bind fun _ => .pure trivial
  case serverBroadcast =>
    exact .bind fun _ => .bind fun _ => .bind fun _ => .bind fun _ => .pure trivial
  all_goals exact .throw _

theorem recvPacket_gives (incoming : Option Datagram) :
    Triple (fun _ => True) (GameSocket.recvPacket env incoming)
      fun r _ => ∀ pkt, r = .ok pkt → pkt.HasModes := by
  refine Triple.bind (Q := fun _ _ => True) (fun _ _ => trivial) (fun received => ?_) ?_
  · split
    · rintro w - pkt heq
      cases heq
    · rintro w - pkt heq
      cases heq
    · have hparse : ParseGives RecvPacket.HasModes (GameSocket.parsePacket env) :=
        .bind fun _ => .bind fun packetType => parseBody_gives packetType
      refine (hparse _).bind (fun p => ?_) ?_
      · rintro w hp pkt heq
        cases heq
        exact hp p.1 p.2 rfl
      · rintro e w - pkt heq
        cases heq
  · rintro e w - pkt heq
    cases heq

end Received

/-! ## The corrector -/

section Corrector

variable {F : Type}

def Frame.HasModes (frame : Frame F) : Prop :=
  frame.player1.gameMode ≠ .none ∧ frame.player2.gameMode ≠ .none

/-- The newer frame of every player can be drawn. -/
def PlayerCorrector.HasModes (c : PlayerCorrector F) : Prop :=
  ∀ playerId data, c.playerData.get playerId = some data → data.newerFrame.HasModes

namespace PlayerCorrector

variable {c c' : PlayerCorrector F}

theorem HasModes.of_eq (h : c.HasModes) (hdata : c'.playerData = c.playerData) : c'.HasModes := by
  intro playerId data hget
  rw [hdata] at hget
  exact h playerId data hget

section Feeding

variable [Floats F]

/-- An estimated frame takes its modes from one of the two. -/
theorem maybeEstimateFrame_hasModes {pData : PlayerCorrectionData F} {fresh : Frame F}
    (hnewer : pData.newerFrame.HasModes) (hfresh : fresh.HasModes) :
    (c.maybeEstimateFrame pData fresh).2.1.HasModes := by
  unfold maybeEstimateFrame
  dsimp only
  split_ifs
  · exact hfresh
  · exact hfresh
  · exact hnewer
  · exact hfresh
  · exact hfresh

theorem HasModes.feedPlayer (h : c.HasModes) (playerId : Int32) {data : Frame F}
    (hdata : data.HasModes) : (c.feedPlayer playerId data).HasModes := by
  intro id pData' hget
  unfold PlayerCorrector.feedPlayer at hget
  cases hold : c.playerData.get playerId with
  | none =>
    simp only [hold, FiniteMap.get_insert] at hget
    split at hget
    · obtain rfl := Option.some.inj hget
      exact hdata
    · exact h id pData' hget
  | some pData =>
    simp only [hold, FiniteMap.get_insert] at hget
    split at hget
    · obtain rfl := Option.some.inj hget
      exact maybeEstimateFrame_hasModes (h playerId pData hold) hdata
    · exact h id pData' hget

omit [Floats F] in
theorem HasModes.eraseAll (h : c.HasModes) (ids : List Int32) :
    ∀ playerId data, (ids.foldl .erase c.playerData).get playerId = some data →
      data.newerFrame.HasModes := by
  suffices hall : ∀ (m : FiniteMap Int32 (PlayerCorrectionData F)),
      (∀ playerId data, m.get playerId = some data → data.newerFrame.HasModes) →
      ∀ playerId data, (ids.foldl .erase m).get playerId = some data →
        data.newerFrame.HasModes from hall _ h
  induction ids with
  | nil => exact fun m hm => hm
  | cons playerId ids ih =>
    intro m hm
    refine ih _ fun id data hget => ?_
    rw [FiniteMap.get_erase] at hget
    split at hget
    · cases hget
    · exact hm id data hget

theorem HasModes.feedRealData (h : c.HasModes) (o o' : IterOrder Int32)
    {data : FiniteMap Int32 (Frame F)}
    (hdata : ∀ playerId frame, data.get playerId = some frame → frame.HasModes) :
    (c.feedRealData o o' data).HasModes := by
  have hplayers : ∀ (players : List (Int32 × Frame F)) (c : PlayerCorrector F), c.HasModes →
      (∀ player ∈ players, player.2.HasModes) →
      (players.foldl (fun c player => c.feedPlayer player.1 player.2) c).HasModes := by
    intro players
    induction players with
    | nil => exact fun c hc _ => hc
    | cons player players ih =>
      intro c hc hall
      refine ih _ (hc.feedPlayer player.1 (hall player List.mem_cons_self)) fun player' hmem => ?_
      exact hall player' (List.mem_cons_of_mem _ hmem)
  have hfed := hplayers (data.entries o) c h fun player hmem =>
    hdata player.1 player.2 (FiniteMap.mem_entries.mp hmem)
  exact hfed.eraseAll _

end Feeding

section Drawing

variable [Decimals F]

theorem HasModes.interpolateSpecific_ok (h : c.HasModes) (player : RemotePlayer F) (frameDelta : F)
    {playerId : Int32} (hplayer : c.playerData.contains playerId = true) (isSecond : Bool) :
    ∃ player', c.interpolateSpecific player frameDelta playerId isSecond = .ok player' := by
  obtain ⟨data, hdata⟩ := FiniteMap.contains_iff.mp hplayer
  have hmode : (data.newerFrame.icon isSecond).gameMode ≠ .none := by
    cases isSecond with
    | false => exact (h playerId data hdata).1
    | true => exact (h playerId data hdata).2
  obtain ⟨ticked, hticked⟩ : ∃ ticked, (display player data isSecond).tick
      (data.newerFrame.icon isSecond) data.newerFrame.isPractice data.newerFrame.isDead
      data.newerFrame.isPaused = .ok ticked :=
    tick_display_ok_iff.mpr fun hnone => absurd hnone hmode
  cases hhalts : ((data.newerFrame.isDead || data.newerFrame.isPaused) && !player.firstTick) with
  | true =>
    refine ⟨{ ticked with haltedMovement := true }, ?_⟩
    unfold interpolateSpecific
    simp only [hdata, hticked, hhalts]
    rfl
  | false =>
    refine ⟨c.move ticked data frameDelta isSecond, ?_⟩
    unfold interpolateSpecific
    simp only [hdata, hticked, hhalts]
    rfl

/-- A player that was received can be drawn, and its frames stay. -/
theorem HasModes.interpolate (h : c.HasModes) (players : RemotePlayer F × RemotePlayer F)
    (frameDelta : F) (playerId : Int32) :
    ∃ players' c', c.interpolate players frameDelta playerId = .ok (players', c') ∧
      c'.HasModes := by
  by_cases hplayer : c.playerData.contains playerId = true
  · obtain ⟨first, hfirst⟩ := h.interpolateSpecific_ok players.1 frameDelta hplayer false
    obtain ⟨second, hsecond⟩ := h.interpolateSpecific_ok players.2 frameDelta hplayer true
    refine ⟨(first, second), { c with
      playerData := c.playerData.modify playerId fun data =>
        { data with timestamp := data.timestamp + frameDelta } }, ?_, fun id data hget => ?_⟩
    · unfold PlayerCorrector.interpolate
      rw [if_pos hplayer, hfirst, hsecond]
      rfl
    · rw [FiniteMap.get_modify] at hget
      split at hget
      · obtain ⟨old, hold, rfl⟩ := Option.map_eq_some_iff.mp hget
        exact h id old hold
      · exact h id data hget
  · refine ⟨players, c, ?_, h⟩
    unfold PlayerCorrector.interpolate
    rw [if_neg hplayer]
    rfl

end Drawing

end PlayerCorrector

end Corrector

end Globed.Client
