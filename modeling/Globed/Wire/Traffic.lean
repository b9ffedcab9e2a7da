import Globed.Server.Chat
import Globed.Server.Membership
import Globed.Wire.ServerToClient

/-!
# Traffic of a level

Text messages and broadcasts go to the clients whose level id is that of a level. The level id -1 of
a client that is on no level is compared in the same way: a UserLevelExit and a text message of such
a client go to all clients that are on no level.
-/

namespace Globed.Server

open Bytes Bytebuffer Concurrent

/-! ## What is sent to a level -/

/-- The packet is a TextMessageSent or a ServerBroadcast. -/
def IsTraffic (buf : List UInt8) : Prop :=
  buf.head? = some ServerPacketKind.textMessageSent.toU8 ∨
    buf.head? = some ServerPacketKind.serverBroadcast.toU8

instance (buf : List UInt8) : Decidable (IsTraffic buf) := by
  unfold IsTraffic
  infer_instance

theorem isTraffic_cons (b : UInt8) (bs : List UInt8) : IsTraffic (b :: bs) ↔
    b = ServerPacketKind.textMessageSent.toU8 ∨ b = ServerPacketKind.serverBroadcast.toU8 := by
  simp [IsTraffic]

/-- The addresses that text messages and broadcasts were sent to. -/
def traffic (log : List (Event Action.Answer)) : List SocketAddr :=
  ((sends log).filter fun s => IsTraffic s.2).map Prod.fst

theorem traffic_append (log log' : List (Event Action.Answer)) :
    traffic (log ++ log') = traffic log ++ traffic log' := by
  rw [traffic, sends_append, List.filter_append, List.map_append]
  rfl

theorem traffic_map_sendTo {buf : List UInt8} (h : IsTraffic buf) (addrs : List SocketAddr) :
    traffic (addrs.map fun addr => ⟨.sendTo addr buf, true⟩) = addrs := by
  rw [traffic, sends_map_sendTo, List.filter_eq_self.mpr, List.map_map]
  · exact List.map_id addrs
  · intro s hs
    obtain ⟨addr, -, rfl⟩ := List.mem_map.mp hs
    exact decide_eq_true h

/-- The section sends nothing to a level. -/
def Action.Quiet : Action → Prop
  | sendTo _ buf => ¬IsTraffic buf
  | _ => True

theorem traffic_of_quiet {log : List (Event Action.Answer)} (h : ∀ e ∈ log, e.1.Quiet) :
    traffic log = [] := by
  rw [traffic, List.map_eq_nil_iff, List.filter_eq_nil_iff]
  intro s hs
  obtain ⟨⟨a, r⟩, he, hsend⟩ := List.mem_filterMap.mp hs
  cases a with
  | sendTo addr buf =>
    cases hsend
    have hquiet : ¬IsTraffic buf := h _ he
    simpa using hquiet
  | _ => cases hsend

/-! ## Tasks that send nothing to a level -/

section Quiet

variable [Bytebuffer] {settings : ServerSettings} {c : Int32} {bbuf : ByteReader}

theorem isTraffic_textMessage (sender : Int32) (message : String) :
    IsTraffic (asBytes (textMessage sender message)) := by
  have h := bytes_textMessageSent sender message
  rw [ServerPacket.bytes, ServerPacket.buffer] at h
  rw [h]
  exact .inl rfl

theorem isTraffic_serverBroadcast (message : String) (color : UInt8 × UInt8 × UInt8) :
    IsTraffic (asBytes (serverBroadcast message color)) := by
  have h := bytes_serverBroadcast message color
  rw [ServerPacket.bytes, ServerPacket.buffer] at h
  rw [h]
  exact .inr rfl

theorem not_isTraffic_keepaliveResponse (clients : Nat) :
    ¬IsTraffic (asBytes (keepaliveResponse clients)) := by
  have h := bytes_keepaliveResponse clients
  rw [ServerPacket.bytes, ServerPacket.buffer] at h
  rw [h, isTraffic_cons]
  decide

theorem not_isTraffic_playerAccountDataResponse (playerId : Int32) (icons : PlayerAccountData) :
    ¬IsTraffic (asBytes (playerAccountDataResponse playerId icons)) := by
  have h := bytes_playerAccountDataResponse playerId icons
  rw [ServerPacket.bytes, ServerPacket.buffer] at h
  rw [h, isTraffic_cons]
  decide

theorem not_isTraffic_levelDataPacket (level : List (Int32 × PlayerData)) :
    ¬IsTraffic (asBytes (levelDataPacket level)) := by
  have hhead : (written (writeU16 (writeU8 new ServerPacketKind.levelData.toU8)
      (.ofNat level.length))).toBytes =
      Client.ptToNumber .levelData :: bigEndian 2 (UInt16.ofNat level.length).toNat := by
    simp [put_kind, ServerPacketKind.toClient]
  rw [levelDataPacket, asBytes_eq, toBytes_levelEntries, hhead, List.cons_append, isTraffic_cons]
  decide

theorem not_isTraffic_levelListResponse (levels : List (Int32 × Nat)) :
    ¬IsTraffic (asBytes (levelListResponse levels)) := by
  have hhead : (written (writeU32 (writeU8 new ServerPacketKind.levelListResponse.toU8)
      (.ofNat levels.length))).toBytes =
      Client.ptToNumber .levelListResponse :: bigEndian 4 (UInt32.ofNat levels.length).toNat := by
    simp [put_kind, ServerPacketKind.toClient]
  rw [levelListResponse, asBytes_eq, toBytes_levelCounts, hhead, List.cons_append, isTraffic_cons]
  decide

theorem quiet_sendTo {data : ByteBuffer} (h : ¬IsTraffic (asBytes data)) :
    (sendTo c data).Only Action.Quiet := by
  constructor
  · trivial
  intro address
  cases address with
  | none => trivial
  | some address =>
    refine ⟨h, fun sent => ?_⟩
    cases sent <;> trivial

omit [Bytebuffer] in
theorem Action.Sweeps.quiet {a : Action} (h : a.Sweeps) : a.Quiet := by
  cases a <;> first | exact h.elim | trivial

omit [Bytebuffer] in
theorem quiet_of_sweeps {α : Type} {t : Task α} (h : t.Only Action.Sweeps) :
    t.Only Action.Quiet :=
  h.mono fun _ => Action.Sweeps.quiet

omit [Bytebuffer] in
theorem quiet_of_tail {tail : List (Event Action.Answer)} (h : ∀ e ∈ tail, e.1.Sweeps) :
    ∀ e ∈ tail, e.1.Quiet :=
  fun e he => (h e he).quiet

theorem quiet_onUpdatedata (spectating : Bool) :
    (onUpdatedata settings c spectating bbuf).Only Action.Quiet := by
  constructor
  · trivial
  intro levelId
  cases levelId with
  | none => trivial
  | some levelId =>
    change (updateLevel c levelId spectating bbuf >>= fun _ =>
      answerLevel settings c levelId).Only _
    apply Proc.Only.bind
    · unfold updateLevel
      split
      · apply (only_read _ bbuf).bind
        intro p
        dsimp only
        split
        · refine ⟨trivial, fun found => ?_⟩
          cases found <;> trivial
        · trivial
      · trivial
    · intro _
      unfold answerLevel
      split
      · refine ⟨trivial, fun level => ?_⟩
        cases level with
        | none => trivial
        | some level => exact quiet_sendTo (not_isTraffic_levelDataPacket level)
      · trivial

/-- The packet makes its handler send to a level: an entry with a level id, an exit, or a text
message that can be cut. -/
def Speaks (ptype : ClientPacketKind) (bbuf : ByteReader) : Prop :=
  match ptype with
  | .userLevelEntry => ∃ x rest, readI32 bbuf = some (x, rest)
  | .userLevelExit => True
  | .sendTextMessage => ∃ m rest, readString bbuf = some (m, rest) ∧
      (m.utf8ByteSize ≤ 80 ∨ String.Pos.Raw.IsValid m ⟨80⟩)
  | _ => False

theorem quiet_dispatch {ptype : ClientPacketKind} (h : ¬Speaks ptype bbuf) :
    (dispatch settings ptype c bbuf).Only Action.Quiet := by
  cases ptype with
  | keepalive => exact ⟨trivial, fun _ => quiet_sendTo (not_isTraffic_keepaliveResponse _)⟩
  | disconnect => exact (quiet_of_sweeps (sweeps_removeClient c)).bind fun _ => trivial
  | userLevelEntry =>
    constructor
    · trivial
    intro found
    cases found with
    | none => trivial
    | some found =>
      apply (quiet_of_sweeps (sweeps_leaveLevel c found.2)).bind
      intro _
      cases hx : readI32 bbuf with
      | none => simp [read, hx]
      | some p => exact absurd ⟨p.1, p.2, hx⟩ h
  | userLevelExit => exact absurd trivial h
  | userLevelData => exact quiet_onUpdatedata false
  | spectateNoData => exact quiet_onUpdatedata true
  | playerAccountDataRequest =>
    apply (only_read _ bbuf).bind
    intro p
    refine ⟨trivial, fun icons => ?_⟩
    cases icons with
    | none => trivial
    | some icons => exact quiet_sendTo (not_isTraffic_playerAccountDataResponse p.1 icons)
  | levelListRequest => exact ⟨trivial, fun _ => quiet_sendTo (not_isTraffic_levelListResponse _)⟩
  | sendTextMessage =>
    change (onSendtextmessage c bbuf).Only _
    unfold onSendtextmessage
    cases hm : readString bbuf with
    | none => trivial
    | some p =>
      have hcut := cutMessage_of_not_boundary fun hb => h ⟨p.1, p.2, hm, hb⟩
      refine ⟨trivial, fun _ => ⟨trivial, fun clients => ?_⟩⟩
      cases clients with
      | none => trivial
      | some clients =>
        apply Proc.Only.forM
        intro address _
        rw [hcut]
        trivial
  | ping => trivial
  | checkIn => trivial

end Quiet

/-! ## Handlers that send to a level -/

section Speaks

variable [Bytebuffer] {settings : ServerSettings} {st : State} {c : Int32} {cd : ClientData}
  {bbuf : ByteReader} {log : List (Event Action.Answer)}

/-- The traffic of the log goes to the clients on the level. -/
def GoesTo (st : State) (l : Int32) (log : List (Event Action.Answer)) : Prop :=
  ∃ ids, OnLevel st l ids ∧ (traffic log).map some = ids.map (addressOf st)

omit [Bytebuffer] in
theorem GoesTo.of_recipients (o : IterOrder Int32) {l : Int32}
    (h : traffic log = st.recipients o (some l)) : GoesTo st l log := by
  obtain ⟨ids, hlevel, haddrs⟩ := recipients_eq st o l
  exact ⟨ids, hlevel, by rw [h, haddrs]⟩

theorem traffic_broadcast (message : String) (color : UInt8 × UInt8 × UInt8)
    (levelId : Option Int32) (addrs : List SocketAddr) :
    traffic (⟨.recipients levelId, addrs⟩ ::
      addrs.map fun addr => ⟨.sendTo addr (asBytes (serverBroadcast message color)), true⟩) =
        addrs :=
  traffic_map_sendTo (isTraffic_serverBroadcast message color) addrs

/-- An entry is told to the clients that are on the level before it. -/
theorem safe_onUserlevelentry_traffic {rest : ByteReader} {x : Int32} (hne : st.NoEmptyLevel)
    (hcd : st.connectedClients.get c = some cd) (hx : readI32 bbuf = some (x, rest))
    (hlog : traffic log = []) :
    (onUserlevelentry c bbuf).Safe (server settings sendsSucceed).machine cleanup
      (AtEnd fun _ log' _ => GoesTo st (levelIdOfPacket x) log') log st := by
  apply safe_act
  intro st₁ h₁ o₁ _
  obtain rfl := h₁.2.2 hne
  have hfound : st₁.nameAndLevel c = some (cd.playerData.name, cd.levelId) := by
    rw [State.nameAndLevel, hcd, Option.map_some]
  simp only [step, hfound]
  apply safe_leaveLevel_bind hne
  intro tail st₂ htail h₂ _ _
  simp only [read, hx, Proc.ret_bind]
  apply safe_broadcastMessage_bind
  intro o st₃ _
  apply safe_act
  intro st₄ _ o₄ _
  have hinserted : (st₄.insertIntoLevel c (levelIdOfPacket x)).1 = true := by
    rw [State.insertIntoLevel_eq]
  simp only [step, hinserted]
  apply safe_act
  intro st₅ _ o₅ _
  refine safe_ended trivial fun st₆ _ => ?_
  apply GoesTo.of_recipients o
  have hrecipients : st₂.recipients o (some (levelIdOfPacket x)) =
      st₁.recipients o (some (levelIdOfPacket x)) := by
    rw [State.recipients, h₂, State.recipients]
  simp only [traffic_append, hlog, traffic_broadcast, traffic_of_quiet (quiet_of_tail htail),
    hrecipients]
  simp [traffic, sends]

/-- An exit is told to the clients that are on the level after it. -/
theorem safe_onUserlevelexit_traffic (hcd : st.connectedClients.get c = some cd)
    (hlog : traffic log = []) :
    (onUserlevelexit c).Safe (server settings sendsSucceed).machine cleanup
      (AtEnd fun _ log' st' =>
        st'.connectedClients = (st.setLevelId c (-1)).connectedClients ∧
        GoesTo (st.setLevelId c (-1)) cd.levelId log') log st := by
  apply safe_act
  intro st₁ h₁ o₁ _
  have hfound : (st₁.exitLevel c).1 = some (cd.playerData.name, cd.levelId) := by
    change st₁.nameAndLevel c = _
    rw [State.nameAndLevel, h₁.1, hcd, Option.map_some]
  have hclients : (st₁.exitLevel c).2.connectedClients =
      (st.setLevelId c (-1)).connectedClients := by
    change st₁.connectedClients.modify c _ = _
    rw [h₁.1]
    rfl
  simp only [step, hfound]
  apply safe_broadcastMessage_bind
  intro o st₂ h₂
  rw [← Proc.bind_ret (removeClientFromLevel c cd.levelId)]
  apply safe_removeClientFromLevel_bind
  intro tail st₃ htail h₃ _ _
  refine safe_ended trivial fun st₄ h₄ => ⟨?_, ?_⟩
  · rw [h₄.1, h₃, h₂.1, hclients]
  · apply GoesTo.of_recipients o
    have hrecipients : (st₁.exitLevel c).2.recipients o (some cd.levelId) =
        (st.setLevelId c (-1)).recipients o (some cd.levelId) := by
      rw [State.recipients, hclients, State.recipients]
    simp only [traffic_append, hlog, traffic_broadcast, traffic_of_quiet (quiet_of_tail htail),
      hrecipients]
    simp [traffic, sends]

theorem safe_onSendtextmessage_traffic {m : String} {rest : ByteReader}
    (hcd : st.connectedClients.get c = some cd) (hm : readString bbuf = some (m, rest))
    (h : m.utf8ByteSize ≤ 80 ∨ String.Pos.Raw.IsValid m ⟨80⟩)
    (hlog : sends log = [] ∧ ∀ e ∈ log, spawned e = []) :
    (onSendtextmessage c bbuf).Safe (server settings sendsSucceed).machine cleanup
      (AtEnd fun _ log' st' => st'.connectedClients = st.connectedClients ∧
        GoesTo st cd.levelId log') log st := by
  apply (safe_chat hcd hm h hlog).mono
  intro t log' st' hend ht
  obtain ⟨-, hclients, -, ids, hlevel, hsends⟩ := hend ht
  refine ⟨hclients, ids, hlevel, ?_⟩
  have hfilter : (sends log').filter (fun s => IsTraffic s.2) = sends log' := by
    rw [List.filter_eq_self]
    intro s hs
    have hmem : Prod.map some id s ∈ (sends log').map (Prod.map some id) :=
      List.mem_map_of_mem hs
    rw [hsends] at hmem
    obtain ⟨r, -, heq⟩ := List.mem_map.mp hmem
    have hbytes : s.2 = asBytes (textMessage c (cutText m h)) := (congrArg Prod.snd heq).symm
    rw [hbytes]
    exact decide_eq_true (isTraffic_textMessage c _)
  calc (traffic log').map some
      = ((sends log').map (Prod.map some id)).map Prod.fst := by
        rw [traffic, hfilter, List.map_map, List.map_map]
        rfl
    _ = ids.map (addressOf st) := by
        rw [hsends, List.map_map]
        rfl

end Speaks

/-! ## Traffic stays inside a level -/

section Inside

variable [Bytebuffer] {settings : ServerSettings} {st : State} {c : Int32} {cd : ClientData}
  {bbuf : ByteReader} {ptype : ClientPacketKind} {buf : List UInt8} {peer : SocketAddr}
  {conf : Config Action Action.Answer Error State Request}

/-- What was sent of the kinds TextMessageSent and ServerBroadcast for a packet of the client `c`,
in the state `st`, went to clients on a level that `c` is on before or after the packet. -/
structure Inside (st : State) (c : Int32)
    (conf : Config Action Action.Answer Error State Request) : Prop where
  recipients : ∃ ids : List Int32, (traffic (events conf)).map some = ids.map (addressOf st) ∧
    ∀ r ∈ ids, ∃ l, st.levelOf r = some l ∧ (st.levelOf c = some l ∨ conf.state.levelOf c = some l)
  silent : st.levelOf c = none → conf.state.levelOf c = none → traffic (events conf) = []

omit [Bytebuffer] in
theorem levelOf_of_get {r : Int32} {rd : ClientData} (h : st.connectedClients.get r = some rd)
    (hl : rd.levelId ≠ -1) : st.levelOf r = some rd.levelId := by
  simp [State.levelOf, h, hl]

omit [Bytebuffer] in
theorem levelOf_eq_none {r : Int32} {rd : ClientData} (h : st.connectedClients.get r = some rd)
    (hl : rd.levelId = -1) : st.levelOf r = none := by
  simp [State.levelOf, h, hl]

omit [Bytebuffer] in
/-- Traffic that went to clients of a level that the client is on before or after is inside. -/
theorem inside_of_level {l : Int32} {ids : List Int32}
    (haddrs : (traffic (events conf)).map some = ids.map (addressOf st))
    (hids : ∀ r ∈ ids, st.levelOf r = some l)
    (hc : st.levelOf c = some l ∨ conf.state.levelOf c = some l) : Inside st c conf := by
  refine ⟨⟨ids, haddrs, fun r hr => ⟨l, hids r hr, hc⟩⟩, fun hbefore hafter => ?_⟩
  rcases hc with hc | hc
  · rw [hbefore] at hc
    cases hc
  · rw [hafter] at hc
    cases hc

omit [Bytebuffer] in
theorem OnLevel.levelOf {l : Int32} {ids : List Int32} (h : OnLevel st l ids) (hl : l ≠ -1) :
    ∀ r ∈ ids, st.levelOf r = some l := by
  intro r hr
  obtain ⟨rd, hrd, rfl⟩ := (h.mem r).mp hr
  exact levelOf_of_get hrd hl

omit [Bytebuffer] in
/-- After an exit, the clients on a level were on it before. -/
theorem OnLevel.levelOf_of_exit {l : Int32} {ids : List Int32}
    (h : OnLevel (st.setLevelId c (-1)) l ids) (hl : l ≠ -1) :
    ∀ r ∈ ids, st.levelOf r = some l := by
  intro r hr
  obtain ⟨rd, hrd, rfl⟩ := (h.mem r).mp hr
  rw [State.setLevelId, FiniteMap.get_modify] at hrd
  split at hrd
  · obtain ⟨cd, -, rfl⟩ := Option.map_eq_some_iff.mp hrd
    exact absurd rfl hl
  · exact levelOf_of_get hrd hl

omit [Bytebuffer] in
theorem addressOf_setLevelId (c l r : Int32) :
    addressOf (st.setLevelId c l) r = addressOf st r := by
  rw [addressOf, State.setLevelId, FiniteMap.get_modify, addressOf]
  split
  · rw [Option.map_map]
    rfl
  · rfl

omit [Bytebuffer] in
/-- A client that is registered on the level gets traffic that goes to the level. -/
theorem traffic_ne_nil_of_goesTo {st' : State} {l r : Int32} {rd : ClientData}
    {log : List (Event Action.Answer)} (hto : GoesTo st' l log)
    (hrd : st'.connectedClients.get r = some rd) (hl : rd.levelId = l) : traffic log ≠ [] := by
  obtain ⟨ids, hlevel, haddrs⟩ := hto
  have hr : r ∈ ids := (hlevel.mem r).mpr ⟨rd, hrd, hl⟩
  intro hnil
  rw [hnil, List.map_nil, eq_comm, List.map_eq_nil_iff] at haddrs
  rw [haddrs] at hr
  cases hr

/-- What the handler of a packet has sent to levels is what all its jobs have sent. -/
theorem handles_traffic (hreach : ReachableBy settings sendsSucceed Request.External st)
    (hcd : st.connectedClients.get c = some cd)
    (hheader : header buf = some (ptype, c, cd.secretKey, bbuf)) (hp : ptype ≠ .checkIn)
    {Q : List (Event Action.Answer) → State → Prop}
    (hQ : (dispatch settings ptype c bbuf).Safe (server settings sendsSucceed).machine cleanup
      (AtEnd fun _ => Q) [⟨.verifySecretKey c cd.secretKey, .ok ()⟩] st)
    (h : (server settings sendsSucceed).Handles st (.packet buf peer) conf) :
    ∃ log, traffic (events conf) = traffic log ∧ Q log conf.state := by
  obtain ⟨log, r, js, hjobs, -, hend, hjs, -⟩ := hreach.handles_dispatched hcd hheader hp hQ h
  refine ⟨log, ?_, hend⟩
  have hquiet : traffic (js.flatMap Job.log) = [] := by
    apply traffic_of_quiet
    intro e he
    obtain ⟨j, hj, hej⟩ := List.mem_flatMap.mp he
    rw [hjs j hj e hej]
    trivial
  rw [events, hjobs, List.flatMap_cons, traffic_append, hquiet, List.append_nil]

/-- A packet whose handler does not speak causes no traffic. -/
theorem traffic_of_not_speaks (hreach : ReachableBy settings sendsSucceed Request.External st)
    (hcd : st.connectedClients.get c = some cd)
    (hheader : header buf = some (ptype, c, cd.secretKey, bbuf)) (hp : ptype ≠ .checkIn)
    (hquiet : ¬Speaks ptype bbuf)
    (h : (server settings sendsSucceed).Handles st (.packet buf peer) conf) :
    traffic (events conf) = [] := by
  let I : List (Event Action.Answer) → State → Prop := fun log _ => ∀ e ∈ log, e.1.Quiet
  have hsafe : (dispatch settings ptype c bbuf).Safe (server settings sendsSucceed).machine cleanup
      (AtEnd fun _ => I) [⟨.verifySecretKey c cd.secretKey, .ok ()⟩] st := by
    refine (Proc.Safe.of_only (I := I) ?_ ?_ (quiet_dispatch hquiet) ?_).mono ?_
    · intro a o log st' ha _ hI e he
      rcases List.mem_append.mp he with he | he
      · exact hI e he
      · obtain rfl := List.mem_singleton.mp he
        exact ha
    · exact fun _ _ _ _ => id
    · intro e he
      obtain rfl := List.mem_singleton.mp he
      trivial
    · exact fun _ _ _ hok _ => hok.1
  obtain ⟨log, hlog, hI⟩ := handles_traffic hreach hcd hheader hp hsafe h
  rw [hlog, traffic_of_quiet hI]

/-- An entry that is told leads its client to the level where it is told. -/
theorem inside_entry {x : Int32} {rest : ByteReader}
    (hreach : ReachableBy settings sendsSucceed Request.External st)
    (hcd : st.connectedClients.get c = some cd)
    (hheader : header buf = some (.userLevelEntry, c, cd.secretKey, bbuf))
    (hx : readI32 bbuf = some (x, rest))
    (h : (server settings sendsSucceed).Handles st (.packet buf peer) conf) :
    Inside st c conf := by
  obtain ⟨log, hlog, ids, hlevel, haddrs⟩ := handles_traffic hreach hcd hheader (by decide)
    (safe_onUserlevelentry_traffic hreach.noEmptyLevel hcd hx rfl) h
  obtain ⟨hclients, -⟩ := handle_entry hreach hcd hheader hx h
  have hl := (levelIdOfPacket_wireFree x).1
  have hget : conf.state.connectedClients.get c =
      some { cd with levelId := levelIdOfPacket x } := by
    rw [hclients, FiniteMap.get_insert_self]
  exact inside_of_level (hlog ▸ haddrs) (hlevel.levelOf hl) (.inr (levelOf_of_get hget hl))

theorem handle_exit_traffic (hreach : ReachableBy settings sendsSucceed Request.External st)
    (hcd : st.connectedClients.get c = some cd)
    (hheader : header buf = some (.userLevelExit, c, cd.secretKey, bbuf))
    (h : (server settings sendsSucceed).Handles st (.packet buf peer) conf) :
    conf.state.connectedClients = (st.setLevelId c (-1)).connectedClients ∧
      GoesTo (st.setLevelId c (-1)) cd.levelId (events conf) := by
  obtain ⟨log, hlog, hclients, hto⟩ := handles_traffic hreach hcd hheader (by decide)
    (safe_onUserlevelexit_traffic hcd rfl) h
  rw [GoesTo, hlog]
  exact ⟨hclients, hto⟩

theorem handle_text_traffic {m : String} {rest : ByteReader}
    (hreach : ReachableBy settings sendsSucceed Request.External st)
    (hcd : st.connectedClients.get c = some cd)
    (hheader : header buf = some (.sendTextMessage, c, cd.secretKey, bbuf))
    (hm : readString bbuf = some (m, rest))
    (hcut : m.utf8ByteSize ≤ 80 ∨ String.Pos.Raw.IsValid m ⟨80⟩)
    (h : (server settings sendsSucceed).Handles st (.packet buf peer) conf) :
    conf.state.connectedClients = st.connectedClients ∧ GoesTo st cd.levelId (events conf) := by
  obtain ⟨log, hlog, hclients, hto⟩ := handles_traffic hreach hcd hheader (by decide)
    (safe_onSendtextmessage_traffic hcd hm hcut ⟨rfl, by simp [spawned]⟩) h
  rw [GoesTo, hlog]
  exact ⟨hclients, hto⟩

omit [Bytebuffer] in
/-- Traffic to the level id -1 reaches its own sender. -/
theorem not_inside_of_goesTo {after : State} {rd : ClientData}
    (hclients : conf.state.connectedClients = after.connectedClients)
    (hto : GoesTo after (-1) (events conf)) (hoff : st.levelOf c = none)
    (hrd : after.connectedClients.get c = some rd) (hl : rd.levelId = -1) :
    ¬Inside st c conf := by
  intro hinside
  have hafter : conf.state.levelOf c = none := levelOf_eq_none (hclients ▸ hrd) hl
  exact traffic_ne_nil_of_goesTo hto hrd hl (hinside.silent hoff hafter)

/-- **Traffic stays inside a level** exactly if the client is on a level, or enters one, or the
packet makes its handler send nothing to a level. -/
theorem traffic_inside_iff (hreach : ReachableBy settings sendsSucceed Request.External st)
    (hcd : st.connectedClients.get c = some cd)
    (hheader : header buf = some (ptype, c, cd.secretKey, bbuf)) (hp : ptype ≠ .checkIn) :
    (∀ conf, (server settings sendsSucceed).Handles st (.packet buf peer) conf →
      Inside st c conf) ↔
    cd.levelId ≠ -1 ∨ ptype = .userLevelEntry ∨ ¬Speaks ptype bbuf := by
  obtain ⟨conf₀, hconf₀⟩ :=
    server_handles exists_sendsSucceed settings st (.packet buf peer)
  by_cases hspeaks : Speaks ptype bbuf
  · cases ptype with
    | userLevelEntry =>
      obtain ⟨x, rest, hx⟩ := hspeaks
      refine iff_of_true (fun conf hconf => ?_) (.inr (.inl rfl))
      exact inside_entry hreach hcd hheader hx hconf
    | userLevelExit =>
      by_cases hl : cd.levelId = -1
      · refine iff_of_false (fun hall => ?_) (by simp [hl, hspeaks])
        obtain ⟨hclients, hto⟩ := handle_exit_traffic hreach hcd hheader hconf₀
        have hget : (st.setLevelId c (-1)).connectedClients.get c =
            some { cd with levelId := -1 } := by
          simp [State.setLevelId, hcd]
        exact not_inside_of_goesTo hclients (hl ▸ hto) (levelOf_eq_none hcd hl) hget rfl
          (hall conf₀ hconf₀)
      · refine iff_of_true (fun conf hconf => ?_) (.inl hl)
        obtain ⟨-, ids, hlevel, haddrs⟩ := handle_exit_traffic hreach hcd hheader hconf
        rw [funext (addressOf_setLevelId c (-1))] at haddrs
        exact inside_of_level haddrs (hlevel.levelOf_of_exit hl) (.inl (levelOf_of_get hcd hl))
    | sendTextMessage =>
      obtain ⟨m, rest, hm, hcut⟩ := id hspeaks
      by_cases hl : cd.levelId = -1
      · refine iff_of_false (fun hall => ?_) (by simp [hl, hspeaks])
        obtain ⟨hclients, hto⟩ := handle_text_traffic hreach hcd hheader hm hcut hconf₀
        exact not_inside_of_goesTo hclients (hl ▸ hto) (levelOf_eq_none hcd hl) hcd hl
          (hall conf₀ hconf₀)
      · refine iff_of_true (fun conf hconf => ?_) (.inl hl)
        obtain ⟨-, ids, hlevel, haddrs⟩ := handle_text_traffic hreach hcd hheader hm hcut hconf
        exact inside_of_level haddrs (hlevel.levelOf hl) (.inl (levelOf_of_get hcd hl))
    | _ => exact hspeaks.elim
  · refine iff_of_true (fun conf hconf => ?_) (.inr (.inr hspeaks))
    have hnil := traffic_of_not_speaks hreach hcd hheader hp hspeaks hconf
    refine ⟨⟨[], ?_, fun r hr => absurd hr List.not_mem_nil⟩, fun _ _ => hnil⟩
    rw [hnil, List.map_nil, List.map_nil]

omit [Bytebuffer] in
/-- Client 7 is on level 5 and leaves it. -/
theorem traffic_inside_iff_level_5 :
    letI := Bytebuffer.reference
    let settings : ServerSettings := ⟨30, 0, false, 60⟩
    let buf : List UInt8 := [111, 0, 0, 0, 7, 0, 0, 0, 42]
    ∃ st cd, st.connectedClients.get 7 = some cd ∧ cd.levelId = 5 ∧
      ((∀ conf, (server settings sendsSucceed).Handles st (.packet buf peer7) conf →
        Inside st 7 conf) ↔
      cd.levelId ≠ -1 ∨ ClientPacketKind.userLevelExit = .userLevelEntry ∨
        ¬Speaks .userLevelExit (⟨[], 0⟩ : BitReader)) := by
  let := Bytebuffer.reference
  intro settings buf
  obtain ⟨st, cd, hreach, hclients, hkey, hlevel, -⟩ :=
    exists_client_7_on_level_5 (fun _ h => h) (external_packet _ _) (external_packet _ _)
  have hcd : st.connectedClients.get 7 = some cd := by
    rw [hclients, FiniteMap.get_insert_self]
  have hheader : header buf = some (.userLevelExit, 7, cd.secretKey, (⟨[], 0⟩ : BitReader)) := by
    rw [hkey]
    rfl
  exact ⟨st, cd, hcd, hlevel, traffic_inside_iff hreach hcd hheader (by decide)⟩

omit [Bytebuffer] in
/-- Client 7 has checked in and is on no level. It sends a UserLevelExit: "left" goes to all clients
that are on no level. -/
theorem exit_from_no_level_is_told :
    letI := Bytebuffer.reference
    let settings : ServerSettings := ⟨30, 0, false, 60⟩
    let buf : List UInt8 := [111, 0, 0, 0, 7, 0, 0, 0, 42]
    ∃ st cd, ReachableBy settings sendsSucceed Request.External st ∧
      st.connectedClients.get 7 = some cd ∧ cd.levelId = -1 ∧
      header buf = some (.userLevelExit, 7, cd.secretKey, (⟨[], 0⟩ : BitReader)) ∧
      ∃ conf, (server settings sendsSucceed).Handles st (.packet buf peer7) conf ∧
        ¬Inside st 7 conf := by
  let := Bytebuffer.reference
  intro settings buf
  obtain ⟨st, now, hreach, hclients⟩ :=
    @exists_client_7_checkedIn sendsSucceed Request.External (fun _ h => h) (external_packet _ _)
  have hcd : st.connectedClients.get 7 = some (.checkedIn peer7 42 now data7) := by
    rw [hclients, FiniteMap.get_insert_self]
  have hheader : header buf = some (.userLevelExit, 7, 42, (⟨[], 0⟩ : BitReader)) := rfl
  obtain ⟨conf, hconf⟩ := server_handles exists_sendsSucceed settings st (.packet buf peer7)
  refine ⟨st, _, hreach, hcd, rfl, hheader, conf, hconf, ?_⟩
  obtain ⟨hafter, hto⟩ := handle_exit_traffic hreach hcd hheader hconf
  have hget : (st.setLevelId 7 (-1)).connectedClients.get 7 =
      some { ClientData.checkedIn peer7 42 now data7 with levelId := -1 } := by
    simp [State.setLevelId, hcd]
  exact not_inside_of_goesTo hafter hto (levelOf_eq_none hcd rfl) hget rfl

end Inside

end Globed.Server
