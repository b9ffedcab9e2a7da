import Globed.Server.Chat
import Globed.Server.Refinement

/-!
# What the server sends

What a request makes the server send is determined by the table, up to the orders in which the hash
maps are visited: to whom, in how many copies, and every byte.
-/

namespace Globed.Server

open Concurrent Bytebuffer

/-! ## Replies of a table -/

namespace Table

variable [Bytebuffer] (t : Table)

abbrev Sent := List (SocketAddr × List UInt8)

/-- A packet for all clients whose record names the level, be they seen there or not. -/
def toLevel (o : IterOrder Int32) (levelId : Int32) (buf : ByteBuffer) : Sent :=
  ((t.entries o).filter (·.2.client.levelId = levelId)).map fun e =>
    (e.2.client.address, asBytes buf)

/-- The answer to a client's data: its level, if there is one and if the ticks do not send it. -/
def Answers (settings : ServerSettings) (client : ClientData) (out : Sent) : Prop :=
  match t.levels.get client.levelId with
  | some level =>
    if settings.tickBased then out = []
    else ∃ o, out = [(client.address, asBytes (levelDataPacket (level.entries o)))]
  | none => out = []

/-- What a packet of the client `c`, whose session is `s`, makes the server send. -/
def Replies (settings : ServerSettings) (c : Int32) (s : Session) (bbuf : ByteReader) (out : Sent) :
    ClientPacketKind → Prop
  | .keepalive => out = [(s.client.address, asBytes (keepaliveResponse t.size))]
  | .userLevelEntry =>
    match readI32 bbuf with
    | some (x, _) => ∃ o, out = t.toLevel o (levelIdOfPacket x)
        (serverBroadcast s!"{s.client.playerData.name} joined" (30, 200, 30))
    | none => out = []
  | .userLevelExit =>
    -- the client has left by the time the others are told
    ∃ o, out = toLevel (t.insert c ⟨{ s.client with levelId := -1 }, none⟩) o s.client.levelId
      (serverBroadcast s!"{s.client.playerData.name} left" (200, 30, 30))
  | .userLevelData =>
    match PlayerData.decode bbuf with
    | some (data, _) =>
      if t.Occupied s.client.levelId then
        Answers (t.insert c { s with seen := some data }) settings s.client out
      else out = []
    | none => out = []
  | .spectateNoData => t.Answers settings s.client out
  | .playerAccountDataRequest =>
    match readI32 bbuf with
    | some (playerId, _) =>
      match t.get playerId with
      | some player => out = [(s.client.address,
          asBytes (playerAccountDataResponse playerId player.client.playerData))]
      | none => out = []
    | none => out = []
  | .levelListRequest =>
    ∃ o, out = [(s.client.address, asBytes (levelListResponse
      ((t.levels.entries o).map fun e => (e.1, e.2.size))))]
  | .sendTextMessage =>
    match readString bbuf with
    | some (m, _) =>
      if h : m.utf8ByteSize ≤ 80 ∨ String.Pos.Raw.IsValid m ⟨80⟩ then
        ∃ o, out = t.toLevel o s.client.levelId (textMessage c (cutText m h))
      else out = []
    | none => out = []
  | .disconnect | .ping | .checkIn => out = []

/-- What a CheckIn with an id that is not 0 makes the server send. -/
def checkInReplies (settings : ServerSettings) (c : Int32) (peer : SocketAddr)
    (bbuf : ByteReader) : Sent :=
  if t.contains c then
    [(peer, asBytes (serverDisconnect
      "Client already exists, please wait a minute before reconnecting."))]
  else if t.Full settings then
    [(peer, asBytes (serverDisconnect
      s!"This server is configured to handle a maximum of {t.size} clients, and cannot take any more."))]
  else
    match PlayerAccountData.decode bbuf with
    | none => []
    | some (data, _) =>
      if data.isValid then [(peer, asBytes (checkedIn settings))]
      else [(peer, asBytes (serverDisconnect
        "Invalid data was passed. Contact the developer if you think this is wrong."))]

/-- What a client is told whose packet does not carry the credentials of a session. -/
def turnedAway (peer : SocketAddr) (reason : String) : Sent :=
  [(peer, asBytes (serverDisconnect s!"Failed to verify secret key: {reason}"))]

def PacketReplies (settings : ServerSettings) (buf : List UInt8) (peer : SocketAddr)
    (out : Sent) : Prop :=
  match header buf with
  | some (ptype, c, key, bbuf) =>
    if c = 0 then
      out = [(peer, asBytes (serverDisconnect
        "You have to sign into a Geometry Dash account before connecting. If you already are, please restart your game."))]
    else if ptype = .checkIn then out = t.checkInReplies settings c peer bbuf
    else
      match t.get c with
      | some s =>
        if s.client.secretKey = key then t.Replies settings c s bbuf out ptype
        else out = turnedAway peer "Secret key does not match"
      | none => out = turnedAway peer s!"Client not found by id {c}"
  | none =>
    match readU8 (fromBytes buf) with
    | some (number, bbuf) =>
      if ClientPacketKind.tryFrom number = some .ping then
        match readI32 bbuf with
        | some (pingId, _) => out = [(peer, asBytes (pingResponse pingId t.size))]
        | none => out = []
      else out = []
    | none => out = []

/-- What a tick sends of a level: all of it, to each client that is seen on it. -/
def levelReplies (o : IterOrder Int32) (levelId : Int32) : Sent :=
  ((t.level levelId).entries o).filterMap fun p => (t.get p.1).map fun s =>
    (s.client.address, asBytes (levelDataPacket ((t.level levelId).entries o)))

/-- A tick sends the levels in any order; `os` are the orders in which their players are visited. -/
def TickReplies (out : Sent) : Prop :=
  ∃ (visited : List Int32) (os : Int32 → IterOrder Int32), visited.Nodup ∧
    (∀ l, l ∈ visited ↔ t.Occupied l) ∧ out = visited.flatMap fun l => t.levelReplies (os l) l

/-- What a request makes the server send, when the table is `t`. -/
def RequestReplies (settings : ServerSettings) (out : Sent) : Request → Prop
  | .packet buf peer => t.PacketReplies settings buf peer out
  | .tick => t.TickReplies out
  | .sweep | .removeEmptyLevels => out = []

end Table

/-! ## Sends in a log -/

section Logs

/-- The section sends nothing. -/
def Action.Silent : Action → Prop
  | sendTo _ _ => False
  | _ => True

theorem sends_of_silent {log : List (Event Action.Answer)} (h : ∀ e ∈ log, e.1.Silent) :
    sends log = [] := by
  rw [sends, List.filterMap_eq_nil_iff]
  rintro ⟨a, r⟩ he
  have ha := h _ he
  cases a <;> first | exact ha.elim | rfl

theorem Action.Sweeps.silent {a : Action} (h : a.Sweeps) : a.Silent := by
  cases a <;> first | exact h.elim | trivial

theorem sends_snoc {log : List (Event Action.Answer)} {a : Action} (ha : a.Silent) (r : a.Answer) :
    sends (log ++ [⟨a, r⟩]) = sends log := by
  have hone : sends [(⟨a, r⟩ : Event Action.Answer)] = [] :=
    sends_of_silent fun e he => by rwa [List.mem_singleton.mp he]
  rw [sends_append, hone, List.append_nil]

variable [Bytebuffer] {settings : ServerSettings} {inputs : Input → Prop} {st : State}
  {c : Int32} {cd : ClientData} {log : List (Event Action.Answer)}
  {Q : Task Unit → List (Event Action.Answer) → State → Prop}

/-- A section that sends nothing. -/
theorem safe_silent {a : Action} {k : a.Answer → Task Unit} (ha : a.Silent)
    (h : ∀ st', cleanup.moves st st' → ∀ o, inputs o → ∀ log', sends log' = sends log →
      (k (step settings o a st').1).Safe (server settings inputs).machine cleanup (AtEnd Q)
        log' (step settings o a st').2) :
    (Proc.act a k).Safe (server settings inputs).machine cleanup (AtEnd Q) log st :=
  safe_act fun st' hst o ho => h st' hst o ho _ (sends_snoc ha _)

/-- A task that sends nothing. -/
theorem safe_of_silent {t : Task Unit} (ht : t.Only Action.Silent)
    (h : ∀ t' log' st', sends log' = sends log → Q t' log' st') :
    t.Safe (server settings inputs).machine cleanup (AtEnd Q) log st := by
  let I : List (Event Action.Answer) → State → Prop := fun log' _ => sends log' = sends log
  refine (Proc.Safe.of_only (I := I) ?_ ?_ ht rfl).mono ?_
  · exact fun a o log' st' ha _ hI => (sends_snoc ha _).trans hI
  · exact fun _ _ _ _ hI => hI
  · exact fun t' log' st' hok _ => h t' log' st' hok.1

omit [Bytebuffer] in
theorem sends_sendTo (log : List (Event Action.Answer)) (addr : SocketAddr) (buf : List UInt8)
    (sent : Bool) : sends (log ++ [⟨.sendTo addr buf, sent⟩]) = sends log ++ [(addr, buf)] := by
  rw [sends_append]
  rfl

theorem safe_sendBufTo_out {addr : SocketAddr} {buf : ByteBuffer}
    (h : ∀ t' log' st', sends log' = sends log ++ [(addr, asBytes buf)] → Q t' log' st') :
    (sendBufTo addr buf).Safe (server settings sendsSucceed).machine cleanup (AtEnd Q) log st := by
  apply safe_sendBufTo
  exact fun st₁ _ => h _ _ st₁ (sends_sendTo log addr _ true)

theorem safe_sendTo_out {buf : ByteBuffer} (hcd : st.connectedClients.get c = some cd)
    (h : ∀ t' log' st', sends log' = sends log ++ [(cd.address, asBytes buf)] → Q t' log' st') :
    (sendTo c buf).Safe (server settings sendsSucceed).machine cleanup (AtEnd Q) log st := by
  refine safe_silent trivial fun st₁ h₁ o _ log₁ hlog₁ => ?_
  have haddr : (st₁.connectedClients.get c).map (·.address) = some cd.address := by
    rw [h₁.1, hcd, Option.map_some]
  simp only [step, haddr]
  apply safe_sendBufTo_out
  intro t' log' st' hout
  rw [hlog₁] at hout
  exact h t' log' st' hout

/-- What a handled request sent is what its own job sent. -/
theorem handles_sends {k : Request} {R : Table.Sent → Prop}
    {conf : Config Action Action.Answer Error State Request}
    (h : (server settings inputs).Handles st k conf)
    (hk : (k.task settings).Safe (server settings inputs).machine cleanup
      (AtEnd fun _ log' _ => R (sends log')) [] st) : R (sends (events conf)) := by
  obtain ⟨log, r, js, hjobs, -, hR, hhelpers, -⟩ := handles_safe h hk
  have hevents : sends (events conf) = sends log := by
    have hsilent : sends (js.flatMap Job.log) = [] := by
      apply sends_of_silent
      intro e he
      obtain ⟨j, hj, he⟩ := List.mem_flatMap.mp he
      rw [hhelpers j hj e he]
      trivial
    rw [events, hjobs, List.flatMap_cons, sends_append, hsilent, List.append_nil]
  rwa [hevents]

end Logs

/-! ## Packets of a client -/

section Packets

variable [Bytebuffer] {settings : ServerSettings} {inputs : Input → Prop} {st : State}
  {c : Int32} {cd : ClientData} {bbuf : ByteReader} {log : List (Event Action.Answer)}

omit [Bytebuffer] in
/-- The addresses of a table are those of the clients. -/
theorem toLevel_table [Bytebuffer] (st : State) (o : IterOrder Int32) (l : Int32)
    (buf : ByteBuffer) :
    st.table.toLevel o l buf = (st.recipients o (some l)).map (·, asBytes buf) := by
  rw [Table.toLevel, State.table, FiniteMap.entries_map, List.filter_map, List.map_map,
    State.recipients, List.map_map]
  simp [Function.comp_def]

/-- A broadcast to a level, and what follows it in silence. -/
theorem safe_broadcast_out {message : String} {color : UInt8 × UInt8 × UInt8} {l : Int32}
    {f : Unit → Task Unit} {Q : Task Unit → List (Event Action.Answer) → State → Prop}
    (hf : (f ()).Only Action.Silent)
    (h : ∀ o t' log' st', sends log' =
      sends log ++ st.table.toLevel o l (serverBroadcast message color) → Q t' log' st') :
    (broadcastMessage message color (some l) >>= f).Safe (server settings sendsSucceed).machine
      cleanup (AtEnd Q) log st := by
  apply safe_broadcastMessage_bind
  intro o st₁ _
  apply safe_of_silent hf
  intro t' log' st' hout
  have hsilent : (Action.recipients (some l)).Silent := trivial
  rw [List.append_cons, sends_append, sends_snoc hsilent, sends_map_sendTo, ← toLevel_table] at hout
  exact h o t' log' st' hout

/-- A broadcast to a level depends on the clients only. -/
theorem toLevel_of_clients {t : Table} (ht : t.map (fun _ s => s.client) = st.connectedClients)
    (o : IterOrder Int32) (l : Int32) (buf : ByteBuffer) :
    t.toLevel o l buf = (st.recipients o (some l)).map (·, asBytes buf) := by
  rw [Table.toLevel, State.recipients, ← ht, FiniteMap.entries_map, List.filter_map, List.map_map,
    List.map_map]
  simp [Function.comp_def]

omit [Bytebuffer] in
/-- A level of which one more client, or other data, is seen. -/
theorem Table.levels_insert (t : Table) (s : Session) (data : PlayerData) :
    (Table.levels (t.insert c { s with seen := some data })).get s.client.levelId =
      some ((t.level s.client.levelId).insert c data) := by
  have hoccupied : Table.Occupied (t.insert c { s with seen := some data }) s.client.levelId :=
    Table.occupied_iff.mpr ⟨c, _, FiniteMap.get_insert_self _ _ _, rfl, rfl⟩
  change (if Table.Occupied _ _ then some (Table.level _ _) else none) = _
  rw [if_pos hoccupied]
  congr 1
  ext1 x
  by_cases hx : x = c <;> simp [Table.level, hx]

/-- The answer to data, from a state in which the level is known. -/
theorem safe_answerLevel_out {l : Int32} {level : Option LevelData}
    {Q : Task Unit → List (Event Action.Answer) → State → Prop}
    (hne : st.NoEmptyLevel) (hcd : st.connectedClients.get c = some cd)
    (hlevel : st.levels.get l = level)
    (h : ∀ t' log' st' out, sends log' = sends log ++ out →
      (match level with
        | some level => if settings.tickBased then out = []
            else ∃ o, out = [(cd.address, asBytes (levelDataPacket (level.entries o)))]
        | none => out = []) → Q t' log' st') :
    (answerLevel settings c l).Safe (server settings sendsSucceed).machine cleanup (AtEnd Q) log
      st := by
  unfold answerLevel
  cases htick : settings.tickBased with
  | true =>
    refine safe_ended trivial fun st₁ _ => h _ log st₁ [] (by rw [List.append_nil]) ?_
    cases level <;> simp [htick]
  | false =>
    simp only [Bool.not_false, if_true]
    refine safe_silent trivial fun st₁ h₁ o _ log₁ hlog₁ => ?_
    obtain rfl := h₁.2.2 hne
    simp only [step, State.levelEntries, hlevel]
    cases level with
    | none => exact safe_ended trivial fun st₂ _ => h _ log₁ st₂ [] (by simp [hlog₁]) rfl
    | some level =>
      apply safe_sendTo_out hcd
      intro t' log' st' hout
      rw [hlog₁] at hout
      refine h t' log' st' _ hout ?_
      simp only [htick, Bool.false_eq_true, if_false]
      exact ⟨o.order, rfl⟩

section Handlers

variable (hne : st.NoEmptyLevel) (hhoused : st.Housed) (hcd : st.connectedClients.get c = some cd)
  (hlog : sends log = [])

include hlog

theorem replies_onDisconnect :
    (onDisconnect c).Safe (server settings sendsSucceed).machine cleanup (AtEnd fun _ log' _ =>
      st.table.Replies settings c ⟨cd, st.entry cd.levelId c⟩ bbuf (sends log') .disconnect)
      log st := by
  have hsilent : (onDisconnect c).Only Action.Silent :=
    ((sweeps_removeClient c).mono fun _ => Action.Sweeps.silent).bind fun _ => trivial
  apply safe_of_silent hsilent
  intro t' log' st' hout
  rw [hlog] at hout
  exact hout

include hcd

theorem replies_onKeepalive :
    (onKeepalive c).Safe (server settings sendsSucceed).machine cleanup (AtEnd fun _ log' _ =>
      st.table.Replies settings c ⟨cd, st.entry cd.levelId c⟩ bbuf (sends log') .keepalive)
      log st := by
  refine safe_silent trivial fun st₁ h₁ o _ log₁ hlog₁ => ?_
  have hget : (st₁.keepalive o.now c).2.connectedClients.get c =
      some { cd with lastKeepaliveTime := o.now } := by
    simp [State.keepalive, h₁.1, hcd]
  have hsize : (st₁.keepalive o.now c).1 = st.table.size := by
    rw [State.table, FiniteMap.size_map, ← h₁.1]
    rfl
  simp only [step, hsize]
  apply safe_sendTo_out hget
  intro t' log' st' hout
  rw [hlog₁, hlog, List.nil_append] at hout
  exact hout

theorem replies_onUserlevelexit :
    (onUserlevelexit c).Safe (server settings sendsSucceed).machine cleanup
      (AtEnd fun _ log' _ => st.table.Replies settings c ⟨cd, st.entry cd.levelId c⟩ bbuf
        (sends log') .userLevelExit) log st := by
  refine safe_silent trivial fun st₁ h₁ o _ log₁ hlog₁ => ?_
  have hexit : st₁.exitLevel c =
      (some (cd.playerData.name, cd.levelId), st₁.setLevelId c (-1)) := by
    rw [State.exitLevel, State.nameAndLevel, h₁.1, hcd, Option.map_some]
  simp only [step, hexit]
  have hleft : (removeClientFromLevel c cd.levelId).Only Action.Silent := by
    refine ⟨trivial, fun found => ?_⟩
    cases found
    · trivial
    · exact ⟨trivial, fun _ => trivial⟩
  apply safe_broadcast_out hleft
  intro o t' log' st' hout
  rw [hlog₁, hlog, List.nil_append, toLevel_table] at hout
  simp only [Table.Replies, hout]
  refine ⟨o, (toLevel_of_clients ?_ o cd.levelId _).symm⟩
  ext1 x
  rw [State.setLevelId, h₁.1]
  by_cases hx : x = c <;> simp [State.table, hx, hcd, Function.comp_def]

theorem replies_onPlayeraccountdatarequest :
    (onPlayeraccountdatarequest c bbuf).Safe (server settings sendsSucceed).machine cleanup
      (AtEnd fun _ log' _ => st.table.Replies settings c ⟨cd, st.entry cd.levelId c⟩ bbuf
        (sends log') .playerAccountDataRequest) log st := by
  unfold onPlayeraccountdatarequest
  cases hx : readI32 bbuf with
  | none =>
    simp only [read, hx]
    refine safe_ended trivial fun st₁ _ => ?_
    simp only [Table.Replies, hx, hlog]
  | some p =>
    obtain ⟨playerId, rest⟩ := p
    simp only [read, hx, Proc.ret_bind]
    refine safe_silent trivial fun st₁ h₁ o _ log₁ hlog₁ => ?_
    rw [hlog] at hlog₁
    simp only [step, h₁.1]
    cases hplayer : st.connectedClients.get playerId with
    | none =>
      have hget : st.table.get playerId = none := by
        rw [State.table, FiniteMap.get_map, hplayer, Option.map_none]
      refine safe_ended trivial fun st₂ _ => ?_
      simp only [Table.Replies, hx, hget, hlog₁]
    | some player =>
      have hget : st.table.get playerId = some ⟨player, st.entry player.levelId playerId⟩ := by
        rw [State.table, FiniteMap.get_map, hplayer, Option.map_some]
      apply safe_sendTo_out (h₁.1 ▸ hcd)
      intro t' log' st' hout
      rw [hlog₁, List.nil_append] at hout
      simp only [Table.Replies, hx, hget]
      exact hout

theorem replies_onSendtextmessage :
    (onSendtextmessage c bbuf).Safe (server settings sendsSucceed).machine cleanup
      (AtEnd fun _ log' _ => st.table.Replies settings c ⟨cd, st.entry cd.levelId c⟩ bbuf
        (sends log') .sendTextMessage) log st := by
  unfold onSendtextmessage
  cases hm : readString bbuf with
  | none =>
    refine safe_ended trivial fun st₁ _ => ?_
    simp only [Table.Replies, hm, hlog]
  | some p =>
    obtain ⟨m, rest⟩ := p
    refine safe_silent trivial fun st₁ h₁ o _ log₁ hlog₁ => ?_
    refine safe_silent trivial fun st₂ h₂ o₂ _ log₂ hlog₂ => ?_
    rw [hlog₁, hlog] at hlog₂
    have hclients : st₂.connectedClients = st.connectedClients := h₂.1.trans h₁.1
    have hrecipients : st₂.userRecipients o₂.order c =
        some (st.recipients o₂.order (some cd.levelId)) := by
      simp [State.userRecipients, State.recipients, hclients, hcd]
    simp only [step, hrecipients]
    by_cases h : m.utf8ByteSize ≤ 80 ∨ String.Pos.Raw.IsValid m ⟨80⟩
    · simp only [cutMessage_of_boundary h, Proc.ret_bind]
      apply safe_sendAll
      intro st₃ _
      simp only [Table.Replies, hm, dif_pos h]
      refine ⟨o₂.order, ?_⟩
      rw [sends_append, sends_map_sendTo, hlog₂, toLevel_table]
      rfl
    · have hdropped : ∀ addrs : List SocketAddr, ∀ st₃, (addrs.forM fun address => do
          let message ← cutMessage m
          sendBufTo address (textMessage c message)).Safe
            (server settings sendsSucceed).machine cleanup (AtEnd fun _ log' _ =>
              st.table.Replies settings c ⟨cd, st.entry cd.levelId c⟩ bbuf (sends log')
                .sendTextMessage) log₂ st₃ := by
        intro addrs st₃
        have hnothing : st.table.Replies settings c ⟨cd, st.entry cd.levelId c⟩ bbuf
            (sends log₂) .sendTextMessage := by
          simp only [Table.Replies, hm, dif_neg h, hlog₂]
        cases addrs with
        | nil => exact safe_ended trivial fun _ _ => hnothing
        | cons addr addrs =>
          simp only [Proc.forM_cons, cutMessage_of_not_boundary h]
          exact safe_ended trivial fun _ _ => hnothing
      exact hdropped _ _

include hne

theorem replies_onUserlevelentry :
    (onUserlevelentry c bbuf).Safe (server settings sendsSucceed).machine cleanup
      (AtEnd fun _ log' _ => st.table.Replies settings c ⟨cd, st.entry cd.levelId c⟩ bbuf
        (sends log') .userLevelEntry) log st := by
  refine safe_silent trivial fun st₁ h₁ o _ log₁ hlog₁ => ?_
  obtain rfl := h₁.2.2 hne
  have hfound : st₁.nameAndLevel c = some (cd.playerData.name, cd.levelId) := by
    rw [State.nameAndLevel, hcd, Option.map_some]
  simp only [step, hfound]
  apply safe_leaveLevel_bind hne
  intro tail st₂ htail hclients _ _
  have hsends : sends (log₁ ++ tail) = [] := by
    rw [sends_append, hlog₁, hlog, sends_of_silent fun e he => (htail e he).silent]
    rfl
  cases hx : readI32 bbuf with
  | none =>
    simp only [read, hx]
    refine safe_ended trivial fun st₃ _ => ?_
    simp only [Table.Replies, hx, hsends]
  | some p =>
    obtain ⟨x, rest⟩ := p
    simp only [read, hx, Proc.ret_bind]
    have hentered : (addClientToLevel c (levelIdOfPacket x)).Only Action.Silent := by
      refine ⟨trivial, fun found => ?_⟩
      cases found
      · trivial
      · exact ⟨trivial, fun _ => trivial⟩
    apply safe_broadcast_out hentered
    intro o t' log' st' hout
    simp only [Table.Replies, hx]
    refine ⟨o, ?_⟩
    rw [hout, hsends, List.nil_append, toLevel_table, toLevel_table, State.recipients, hclients,
      State.recipients]

include hhoused

theorem replies_onUpdatedata (hfree : st.levels.get (-1) = none) :
    (onUpdatedata settings c false bbuf).Safe (server settings sendsSucceed).machine cleanup
      (AtEnd fun _ log' _ => st.table.Replies settings c ⟨cd, st.entry cd.levelId c⟩ bbuf
        (sends log') .userLevelData) log st := by
  refine safe_silent trivial fun st₁ h₁ o _ log₁ hlog₁ => ?_
  obtain rfl := h₁.2.2 hne
  rw [hlog] at hlog₁
  have hfound : (st₁.connectedClients.get c).map (·.levelId) = some cd.levelId := by
    rw [hcd, Option.map_some]
  simp only [step, hfound]
  change (updateLevel c cd.levelId false bbuf >>= fun _ => answerLevel settings c cd.levelId).Safe
    _ _ _ _ _
  cases hdata : PlayerData.decode bbuf with
  | none =>
    simp only [updateLevel, read, hdata, Bool.not_false, if_true]
    refine safe_ended trivial fun st₂ _ => ?_
    simp only [Table.Replies, hdata, hlog₁]
  | some p =>
    obtain ⟨data, rest⟩ := p
    simp only [updateLevel, read, hdata, Bool.not_false, if_true, Proc.ret_bind]
    cases hlevel : st₁.levels.get cd.levelId with
    | none =>
      have hvacant : ¬st₁.table.Occupied cd.levelId := by
        rw [hhoused.occupied_iff hne, FiniteMap.contains, hlevel]
        exact Bool.false_ne_true
      by_cases hoff : cd.levelId = -1
      · simp only [hoff, ne_eq, not_true_eq_false, if_false]
        apply safe_answerLevel_out hne hcd hfree
        rintro t' log' st' out hout rfl
        simp only [Table.Replies, hdata, hvacant, if_false, hout, hlog₁, List.append_nil]
      · simp only [hoff, ne_eq, not_false_eq_true, if_true]
        refine safe_silent trivial fun st₂ h₂ o₂ _ log₂ hlog₂ => ?_
        obtain rfl := h₂.2.2 hne
        have hdropped : st₂.storePlayerData c cd.levelId data = (false, st₂) := by
          rw [State.storePlayerData, hlevel]
        simp only [step, hdropped]
        refine safe_ended trivial fun st₃ _ => ?_
        simp only [Table.Replies, hdata, hvacant, if_false, hlog₂, hlog₁]
    | some level =>
      have hoccupied : st₁.table.Occupied cd.levelId :=
        (hhoused.occupied_iff hne).mpr (FiniteMap.contains_iff.mpr ⟨level, hlevel⟩)
      have hoff : cd.levelId ≠ -1 := by
        intro heq
        rw [heq, hfree] at hlevel
        cases hlevel
      simp only [hoff, ne_eq, not_false_eq_true, if_true]
      refine safe_silent trivial fun st₂ h₂ o₂ _ log₂ hlog₂ => ?_
      obtain rfl := h₂.2.2 hne
      have hstored : st₂.storePlayerData c cd.levelId data =
          (true, { st₂ with levels := st₂.levels.insert cd.levelId (level.insert c data) }) := by
        rw [State.storePlayerData, hlevel]
      simp only [step, hstored]
      refine safe_answerLevel_out (noEmptyLevel_insert hne (isEmpty_insert level c data)) hcd
        (FiniteMap.get_insert_self _ _ _) ?_
      intro t' log' st' out hout hanswer
      rw [hlog₂, hlog₁, List.nil_append] at hout
      have hlevels := st₂.table.levels_insert (c := c) ⟨cd, st₂.entry cd.levelId c⟩ data
      dsimp only at hlevels
      rw [hhoused.level_table hlevel] at hlevels
      simp only [Table.Replies, hdata, hoccupied, if_true, hout, Table.Answers, hlevels]
      exact hanswer

theorem replies_spectate :
    (onUpdatedata settings c true bbuf).Safe (server settings sendsSucceed).machine cleanup
      (AtEnd fun _ log' _ => st.table.Replies settings c ⟨cd, st.entry cd.levelId c⟩ bbuf
        (sends log') .spectateNoData) log st := by
  refine safe_silent trivial fun st₁ h₁ o _ log₁ hlog₁ => ?_
  obtain rfl := h₁.2.2 hne
  have hfound : (st₁.connectedClients.get c).map (·.levelId) = some cd.levelId := by
    rw [hcd, Option.map_some]
  simp only [step, hfound]
  apply safe_answerLevel_out hne hcd rfl
  intro t' log' st' out hout hanswer
  rw [hlog₁, hlog, List.nil_append] at hout
  rw [← congrArg State.levels (hhoused.state_table hne)] at hanswer
  simp only [Table.Replies, hout]
  exact hanswer

theorem replies_onLevellistrequest :
    (onLevellistrequest c).Safe (server settings sendsSucceed).machine cleanup
      (AtEnd fun _ log' _ => st.table.Replies settings c ⟨cd, st.entry cd.levelId c⟩ bbuf
        (sends log') .levelListRequest) log st := by
  refine safe_silent trivial fun st₁ h₁ o _ log₁ hlog₁ => ?_
  obtain rfl := h₁.2.2 hne
  apply safe_sendTo_out hcd
  intro t' log' st' hout
  rw [hlog₁, hlog, List.nil_append] at hout
  simp only [Table.Replies, hout]
  refine ⟨o.levelOrder, ?_⟩
  have hlevels : st₁.table.levels = st₁.levels :=
    congrArg State.levels (hhoused.state_table hne)
  rw [hlevels]
  rfl

end Handlers

/-- A packet that is dispatched. -/
theorem replies_dispatch (hreach : ReachableBy settings sendsSucceed Request.External st)
    {ptype : ClientPacketKind} (hcd : st.connectedClients.get c = some cd)
    (hlog : sends log = []) (hping : ptype ≠ .ping) (hp : ptype ≠ .checkIn) :
    (dispatch settings ptype c bbuf).Safe (server settings sendsSucceed).machine cleanup
      (AtEnd fun _ log' _ => st.table.Replies settings c ⟨cd, st.entry cd.levelId c⟩ bbuf
        (sends log') ptype) log st := by
  have hne := hreach.noEmptyLevel
  have hhoused := hreach.housed
  cases ptype with
  | keepalive => exact replies_onKeepalive hcd hlog
  | disconnect => exact replies_onDisconnect hlog
  | userLevelEntry => exact replies_onUserlevelentry hne hcd hlog
  | userLevelExit => exact replies_onUserlevelexit hcd hlog
  | userLevelData => exact replies_onUpdatedata hne hhoused hcd hlog hreach.wireFree.1
  | spectateNoData => exact replies_spectate hne hhoused hcd hlog
  | playerAccountDataRequest => exact replies_onPlayeraccountdatarequest hcd hlog
  | levelListRequest => exact replies_onLevellistrequest hne hhoused hcd hlog
  | sendTextMessage => exact replies_onSendtextmessage hcd hlog
  | ping => exact absurd rfl hping
  | checkIn => exact absurd rfl hp

/-- A CheckIn. -/
theorem replies_handleCheckIn {key : Int32} {peer : SocketAddr} :
    (handleCheckIn settings c key peer bbuf).Safe (server settings sendsSucceed).machine cleanup
      (AtEnd fun _ log' _ => sends log' = st.table.checkInReplies settings c peer bbuf) [] st := by
  refine safe_silent trivial fun st₁ h₁ o _ log₁ hlog₁ => ?_
  have hclients : st₁.connectedClients = st.connectedClients := h₁.1
  have hcontains : st.table.contains c = st₁.connectedClients.contains c := by
    rw [State.table, FiniteMap.contains_map, hclients]
  have hsize : FiniteMap.size st.table = st₁.connectedClients.size := by
    rw [State.table, FiniteMap.size_map, hclients]
  simp only [step, State.addClient]
  by_cases hknown : st₁.connectedClients.contains c = true
  · simp only [hknown, if_true]
    apply safe_sendBufTo_out
    intro t' log' st' hout
    simp only [Table.checkInReplies, hcontains, hknown, if_true, hout, hlog₁]
    rfl
  by_cases hfull : settings.maxClients ≠ 0 ∧
      Int32.ofNat st₁.connectedClients.size ≥ settings.maxClients
  · simp only [if_neg hknown, if_pos hfull]
    apply safe_sendBufTo_out
    intro t' log' st' hout
    have hfull' : st.table.Full settings := by rwa [Table.Full, hsize]
    simp only [Table.checkInReplies, hcontains, if_neg hknown, if_pos hfull', hsize, hout, hlog₁]
    rfl
  have hfull' : ¬st.table.Full settings := by rwa [Table.Full, hsize]
  simp only [if_neg hknown, if_neg hfull]
  cases hdata : PlayerAccountData.decode bbuf with
  | none =>
    simp only [read, hdata]
    refine safe_ended trivial fun st₂ _ => ?_
    simp only [Table.checkInReplies, hcontains, if_neg hknown, if_neg hfull', hdata, hlog₁]
    rfl
  | some p =>
    obtain ⟨data, rest⟩ := p
    simp only [read, hdata, Proc.ret_bind]
    cases hvalid : data.isValid with
    | false =>
      simp only [Bool.not_false, if_true]
      apply safe_sendBufTo_bind
      intro st₂ _
      have hsilent : (Proc.act (.takeClient c) fun _ => .ret () : Task Unit).Only
          Action.Silent := ⟨trivial, fun _ => trivial⟩
      apply safe_of_silent hsilent
      intro t' log' st' hout
      rw [sends_sendTo, hlog₁] at hout
      simp only [Table.checkInReplies, hcontains, if_neg hknown, if_neg hfull', hdata, hvalid, hout]
      rfl
    | true =>
      simp only [Bool.not_true, Bool.false_eq_true, if_false]
      refine safe_silent trivial fun st₂ h₂ o₂ _ log₂ hlog₂ => ?_
      have hget : (st₂.setPlayerData c data).2.connectedClients.get c =
          some (.checkedIn peer key o.now data) := by
        simp [State.setPlayerData, h₂.1, ClientData.checkedIn]
      have hfound : (st₂.setPlayerData c data).1 = true := by
        simp [State.setPlayerData, h₂.1, FiniteMap.contains]
      simp only [step, hfound]
      apply safe_sendTo_out hget
      intro t' log' st' hout
      rw [hlog₂, hlog₁] at hout
      simp only [Table.checkInReplies, hcontains, if_neg hknown, if_neg hfull', hdata, hvalid,
        if_true, hout]
      rfl

/-- A packet of a client that is turned away. -/
theorem replies_turnAway {peer : SocketAddr} {err : Error} (hlog : sends log = []) :
    (turnAway peer err).Safe (server settings sendsSucceed).machine cleanup
      (AtEnd fun _ log' _ => sends log' = Table.turnedAway peer err.toString) log st := by
  apply safe_sendBufTo_bind
  intro st₁ _
  refine safe_ended trivial fun st₂ _ => ?_
  rw [sends_sendTo, hlog]
  rfl

/-- A packet that has a header. -/
theorem replies_serve (hreach : ReachableBy settings sendsSucceed Request.External st)
    {ptype : ClientPacketKind} {key : Int32} {peer : SocketAddr} {buf : List UInt8}
    (hheader : header buf = some (ptype, c, key, bbuf)) :
    (serve settings ptype c key peer bbuf).Safe (server settings sendsSucceed).machine cleanup
      (AtEnd fun _ log' _ => st.table.PacketReplies settings buf peer (sends log')) [] st := by
  by_cases hid : c = 0
  · rw [serve, if_pos hid]
    apply safe_sendBufTo_out
    intro t' log' st' hout
    simp only [Table.PacketReplies, hheader, if_pos hid]
    exact hout
  by_cases hp : ptype = .checkIn
  · subst hp
    rw [serve, if_neg hid, if_pos rfl]
    apply replies_handleCheckIn.mono
    intro t' log' st' hend ht
    simp only [Table.PacketReplies, hheader, if_neg hid, if_true]
    exact hend ht
  rw [serve_verified peer bbuf hid hp]
  refine safe_silent trivial fun st₁ h₁ o _ log₁ hlog₁ => ?_
  obtain rfl := h₁.2.2 hreach.noEmptyLevel
  have haway : ∀ reason, (∀ out, out = Table.turnedAway peer reason →
      st₁.table.PacketReplies settings buf peer out) →
      (turnAway peer (.anyhow reason)).Safe (server settings sendsSucceed).machine cleanup
        (AtEnd fun _ log' _ => st₁.table.PacketReplies settings buf peer (sends log')) log₁
        st₁ := by
    intro reason hR
    apply (replies_turnAway hlog₁).mono
    intro t' log' st' hend ht
    exact hR _ (hend ht)
  cases hcd : st₁.connectedClients.get c with
  | none =>
    have hget : st₁.table.get c = none := by
      rw [State.table, FiniteMap.get_map, hcd, Option.map_none]
    simp only [step, State.verifySecretKey, hcd]
    apply haway
    intro out hout
    simpa only [Table.PacketReplies, hheader, if_neg hid, if_neg hp, hget] using hout
  | some cd =>
    have hget : st₁.table.get c = some ⟨cd, st₁.entry cd.levelId c⟩ := by
      rw [State.table, FiniteMap.get_map, hcd, Option.map_some]
    by_cases hkey : cd.secretKey = key
    · have hok : st₁.verifySecretKey c key = .ok () := by
        simp [State.verifySecretKey, hcd, hkey]
      simp only [step, hok]
      apply (replies_dispatch hreach hcd hlog₁ (header_ne_ping hheader) hp).mono
      intro t' log' st' hend ht
      simp only [Table.PacketReplies, hheader, if_neg hid, if_neg hp, hget, if_pos hkey]
      exact hend ht
    · have hwrong : st₁.verifySecretKey c key = .error (.anyhow "Secret key does not match") := by
        simp [State.verifySecretKey, hcd, hkey]
      simp only [step, hwrong]
      apply haway
      intro out hout
      simpa only [Table.PacketReplies, hheader, if_neg hid, if_neg hp, hget, if_neg hkey]
        using hout

/-- Any datagram. -/
theorem replies_handlePacket (hreach : ReachableBy settings sendsSucceed Request.External st)
    (buf : List UInt8) (peer : SocketAddr) :
    (handlePacket settings buf peer).Safe (server settings sendsSucceed).machine cleanup
      (AtEnd fun _ log' _ => st.table.PacketReplies settings buf peer (sends log')) [] st := by
  rcases header_cases buf with ⟨ptype, c, key, bbuf, hheader, -, hserve⟩ | ⟨hheader, -⟩
  · rw [hserve]
    exact replies_serve hreach hheader
  rcases headless_cases hheader settings peer with
    ⟨number, r, h₁, hping, hhandle⟩ | ⟨hended, hother⟩
  · rw [hhandle]
    have hR : ∀ out, (match readI32 r with
        | some (pingId, _) =>
          out = [(peer, asBytes (pingResponse pingId (FiniteMap.size st.table)))]
        | none => out = []) → st.table.PacketReplies settings buf peer out := by
      intro out hout
      simpa only [Table.PacketReplies, hheader, h₁, if_pos hping] using hout
    unfold handlePing
    cases hx : readI32 r with
    | none =>
      simp only [hx] at hR
      simp only [read, hx]
      exact safe_ended trivial fun _ _ => hR [] rfl
    | some p =>
      obtain ⟨pingId, rest⟩ := p
      simp only [hx] at hR
      simp only [read, hx, Proc.ret_bind]
      refine safe_silent trivial fun st₁ h₁ o _ log₁ hlog₁ => ?_
      apply safe_sendBufTo_out
      intro t' log' st' hout
      have hsize : FiniteMap.size st.table = st₁.connectedClients.size := by
        rw [State.table, FiniteMap.size_map, h₁.1]
      refine hR _ ?_
      rw [hout, hlog₁, hsize]
      rfl
  · refine safe_ended hended fun _ _ => ?_
    simp only [Table.PacketReplies, hheader]
    split
    · next number r h₁ =>
      rw [if_neg (hother number r h₁)]
      rfl
    · rfl

end Packets

/-! ## Ticks -/

section Ticks

variable [Bytebuffer] {settings : ServerSettings} {inputs : Input → Prop} {st : State}
  {log : List (Event Action.Answer)}
  {Q : Task Unit → List (Event Action.Answer) → State → Prop}

/-- What is sent of a level that exists. -/
def State.levelReplies (st : State) (o : IterOrder Int32) (levelId : Int32) : Table.Sent :=
  match st.levels.get levelId with
  | none => []
  | some level => (level.entries o).filterMap fun p => (addressOf st p.1).map
      (·, asBytes (levelDataPacket (level.entries o)))

theorem State.SameTargets.levelReplies {st' : State} (h : st.SameTargets st')
    (o : IterOrder Int32) (l : Int32) : st'.levelReplies o l = st.levelReplies o l := by
  simp only [State.levelReplies, h.1, h.2]

theorem State.Housed.levelReplies (hhoused : st.Housed) (hne : st.NoEmptyLevel)
    (o : IterOrder Int32) {l : Int32} (hl : st.table.Occupied l) :
    st.levelReplies o l = st.table.levelReplies o l := by
  obtain ⟨level, hlevel⟩ := FiniteMap.contains_iff.mp ((hhoused.occupied_iff hne).mp hl)
  simp only [State.levelReplies, hlevel, Table.levelReplies, hhoused.level_table hlevel]
  refine List.filterMap_congr fun p _ => ?_
  rw [addressOf, State.table, FiniteMap.get_map, Option.map_map, Option.map_map]
  rfl

/-- The players of a level, one after the other. -/
theorem safe_sendEach_out (hne : st.NoEmptyLevel) (players : List (Int32 × PlayerData))
    (buf : ByteBuffer) {f : Unit → Task Unit}
    (h : ∀ log', sends log' = sends log ++
        players.filterMap (fun p => (addressOf st p.1).map (·, asBytes buf)) →
      (f ()).Safe (server settings inputs).machine cleanup (AtEnd Q) log' st) :
    ((players.forM fun (playerId, _) => do
      let _ ← ((sendTo playerId buf).attempt : Task (Except Error Unit))) >>= f).Safe
      (server settings inputs).machine cleanup (AtEnd Q) log st := by
  induction players generalizing log with
  | nil => exact h log (by simp)
  | cons player players ih =>
    rw [Proc.forM_cons, bind_assoc]
    have hone := attempt_sendTo player.1 buf
    change (((sendTo player.1 buf).attempt >>= fun (_ : Except Error Unit) =>
      (.ret () : Task Unit)) >>= _).Safe _ _ _ _ _
    rw [hone, Proc.act_bind]
    refine safe_silent trivial fun st₁ h₁ o _ log₁ hlog₁ => ?_
    obtain rfl := h₁.2.2 hne
    simp only [List.filterMap_cons] at h
    cases haddr : addressOf st₁ player.1 with
    | none =>
      have hget : (st₁.connectedClients.get player.1).map (·.address) = none := haddr
      simp only [step, hget]
      apply ih
      intro log' hout
      apply h
      rw [hout, hlog₁, haddr]
      rfl
    | some addr =>
      have hget : (st₁.connectedClients.get player.1).map (·.address) = some addr := haddr
      simp only [step, hget]
      apply safe_act
      intro st₂ h₂ o₂ _
      obtain rfl := h₂.2.2 hne
      apply ih
      intro log' hout
      apply h
      rw [hout, sends_sendTo, hlog₁, haddr, List.append_assoc]
      rfl

/-- The levels of a tick, one after the other. -/
theorem safe_tickGroups_out {st₀ : State} (hne : st₀.NoEmptyLevel)
    {groups : List (Int32 × List Int32)} (hnodup : (groups.map Prod.fst).Nodup)
    (hsame : st₀.SameTargets st)
    (h : ∀ (os : Int32 → IterOrder Int32) t' log' st', sends log' = sends log ++
        (groups.map Prod.fst).flatMap (fun l => st₀.levelReplies (os l) l) → Q t' log' st') :
    (groups.forM tickGroup).Safe (server settings inputs).machine cleanup (AtEnd Q) log st := by
  induction groups generalizing log st with
  | nil =>
    refine safe_ended trivial fun st' _ => h (fun _ => .any Int32) _ log st' ?_
    rw [List.map_nil, List.flatMap_nil, List.append_nil]
  | cons group groups ih =>
    obtain ⟨hgroup, hnodup⟩ := List.nodup_cons.mp hnodup
    have hlevels : ∀ {st' : State}, st'.levels = st₀.levels → st'.NoEmptyLevel :=
      noEmptyLevel_of_levels hne
    rw [Proc.forM_cons]
    refine safe_silent trivial fun st₁ h₁ o _ log₁ hlog₁ => ?_
    obtain rfl := h₁.2.2 (hlevels hsame.1)
    have hsame' := hsame.tickLevel o.order group.1 group.2
    have hrest : ∀ log₂, sends log₂ = sends log ++ st₀.levelReplies o.order group.1 →
        (groups.forM tickGroup).Safe (server settings inputs).machine cleanup (AtEnd Q) log₂
          (st₁.tickLevel o.order group.1 group.2).2 := by
      intro log₂ hlog₂
      apply ih hnodup hsame'
      intro os t' log' st' hout
      apply h (Function.update os group.1 o.order) t' log' st'
      rw [hout, hlog₂, List.append_assoc, List.map_cons, List.flatMap_cons, Function.update_self]
      congr 2
      refine List.flatMap_congr fun l hl => ?_
      rw [Function.update_of_ne]
      rintro rfl
      exact hgroup hl
    have hanswer : (st₁.tickLevel o.order group.1 group.2).1 =
        (st₀.levels.get group.1).map (·.entries o.order) := by
      rw [← hsame.1, State.tickLevel]
      cases st₁.levels.get group.1 <;> rfl
    simp only [step, hanswer]
    cases hlevel : st₀.levels.get group.1 with
    | none =>
      apply hrest
      rw [hlog₁, State.levelReplies, hlevel, List.append_nil]
    | some level =>
      apply safe_sendEach_out (hlevels hsame'.1)
      intro log₂ hlog₂
      apply hrest
      rw [hlog₂, hlog₁, State.levelReplies, hlevel]
      simp only [hsame'.2]

omit [Bytebuffer] in
/-- Elements that contribute nothing may be left out. -/
theorem flatMap_filter {α β : Type} {p : α → Bool} {f : α → List β}
    (h : ∀ x, p x = false → f x = []) (xs : List α) : (xs.filter p).flatMap f = xs.flatMap f := by
  induction xs with
  | nil => rfl
  | cons x xs ih =>
    rw [List.filter_cons]
    split
    · rw [List.flatMap_cons, List.flatMap_cons, ih]
    · next hx =>
      rw [List.flatMap_cons, h x (by simpa using hx), ih]
      rfl

/-- **A tick** sends the levels of the table. -/
theorem replies_tick (hne : st.NoEmptyLevel) (hhoused : st.Housed) :
    tick.Safe (server settings inputs).machine cleanup
      (AtEnd fun _ log' _ => st.table.TickReplies (sends log')) [] st := by
  rw [tick_eq]
  refine safe_silent trivial fun st₁ h₁ o _ log₁ hlog₁ => ?_
  obtain rfl := h₁.2.2 hne
  apply safe_tickGroups_out hne (FiniteMap.nodup_keys_entries _ _) ⟨rfl, fun _ => rfl⟩
  intro os t' log' st' hout
  let groups := ((st₁.levelToPlayers o.order).entries o.levelOrder).map Prod.fst
  refine ⟨groups.filter fun l => st₁.table.Occupied l, os,
    (FiniteMap.nodup_keys_entries _ _).filter _, fun l => ?_, ?_⟩
  · rw [List.mem_filter, decide_eq_true_eq, and_iff_right_of_imp]
    intro hl
    change l ∈ ((st₁.levelToPlayers o.order).entries o.levelOrder).map Prod.fst
    rw [FiniteMap.map_fst_entries, o.levelOrder.mem, FiniteMap.mem_keys, mem_keys_levelToPlayers]
    obtain ⟨c, s, hs, rfl, hseen⟩ := Table.occupied_iff.mp hl
    obtain ⟨cd, hcd, rfl⟩ := Option.map_eq_some_iff.mp hs
    exact ⟨(hhoused c _ hseen).1, c, cd, hcd, rfl⟩
  · have hvacant : ∀ l, decide (st₁.table.Occupied l) = false → st₁.levelReplies (os l) l = [] := by
      intro l hl
      rw [decide_eq_false_iff_not, hhoused.occupied_iff hne, FiniteMap.contains,
        Option.isSome_iff_ne_none, not_not] at hl
      rw [State.levelReplies, hl]
    calc sends log' = groups.flatMap fun l => st₁.levelReplies (os l) l := by
          rw [hout, hlog₁]
          rfl
      _ = (groups.filter fun l => st₁.table.Occupied l).flatMap
            fun l => st₁.levelReplies (os l) l := (flatMap_filter hvacant groups).symm
      _ = _ := List.flatMap_congr fun l hl =>
          hhoused.levelReplies hne (os l) (of_decide_eq_true (List.mem_filter.mp hl).2)

end Ticks

/-! ## Runs -/

section Runs

variable [Bytebuffer] {settings : ServerSettings} {st : State}

/-- One request. -/
theorem replies_task (hreach : ReachableBy settings sendsSucceed Request.External st) {k : Request}
    (hk : k.External) :
    (k.task settings).Safe (server settings sendsSucceed).machine cleanup
      (AtEnd fun _ log' _ => st.table.RequestReplies settings (sends log') k) [] st := by
  cases k with
  | packet buf peer => exact replies_handlePacket hreach buf peer
  | sweep =>
    apply safe_of_silent (sweeps_removeDeadClients.mono fun _ => Action.Sweeps.silent)
    intro t' log' st' hout
    exact hout
  | tick => exact replies_tick hreach.noEmptyLevel hreach.housed
  | removeEmptyLevels => exact hk.elim

/-- **The replies of the server are those of its table**: while sends succeed and requests of any
kind and any bytes are handled one after another, the next one makes the server send what the table
says to which the former ones lead. -/
theorem server_replies {ks : List Request} {k : Request}
    (h : (server settings sendsSucceed).InTurn .new ks st) (hks : ∀ κ ∈ ks, κ.External)
    (hk : k.External) {conf : Config Action Action.Answer Error State Request}
    (hconf : (server settings sendsSucceed).Handles st k conf) :
    ∃ times : List SystemTime, times.length = ks.length ∧
      (Table.run .empty settings (ks.zip times)).RequestReplies settings
        (sends (events conf)) k := by
  obtain ⟨hreach, -, times, hlen, htable⟩ := inTurn_table h hks
  refine ⟨times, hlen, ?_⟩
  rw [← htable]
  exact handles_sends (R := fun out => st.table.RequestReplies settings out k) hconf
    (replies_task hreach hk)

omit [Bytebuffer] in
/-- Client 7 checks in and sends a Keepalive. -/
theorem server_replies_keepalive :
    letI := Bytebuffer.reference
    let settings : ServerSettings := ⟨30, 0, false, 60⟩
    ∃ st conf, (server settings sendsSucceed).InTurn .new [.packet checkIn7 peer7] st ∧
      (server settings sendsSucceed).Handles st
        (.packet [101, 0, 0, 0, 7, 0, 0, 0, 42] peer7) conf ∧
      sends (events conf) = [(peer7, asBytes (keepaliveResponse 1))] := by
  let := Bytebuffer.reference
  intro settings
  obtain ⟨st, hturn⟩ := exists_inTurn settings [.packet checkIn7 peer7]
  obtain ⟨conf, hconf⟩ := server_handles exists_sendsSucceed settings st
    (.packet [101, 0, 0, 0, 7, 0, 0, 0, 42] peer7)
  refine ⟨st, conf, hturn, hconf, ?_⟩
  obtain ⟨times, hlen, hreplies⟩ := server_replies hturn (by simp [Request.External])
    (external_packet _ _) hconf
  obtain ⟨hheader, hdata, hvalid⟩ := decode_checkIn7
  obtain ⟨now, rfl⟩ := List.length_eq_one_iff.mp hlen
  have hfull : ¬((FiniteMap.empty : Table).contains 7 = true ∨ Table.Full .empty settings) := by
    rintro (h | h)
    · cases h
    · exact h.1 rfl
  have hcheckIn : Table.run .empty settings [(.packet checkIn7 peer7, now)] =
      FiniteMap.insert .empty 7 ⟨.checkedIn peer7 42 now data7, none⟩ := by
    change Table.packet .empty settings now checkIn7 peer7 = _
    simp only [Table.packet, hheader, Table.checkIn, if_neg hfull, hdata, hvalid, if_true]
    rfl
  rw [List.zip_cons_cons, List.zip_nil_left, hcheckIn] at hreplies
  exact hreplies

end Runs

end Globed.Server
