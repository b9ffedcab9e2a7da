import Globed.Server.Entry

/-!
# Chat

A text message is cut to its first 80 bytes, once for each recipient. The cut panics if it falls
inside a character.
-/

namespace Globed.Server

open Concurrent Bytebuffer

/-! ## The cut -/

/-- The text that is sent for a message: the message itself, or its first 80 bytes. -/
def cutText (m : String) (h : m.utf8ByteSize ≤ 80 ∨ String.Pos.Raw.IsValid m ⟨80⟩) : String :=
  if hlen : m.utf8ByteSize ≤ 80 then m
  else ⟨m.toByteArray.extract 0 80, (h.resolve_left hlen).isValidUTF8_extract_zero⟩

theorem cutMessage_of_boundary {m : String}
    (h : m.utf8ByteSize ≤ 80 ∨ String.Pos.Raw.IsValid m ⟨80⟩) :
    cutMessage m = .ret (cutText m h) := by
  unfold cutMessage cutText
  by_cases hlen : m.utf8ByteSize ≤ 80
  · rw [if_neg (by omega), dif_pos hlen]
    rfl
  · rw [if_pos (by omega), dif_neg hlen, sliceTo, dif_pos (h.resolve_left hlen)]

theorem cutMessage_of_not_boundary {m : String}
    (h : ¬(m.utf8ByteSize ≤ 80 ∨ String.Pos.Raw.IsValid m ⟨80⟩)) : cutMessage m = .panic := by
  rw [not_or] at h
  rw [cutMessage, if_pos (by omega), sliceTo, dif_neg h.2]

theorem utf8_cutText {m : String} (h : m.utf8ByteSize ≤ 80 ∨ String.Pos.Raw.IsValid m ⟨80⟩) :
    utf8 (cutText m h) = (utf8 m).take 80 := by
  unfold cutText
  by_cases hlen : m.utf8ByteSize ≤ 80
  · rw [dif_pos hlen, List.take_of_length_le (by rwa [length_utf8])]
  · rw [dif_neg hlen, utf8, utf8, ByteArray.data_extract, Array.toList_extract,
      List.extract_eq_take_drop]
    rfl

theorem utf8ByteSize_cutText {m : String}
    (h : m.utf8ByteSize ≤ 80 ∨ String.Pos.Raw.IsValid m ⟨80⟩) :
    (cutText m h).utf8ByteSize ≤ 80 := by
  rw [← length_utf8, utf8_cutText, List.length_take]
  exact Nat.min_le_left _ _

theorem cutText_of_le {m : String} (hlen : m.utf8ByteSize ≤ 80) : cutText m (.inl hlen) = m := by
  rw [cutText, dif_pos hlen]

/-! ## The recipients -/

/-- The registered clients on a level. -/
structure OnLevel (st : State) (levelId : Int32) (ids : List Int32) : Prop where
  nodup : ids.Nodup
  mem : ∀ id, id ∈ ids ↔ ∃ cd, st.connectedClients.get id = some cd ∧ cd.levelId = levelId

def addressOf (st : State) (id : Int32) : Option SocketAddr :=
  (st.connectedClients.get id).map (·.address)

/-- Clients, each with a level that it is on. -/
abbrev Targets := List (Int32 × Int32)

/-- The registered clients that satisfy `p`, in the order in which they are visited. -/
def State.targets (st : State) (o : IterOrder Int32) (p : ClientData → Bool) : Targets :=
  ((st.connectedClients.entries o).filter (p ·.2)).map fun (id, client) => (client.levelId, id)

namespace State

variable {st : State} {o : IterOrder Int32} {p : ClientData → Bool}

theorem nodup_ids_targets : ((st.targets o p).map Prod.snd).Nodup := by
  rw [targets, List.map_map]
  exact (st.connectedClients.nodup_keys_entries o).sublist (List.filter_sublist.map Prod.fst)

theorem mem_targets {l id : Int32} :
    (l, id) ∈ st.targets o p ↔
      ∃ cd, st.connectedClients.get id = some cd ∧ cd.levelId = l ∧ p cd = true := by
  simp only [targets, List.mem_map, List.mem_filter, Prod.mk.injEq, Prod.exists,
    FiniteMap.mem_entries]
  constructor
  · rintro ⟨c, cd, ⟨hcd, hp⟩, hl, rfl⟩
    exact ⟨cd, hcd, hl, hp⟩
  · rintro ⟨cd, hcd, hl, hp⟩
    exact ⟨id, cd, ⟨hcd, hp⟩, hl, rfl⟩

theorem addresses_targets :
    (((st.connectedClients.entries o).filter (p ·.2)).map (·.2.address)).map some =
      (st.targets o p).map fun t => addressOf st t.2 := by
  rw [targets, List.map_map, List.map_map]
  refine List.map_congr_left fun e he => ?_
  have hget : st.connectedClients.get e.1 = some e.2 :=
    FiniteMap.mem_entries.mp (List.mem_of_mem_filter he)
  simp [addressOf, hget]

end State

theorem onLevel_entries (st : State) (o : IterOrder Int32) (levelId : Int32) :
    ∃ ids, OnLevel st levelId ids ∧
      (((st.connectedClients.entries o).filter (·.2.levelId = levelId)).map (·.2.address)).map
        some = ids.map (addressOf st) := by
  let targets := st.targets o fun client => client.levelId = levelId
  refine ⟨targets.map Prod.snd, ⟨State.nodup_ids_targets, fun id => ?_⟩, ?_⟩
  · simp only [targets, List.mem_map, Prod.exists, exists_eq_right, State.mem_targets,
      decide_eq_true_eq]
    constructor
    · rintro ⟨l, cd, hcd, -, hlevel⟩
      exact ⟨cd, hcd, hlevel⟩
    · rintro ⟨cd, hcd, hlevel⟩
      exact ⟨levelId, cd, hcd, hlevel, hlevel⟩
  · calc _ = targets.map fun t => addressOf st t.2 := State.addresses_targets
      _ = (targets.map Prod.snd).map (addressOf st) := by rw [List.map_map]; rfl

/-- The recipients of a message are the addresses of the clients on the sender's level. -/
theorem userRecipients_eq {st : State} {c : Int32} {cd : ClientData}
    (hcd : st.connectedClients.get c = some cd) (o : IterOrder Int32) :
    ∃ ids addrs, OnLevel st cd.levelId ids ∧ st.userRecipients o c = some addrs ∧
      addrs.map some = ids.map (addressOf st) := by
  obtain ⟨ids, hlevel, haddrs⟩ := onLevel_entries st o cd.levelId
  refine ⟨ids, _, hlevel, ?_, haddrs⟩
  rw [State.userRecipients, hcd, Option.map_some]

/-- The recipients of a broadcast to a level are the addresses of the clients on the level. -/
theorem recipients_eq (st : State) (o : IterOrder Int32) (levelId : Int32) :
    ∃ ids, OnLevel st levelId ids ∧
      (st.recipients o (some levelId)).map some = ids.map (addressOf st) := by
  obtain ⟨ids, hlevel, haddrs⟩ := onLevel_entries st o levelId
  refine ⟨ids, hlevel, ?_⟩
  rw [← haddrs]
  simp [State.recipients]

/-! ## Delivery -/

/-- The datagrams that were sent. -/
def sends (log : List (Event Action.Answer)) : List (SocketAddr × List UInt8) :=
  log.filterMap fun e =>
    match e with
    | ⟨.sendTo addr buf, _⟩ => some (addr, buf)
    | _ => none

theorem sends_append (log log' : List (Event Action.Answer)) :
    sends (log ++ log') = sends log ++ sends log' :=
  List.filterMap_append

theorem sends_map_sendTo (addrs : List SocketAddr) (buf : SocketAddr → List UInt8) :
    sends (addrs.map fun addr => ⟨.sendTo addr (buf addr), true⟩) =
      addrs.map fun addr => (addr, buf addr) := by
  induction addrs with
  | nil => rfl
  | cons addr addrs ih => exact congrArg ((addr, buf addr) :: ·) ih

variable [Bytebuffer] {settings : ServerSettings} {inputs : Input → Prop} {st : State} {c : Int32}
  {cd : ClientData} {bbuf rest : ByteReader} {m : String}

/-- The message `m` of the client `c` was delivered to all clients on the level; nothing else was
sent. -/
structure Delivered (st : State) (c levelId : Int32) (m : String)
    (conf : Config Action Action.Answer Error State Request) : Prop where
  no_panic : ∀ j ∈ conf.jobs, j.task ≠ .panic
  sent : ∃ ids text, OnLevel st levelId ids ∧
    utf8 text <+: utf8 m ∧ text.utf8ByteSize ≤ 80 ∧ (m.utf8ByteSize ≤ 80 → text = m) ∧
    (sends (events conf)).map (Prod.map some id) =
      ids.map fun id => (addressOf st id, asBytes (textMessage c text))

omit [Bytebuffer] in
/-- The recipients of a message are read off the clients as they were. -/
theorem userRecipients_of_clients {st' : State} (hcd : st.connectedClients.get c = some cd)
    (hclients : st'.connectedClients = st.connectedClients) (o : IterOrder Int32) :
    ∃ ids addrs, OnLevel st cd.levelId ids ∧ st'.userRecipients o c = some addrs ∧
      addrs.map some = ids.map (addressOf st) := by
  obtain ⟨ids, addrs, hlevel, hrecipients, haddrs⟩ := userRecipients_eq hcd o
  refine ⟨ids, addrs, hlevel, ?_, haddrs⟩
  rw [← hrecipients, State.userRecipients, hclients, State.userRecipients]

theorem safe_chat (hcd : st.connectedClients.get c = some cd)
    (hm : readString bbuf = some (m, rest))
    (h : m.utf8ByteSize ≤ 80 ∨ String.Pos.Raw.IsValid m ⟨80⟩) {log : List (Event Action.Answer)}
    (hlog : sends log = [] ∧ ∀ e ∈ log, spawned e = []) :
    (onSendtextmessage c bbuf).Safe (server settings sendsSucceed).machine cleanup
      (AtEnd fun t log' st' => t = .ret () ∧ st'.connectedClients = st.connectedClients ∧
        (∀ e ∈ log', spawned e = []) ∧ ∃ ids, OnLevel st cd.levelId ids ∧
          (sends log').map (Prod.map some id) =
            ids.map fun id => (addressOf st id, asBytes (textMessage c (cutText m h)))) log st := by
  unfold onSendtextmessage
  rw [hm]
  refine safe_act fun st₁ h₁ o _ => safe_act fun st₂ h₂ o' _ => ?_
  have hclients : st₂.connectedClients = st.connectedClients := h₂.1.trans h₁.1
  obtain ⟨ids, addrs, hlevel, hrecipients, haddrs⟩ :=
    userRecipients_of_clients hcd hclients o'.order
  simp only [step, hrecipients, cutMessage_of_boundary h, Proc.ret_bind]
  refine safe_sendAll fun st₃ h₃ => ⟨rfl, h₃.1.trans hclients, ?_, ids, hlevel, ?_⟩
  · intro e he
    simp only [List.append_assoc, List.mem_append, List.mem_singleton, List.mem_map] at he
    rcases he with he | rfl | rfl | ⟨addr, -, rfl⟩
    · exact hlog.2 e he
    · rfl
    · rfl
    · rfl
  · let bytes := asBytes (textMessage c (cutText m h))
    rw [sends_append, sends_append, sends_append, hlog.1, sends_map_sendTo]
    calc (addrs.map fun addr => (addr, bytes)).map (Prod.map some id)
        = (addrs.map some).map (·, bytes) := by rw [List.map_map, List.map_map]; rfl
      _ = ids.map fun id => (addressOf st id, bytes) := by rw [haddrs, List.map_map]; rfl

theorem safe_chat_panic (hcd : st.connectedClients.get c = some cd)
    (hm : readString bbuf = some (m, rest))
    (h : ¬(m.utf8ByteSize ≤ 80 ∨ String.Pos.Raw.IsValid m ⟨80⟩))
    {log : List (Event Action.Answer)} :
    (onSendtextmessage c bbuf).Safe (server settings inputs).machine cleanup
      (AtEnd fun t _ _ => t = .panic) log st := by
  unfold onSendtextmessage
  rw [hm]
  refine safe_act fun st₁ h₁ o _ => safe_act fun st₂ h₂ o' _ => ?_
  have hclients : st₂.connectedClients = st.connectedClients := h₂.1.trans h₁.1
  obtain ⟨ids, addrs, hlevel, hrecipients, haddrs⟩ :=
    userRecipients_of_clients hcd hclients o'.order
  -- the sender is one of the recipients, so the message is cut at least once
  have hc : c ∈ ids := (hlevel.mem c).mpr ⟨cd, hcd, rfl⟩
  have hne : addrs ≠ [] := by
    rintro rfl
    have hnil : ids = [] := List.map_eq_nil_iff.mp haddrs.symm
    rw [hnil] at hc
    cases hc
  obtain ⟨addr, addrs, rfl⟩ := List.exists_cons_of_ne_nil hne
  simp only [step, hrecipients, cutMessage_of_not_boundary h]
  exact safe_ended trivial fun _ _ => rfl

theorem delivered_of_boundary {buf : List UInt8} {peer : SocketAddr}
    (hreach : Reachable settings st)
    (hcd : st.connectedClients.get c = some cd)
    (hheader : header buf = some (.sendTextMessage, c, cd.secretKey, bbuf))
    (hm : readString bbuf = some (m, rest))
    (h : m.utf8ByteSize ≤ 80 ∨ String.Pos.Raw.IsValid m ⟨80⟩)
    {conf : Config Action Action.Answer Error State Request}
    (hconf : (server settings sendsSucceed).Handles st (.packet buf peer) conf) :
    Delivered st c cd.levelId m conf := by
  obtain ⟨log, r, js, hjobs, -, ⟨rfl, -, hsilent, ids, hlevel, hsends⟩, -, hnil⟩ :=
    hreach.handles_dispatched hcd hheader (by decide)
      (safe_chat hcd hm h ⟨rfl, by simp [spawned]⟩) hconf
  obtain rfl := hnil hsilent
  have hevents : events conf = log := by
    rw [events, hjobs]
    simp
  refine ⟨fun j hj => ?_, ids, cutText m h, hlevel, ?_, utf8ByteSize_cutText h, fun hlen => ?_, ?_⟩
  · rw [hjobs] at hj
    obtain rfl := List.mem_singleton.mp hj
    intro hpanic
    cases hpanic
  · rw [utf8_cutText]
    exact List.take_prefix 80 _
  · exact cutText_of_le hlen
  · rw [hevents, hsends]

theorem panics_of_not_boundary {buf : List UInt8} {peer : SocketAddr}
    (hreach : Reachable settings st)
    (hcd : st.connectedClients.get c = some cd)
    (hheader : header buf = some (.sendTextMessage, c, cd.secretKey, bbuf))
    (hm : readString bbuf = some (m, rest))
    (h : ¬(m.utf8ByteSize ≤ 80 ∨ String.Pos.Raw.IsValid m ⟨80⟩))
    {conf : Config Action Action.Answer Error State Request}
    (hconf : (server settings inputs).Handles st (.packet buf peer) conf) :
    ∃ j ∈ conf.jobs, j.task = .panic := by
  obtain ⟨log, r, js, hjobs, -, rfl, -⟩ :=
    hreach.handles_dispatched hcd hheader (by decide) (safe_chat_panic hcd hm h) hconf
  exact ⟨_, hjobs ▸ List.mem_cons_self, rfl⟩

/-- **A text message is delivered** to all clients on the level of its sender and to nobody else,
exactly if it is not longer than 80 bytes or has a character boundary at byte 80. -/
theorem chat_delivered_iff {buf : List UInt8} {peer : SocketAddr} (hreach : Reachable settings st)
    (hcd : st.connectedClients.get c = some cd)
    (hheader : header buf = some (.sendTextMessage, c, cd.secretKey, bbuf))
    (hm : readString bbuf = some (m, rest)) :
    (∀ conf, (server settings sendsSucceed).Handles st (.packet buf peer) conf →
      Delivered st c cd.levelId m conf) ↔
    m.utf8ByteSize ≤ 80 ∨ String.Pos.Raw.IsValid m ⟨80⟩ := by
  constructor
  · intro hall
    by_contra h
    obtain ⟨conf, hconf⟩ := server_handles exists_sendsSucceed settings st (.packet buf peer)
    obtain ⟨j, hj, hpanic⟩ := panics_of_not_boundary hreach hcd hheader hm h hconf
    exact (hall conf hconf).no_panic j hj hpanic
  · intro h conf hconf
    exact delivered_of_boundary hreach hcd hheader hm h hconf

omit [Bytebuffer] in
/-- For the message "hi" of client 7. -/
theorem chat_delivered_iff_hi :
    letI := Bytebuffer.reference
    let settings : ServerSettings := ⟨30, 0, false, 60⟩
    let buf : List UInt8 := [106, 0, 0, 0, 7, 0, 0, 0, 42, 0, 0, 0, 2, 104, 105]
    ∃ st cd, st.connectedClients.get 7 = some cd ∧
      ((∀ conf, (server settings sendsSucceed).Handles st (.packet buf (.v4 0x7f000001 4000)) conf →
        Delivered st 7 cd.levelId "hi" conf) ↔
      "hi".utf8ByteSize ≤ 80 ∨ String.Pos.Raw.IsValid "hi" ⟨80⟩) := by
  let := Bytebuffer.reference
  intro settings buf
  obtain ⟨st, cd, hreach, hclients, hkey, -, -⟩ :=
    exists_client_7_on_level_5 (fun _ _ => trivial) (external_packet _ _) (external_packet _ _)
  have hcd : st.connectedClients.get 7 = some cd := by
    rw [hclients, FiniteMap.get_insert_self]
  let bbuf : Bytes.BitReader := ⟨[0, 0, 0, 2, 104, 105], 0⟩
  have hheader : header buf = some (.sendTextMessage, 7, cd.secretKey, bbuf) := by
    rw [hkey]
    rfl
  have hm : Bytebuffer.readString bbuf = some ("hi", (⟨[], 0⟩ : Bytes.BitReader)) :=
    readText_append (s := "hi") (by decide) []
  exact ⟨st, cd, hcd, chat_delivered_iff hreach hcd hheader hm⟩

/-- A message whose byte 80 lies inside its last character. -/
def splitMessage : String :=
  "aaaaaaaaaaaaaaaaaaaaaaaaaaaaaaaaaaaaaaaaaaaaaaaaaaaaaaaaaaaaaaaaaaaaaaaaaaaaaaaé"

omit [Bytebuffer] in
/-- The message of 81 bytes that ends with a character of two bytes is not delivered. -/
theorem chat_panics_inside_character :
    letI := Bytebuffer.reference
    let settings : ServerSettings := ⟨30, 0, false, 60⟩
    let bbuf : Bytes.BitReader := ⟨Bytes.bigEndian 4 81 ++ (utf8 splitMessage ++ []), 0⟩
    let buf : List UInt8 := [106, 0, 0, 0, 7, 0, 0, 0, 42] ++ bbuf.bytes
    ∃ st cd, Reachable settings st ∧ st.connectedClients.get 7 = some cd ∧ cd.levelId = 5 ∧
      header buf = some (.sendTextMessage, 7, cd.secretKey, bbuf) ∧
      readString bbuf = some (splitMessage, (⟨[], 0⟩ : Bytes.BitReader)) ∧ buf.length ≤ 1024 ∧
      ∀ peer, ∃ conf, (server settings sendsSucceed).Handles st (.packet buf peer) conf ∧
        ∃ j ∈ conf.jobs, j.task = .panic := by
  let := Bytebuffer.reference
  intro settings bbuf buf
  obtain ⟨st, cd, hreach, hclients, hkey, hlevel, -⟩ :=
    exists_client_7_on_level_5 (fun _ _ => trivial) (external_packet _ _) (external_packet _ _)
  have hcd : st.connectedClients.get 7 = some cd := by
    rw [hclients, FiniteMap.get_insert_self]
  have hheader : header buf = some (.sendTextMessage, 7, cd.secretKey, bbuf) := by
    rw [hkey]
    rfl
  have hlen : splitMessage.utf8ByteSize = 81 := by decide
  have hm : Bytebuffer.readString bbuf = some (splitMessage, (⟨[], 0⟩ : Bytes.BitReader)) := by
    change readText ⟨Bytes.bigEndian 4 81 ++ (utf8 splitMessage ++ []), 0⟩ = _
    rw [← hlen, readText_append (by rw [hlen]; decide)]
  have hfits : buf.length ≤ 1024 := by
    simp [buf, bbuf, hlen]
  refine ⟨st, cd, hreach, hcd, hlevel, hheader, hm, hfits, fun peer => ?_⟩
  obtain ⟨conf, hconf⟩ := server_handles exists_sendsSucceed settings st (.packet buf peer)
  have hcut : ¬(splitMessage.utf8ByteSize ≤ 80 ∨ String.Pos.Raw.IsValid splitMessage ⟨80⟩) := by
    rw [not_or, hlen]
    exact ⟨by decide, by decide⟩
  exact ⟨conf, hconf, panics_of_not_boundary hreach hcd hheader hm hcut hconf⟩

end Globed.Server
