import Globed.Server.CheckIn
import Globed.Server.Invariants

/-!
# Entering a level

A well-formed UserLevelEntry, handled alone while all sends succeed, puts the client on the level.
So every client can get on every level.
-/

namespace Globed.Server

open Concurrent Bytebuffer

variable [Bytebuffer] {settings : ServerSettings} {st : State} {c key : Int32} {cd : ClientData}

theorem safe_broadcastMessage_bind {message : String} {color : UInt8 × UInt8 × UInt8}
    {levelId : Option Int32} {f : Unit → Task Unit} {log : List (Event Action.Answer)}
    {Q : Task Unit → List (Event Action.Answer) → State → Prop}
    (h : ∀ o st', cleanup.moves st st' →
      (f ()).Safe (server settings sendsSucceed).machine cleanup (AtEnd Q)
        (log ++ ⟨.recipients levelId, st.recipients o levelId⟩ :: (st.recipients o levelId).map
          fun addr => ⟨.sendTo addr (asBytes (serverBroadcast message color)), true⟩) st') :
    (broadcastMessage message color levelId >>= f).Safe (server settings sendsSucceed).machine
      cleanup (AtEnd Q) log st := by
  apply safe_act
  intro st₁ h₁ o _
  have hrecipients : st₁.recipients o.order levelId = st.recipients o.order levelId := by
    rw [State.recipients, h₁.1, State.recipients]
  simp only [step, hrecipients]
  apply safe_sendAll_bind
  intro st₂ h₂
  have hrest := h o.order st₂ (cleanup.trans h₁ h₂)
  rwa [List.append_cons] at hrest

/-- The second half of a UserLevelEntry: the client gets on the level. -/
theorem safe_enter {message : String} {color : UInt8 × UInt8 × UInt8} {level : Option Int32}
    {l : Int32} {log : List (Event Action.Answer)} :
    (broadcastMessage message color level >>= fun _ => addClientToLevel c l).Safe
      (server settings sendsSucceed).machine cleanup
      (AtEnd fun _ _ st' => st'.connectedClients = (st.setLevelId c l).connectedClients ∧
        ∀ l' c', st'.entry l' c' = (st.insertIntoLevel c l).2.entry l' c') log st := by
  apply safe_broadcastMessage_bind
  intro _ st₁ h₁
  apply safe_act
  intro st₂ h₂ o _
  have hinserted : (st₂.insertIntoLevel c l).1 = true := by
    rw [State.insertIntoLevel_eq]
  simp only [step, hinserted]
  apply safe_act
  intro st₃ h₃ _ _
  refine safe_ended trivial fun st₄ h₄ => ⟨?_, fun l' c' => ?_⟩
  · rw [h₄.1]
    change st₃.connectedClients.modify c _ = _
    rw [h₃.1, State.connectedClients_insertIntoLevel, h₂.1, h₁.1]
    rfl
  · rw [h₄.2.1]
    change st₃.entry l' c' = _
    rw [h₃.2.1, State.entry_insertIntoLevel, State.entry_insertIntoLevel, h₂.2.1, h₁.2.1]

/-- The first half: the client's name and level are read, and it is taken off its level. -/
theorem safe_onUserlevelentry_of_enter {inputs : Input → Prop} {bbuf rest : ByteReader} {x : Int32}
    {log : List (Event Action.Answer)} {Q : Task Unit → List (Event Action.Answer) → State → Prop}
    (hne : st.NoEmptyLevel) (hcd : st.connectedClients.get c = some cd)
    (hx : readI32 bbuf = some (x, rest))
    (h : ∀ log' st', st'.connectedClients = st.connectedClients →
      (∀ l' c', st'.entry l' c' =
        if cd.levelId ≠ -1 ∧ l' = cd.levelId ∧ c' = c then none else st.entry l' c') →
      (broadcastMessage s!"{cd.playerData.name} joined" (30, 200, 30) (some (levelIdOfPacket x)) >>=
        fun _ => addClientToLevel c (levelIdOfPacket x)).Safe (server settings inputs).machine
          cleanup (AtEnd Q) log' st') :
    (onUserlevelentry c bbuf).Safe (server settings inputs).machine cleanup (AtEnd Q) log st := by
  apply safe_act
  intro st₁ h₁ o _
  obtain rfl := h₁.2.2 hne
  have hfound : st₁.nameAndLevel c = some (cd.playerData.name, cd.levelId) := by
    rw [State.nameAndLevel, hcd, Option.map_some]
  simp only [step, hfound]
  apply safe_leaveLevel_bind hne
  intro tail st₂ _ hclients hentry _
  simp only [read, hx, Proc.ret_bind]
  exact h _ st₂ hclients hentry

theorem safe_onUserlevelentry {bbuf rest : ByteReader} {x : Int32}
    {log : List (Event Action.Answer)} (hne : st.NoEmptyLevel)
    (hcd : st.connectedClients.get c = some cd) (hx : readI32 bbuf = some (x, rest)) :
    (onUserlevelentry c bbuf).Safe (server settings sendsSucceed).machine cleanup
      (AtEnd fun _ _ st' =>
        st'.connectedClients =
          st.connectedClients.insert c { cd with levelId := levelIdOfPacket x } ∧
        st'.entry (levelIdOfPacket x) c = some .empty) log st := by
  apply safe_onUserlevelentry_of_enter hne hcd hx
  intro log' st₂ h₂ _
  apply safe_enter.mono
  rintro t log st' hend ht
  obtain ⟨hclients, hentry⟩ := hend ht
  constructor
  · rw [hclients, State.setLevelId, h₂]
    ext1 j
    by_cases hj : j = c <;> simp [hj, hcd]
  · rw [hentry, State.entry_insertIntoLevel, if_pos ⟨rfl, rfl⟩]

theorem handle_entry {inputs : Input → Prop} {arrives : Request → Prop} {buf : List UInt8}
    {peer : SocketAddr} {bbuf rest : ByteReader} {x : Int32}
    (hreach : ReachableBy settings inputs arrives st) (hcd : st.connectedClients.get c = some cd)
    (hheader : header buf = some (.userLevelEntry, c, cd.secretKey, bbuf))
    (hx : readI32 bbuf = some (x, rest))
    {conf : Config Action Action.Answer Error State Request}
    (h : (server settings sendsSucceed).Handles st (.packet buf peer) conf) :
    conf.state.connectedClients =
      st.connectedClients.insert c { cd with levelId := levelIdOfPacket x } ∧
    conf.state.entry (levelIdOfPacket x) c = some .empty := by
  obtain ⟨_, _, _, _, _, hend, _⟩ := hreach.handles_dispatched hcd hheader (by decide)
    (safe_onUserlevelentry hreach.noEmptyLevel hcd hx) h
  exact hend

/-- A client with valid data is checked in, if its id is free and there is room. -/
theorem handle_checkedIn {buf : List UInt8} {peer : SocketAddr} {r r' : ByteReader}
    {data : PlayerAccountData} (hfree : st.connectedClients.get c = none)
    (hfull : ¬st.Full settings) (hc : c ≠ 0)
    (hheader : header buf = some (.checkIn, c, key, r))
    (hdata : PlayerAccountData.decode r = some (data, r')) (hvalid : data.isValid = true)
    {conf : Config Action Action.Answer Error State Request}
    (hconf : (server settings sendsSucceed).Handles st (.packet buf peer) conf) :
    ∃ now, conf.state.connectedClients =
      st.connectedClients.insert c (.checkedIn peer key now data) := by
  have haccepted : ¬(st.connectedClients.contains c = true ∨ st.Full settings) := by
    rintro (h | h)
    · rw [FiniteMap.contains, hfree] at h
      cases h
    · exact hfull h
  cases handle_checkIn hheader hc hconf with
  | refused h _ => exact absurd h haccepted
  | undecoded _ hnone _ _ =>
    rw [hdata] at hnone
    cases hnone
  | invalid _ _ _ hdata' hvalid' _ =>
    rw [hdata] at hdata'
    cases hdata'
    rw [hvalid] at hvalid'
    cases hvalid'
  | signedIn _ _ _ hdata' _ now hclients _ =>
    rw [hdata] at hdata'
    cases hdata'
    exact ⟨now, hclients⟩

/-- A client with valid data can check in, if its id is free and there is room. -/
theorem ReachableBy.exists_checkedIn {arrives : Request → Prop}
    (hreach : ReachableBy settings sendsSucceed arrives st) (peer : SocketAddr) {buf : List UInt8}
    {r r' : ByteReader} {data : PlayerAccountData} (har : arrives (.packet buf peer))
    (hfree : st.connectedClients.get c = none) (hfull : ¬st.Full settings) (hc : c ≠ 0)
    (hheader : header buf = some (.checkIn, c, key, r))
    (hdata : PlayerAccountData.decode r = some (data, r')) (hvalid : data.isValid = true) :
    ∃ st' now, ReachableBy settings sendsSucceed arrives st' ∧
      st'.connectedClients = st.connectedClients.insert c (.checkedIn peer key now data) := by
  obtain ⟨conf, hconf⟩ := server_handles exists_sendsSucceed settings st (.packet buf peer)
  obtain ⟨now, hclients⟩ := handle_checkedIn hfree hfull hc hheader hdata hvalid hconf
  exact ⟨conf.state, now, hreach.handle har hconf, hclients⟩

/-- **Every client can get on every level**: the server reaches a state in which the client is on
the level, and nobody else is registered. -/
theorem exists_reachable_on_level {arrives : Request → Prop} (peer : SocketAddr)
    {buf₁ buf₂ : List UInt8} {r₁ r₁' r₂ r₂' : ByteReader} {data : PlayerAccountData} {x : Int32}
    (ha₁ : arrives (.packet buf₁ peer)) (ha₂ : arrives (.packet buf₂ peer))
    (hfull : ¬State.new.Full settings) (hc : c ≠ 0)
    (h₁ : header buf₁ = some (.checkIn, c, key, r₁))
    (hdata : PlayerAccountData.decode r₁ = some (data, r₁')) (hvalid : data.isValid = true)
    (h₂ : header buf₂ = some (.userLevelEntry, c, key, r₂))
    (hx : readI32 r₂ = some (x, r₂')) :
    ∃ st now, ReachableBy settings sendsSucceed arrives st ∧
      st.connectedClients = FiniteMap.empty.insert c
        { address := peer, secretKey := key, levelId := levelIdOfPacket x
          lastKeepaliveTime := now, playerData := data } ∧
      st.entry (levelIdOfPacket x) c = some .empty := by
  obtain ⟨st, now, hreach, hclients⟩ :=
    ReachableBy.new.exists_checkedIn peer ha₁ rfl hfull hc h₁ hdata hvalid
  have hcd : st.connectedClients.get c = some (.checkedIn peer key now data) := by
    rw [hclients, FiniteMap.get_insert_self]
  obtain ⟨conf, hconf⟩ := server_handles exists_sendsSucceed settings st (.packet buf₂ peer)
  obtain ⟨hclients', hentry⟩ := handle_entry hreach hcd h₂ hx hconf
  refine ⟨conf.state, now, hreach.handle ha₂ hconf, ?_, hentry⟩
  rw [hclients', hclients, FiniteMap.insert_insert_self]
  rfl

/-! ## Client 7 -/

section Client7

omit [Bytebuffer]

/-- A CheckIn of client 7 with the key 42. -/
def checkIn7 : List UInt8 :=
  [100, 0, 0, 0, 7, 0, 0, 0, 42, 0, 0, 0, 0, 0, 0, 0, 1, 0, 0, 0, 0, 0, 0, 0, 1, 0, 0, 0, 1, 0, 0,
    0, 1, 0, 0, 0, 1, 0, 0, 0, 0, 0, 0, 0, 0, 0, 0, 0, 1, 0, 0, 0, 0, 0]

/-- A UserLevelEntry of client 7. -/
def entry7 (level : UInt8) : List UInt8 := [110, 0, 0, 0, 7, 0, 0, 0, 42, 0, 0, 0, level]

def peer7 : SocketAddr := .v4 0x7f000001 4000

def data7 : PlayerAccountData :=
  { PlayerAccountData.empty with
    ship := 1, ufo := 1, wave := 1, robot := 1, spider := 1, deathEffect := 1 }

theorem decode_checkIn7 :
    letI := Bytebuffer.reference
    header checkIn7 = some (.checkIn, 7, 42, ⟨checkIn7.drop 9, 0⟩) ∧
      PlayerAccountData.decode (⟨checkIn7.drop 9, 0⟩ : Bytes.BitReader) = some (data7, ⟨[], 0⟩) ∧
      data7.isValid = true :=
  ⟨rfl, rfl, rfl⟩

theorem decode_entry7 (level : UInt8) :
    letI := Bytebuffer.reference
    header (entry7 level) = some (.userLevelEntry, 7, 42, ⟨[0, 0, 0, level], 0⟩) :=
  rfl

theorem exists_client_7_checkedIn {inputs : Input → Prop} {arrives : Request → Prop}
    (hin : ∀ o, sendsSucceed o → inputs o) (har : arrives (.packet checkIn7 peer7)) :
    letI := Bytebuffer.reference
    ∃ st now, ReachableBy ⟨30, 0, false, 60⟩ inputs arrives st ∧
      st.connectedClients = FiniteMap.empty.insert 7 (.checkedIn peer7 42 now data7) := by
  let := Bytebuffer.reference
  obtain ⟨hheader, hdata, hvalid⟩ := decode_checkIn7
  have hfull : ¬State.new.Full ⟨30, 0, false, 60⟩ := fun h => h.1 rfl
  have hseven : (7 : Int32) ≠ 0 := by decide
  obtain ⟨st, now, hreach, hclients⟩ :=
    ReachableBy.new.exists_checkedIn peer7 har rfl hfull hseven hheader hdata hvalid
  exact ⟨st, now, hreach.mono hin fun _ => id, hclients⟩

/-- Client 7 gets on level 5. -/
theorem exists_client_7_on_level_5 {inputs : Input → Prop} {arrives : Request → Prop}
    (hin : ∀ o, sendsSucceed o → inputs o) (har₁ : arrives (.packet checkIn7 peer7))
    (har₂ : arrives (.packet (entry7 5) peer7)) :
    letI := Bytebuffer.reference
    ∃ st cd, ReachableBy ⟨30, 0, false, 60⟩ inputs arrives st ∧
      st.connectedClients = FiniteMap.empty.insert 7 cd ∧
      cd.secretKey = 42 ∧ cd.levelId = 5 ∧ st.entry 5 7 = some .empty := by
  let := Bytebuffer.reference
  obtain ⟨hheader, hdata, hvalid⟩ := decode_checkIn7
  have hfull : ¬State.new.Full ⟨30, 0, false, 60⟩ := fun h => h.1 rfl
  have hseven : (7 : Int32) ≠ 0 := by decide
  have hx : Bytebuffer.readI32 (⟨[0, 0, 0, 5], 0⟩ : Bytes.BitReader) =
      some (5, (⟨[], 0⟩ : Bytes.BitReader)) := rfl
  obtain ⟨st, now, hreach, hclients, hentry⟩ :=
    exists_reachable_on_level peer7 har₁ har₂ hfull hseven hheader hdata hvalid (decode_entry7 5) hx
  exact ⟨st, _, hreach.mono hin fun _ => id, hclients, rfl, rfl, hentry⟩

/-! ### Client 8 -/

/-- A CheckIn of client 8 with the key 42. -/
def checkIn8 : List UInt8 := [100, 0, 0, 0, 8, 0, 0, 0, 42] ++ checkIn7.drop 9

/-- A UserLevelEntry of client 8. -/
def entry8 (level : UInt8) : List UInt8 := [110, 0, 0, 0, 8, 0, 0, 0, 42, 0, 0, 0, level]

theorem decode_checkIn8 :
    letI := Bytebuffer.reference
    header checkIn8 = some (.checkIn, 8, 42, ⟨checkIn7.drop 9, 0⟩) :=
  rfl

theorem decode_entry8 (level : UInt8) :
    letI := Bytebuffer.reference
    header (entry8 level) = some (.userLevelEntry, 8, 42, ⟨[0, 0, 0, level], 0⟩) :=
  rfl

/-- Clients 7 and 8 check in. -/
theorem exists_clients_7_8_checkedIn {arrives : Request → Prop}
    (har₇ : arrives (.packet checkIn7 peer7)) (har₈ : arrives (.packet checkIn8 peer7)) :
    letI := Bytebuffer.reference
    ∃ st now₇ now₈, ReachableBy ⟨30, 0, false, 60⟩ sendsSucceed arrives st ∧
      st.connectedClients.get 7 = some (.checkedIn peer7 42 now₇ data7) ∧
      st.connectedClients.get 8 = some (.checkedIn peer7 42 now₈ data7) := by
  let := Bytebuffer.reference
  obtain ⟨-, hdata, hvalid⟩ := decode_checkIn7
  obtain ⟨st₁, now₇, hreach₁, hclients₁⟩ := exists_client_7_checkedIn (fun _ h => h) har₇
  have hfree : st₁.connectedClients.get 8 = none := by
    rw [hclients₁]
    rfl
  have hfull : ¬st₁.Full ⟨30, 0, false, 60⟩ := fun h => h.1 rfl
  obtain ⟨st, now₈, hreach, hclients⟩ :=
    hreach₁.exists_checkedIn peer7 har₈ hfree hfull (by decide) decode_checkIn8 hdata hvalid
  refine ⟨st, now₇, now₈, hreach, ?_, ?_⟩
  · rw [hclients, FiniteMap.get_insert_of_ne _ _ (by decide), hclients₁, FiniteMap.get_insert_self]
  · rw [hclients, FiniteMap.get_insert_self]

end Client7

end Globed.Server
