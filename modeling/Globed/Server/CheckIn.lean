import Globed.Server.Alone

/-!
# CheckIn

A CheckIn registers the client before it reads the account data. If the data is not valid, the
client is taken off again; if it cannot be decoded, the client stays registered without data.
`client_step` says what any section does to the record of a client.
-/

namespace Globed.Server

open Concurrent Bytebuffer

/-- The server takes no more clients. -/
def State.Full (settings : ServerSettings) (st : State) : Prop :=
  settings.maxClients ≠ 0 ∧ Int32.ofNat st.connectedClients.size ≥ settings.maxClients

/-- The record of a client that has just checked in. -/
def ClientData.checkedIn (address : SocketAddr) (secretKey : Int32) (now : SystemTime)
    (data : PlayerAccountData) : ClientData :=
  { address, secretKey, levelId := -1, lastKeepaliveTime := now, playerData := data }

theorem State.addClient_refused {settings : ServerSettings} (st : State) {clientId : Int32}
    (h : st.connectedClients.contains clientId = true ∨ st.Full settings) (now : SystemTime)
    (address : SocketAddr) (key : Int32) :
    ∃ e, st.addClient settings now clientId address key = (.error e, st) := by
  unfold State.addClient
  by_cases hc : st.connectedClients.contains clientId = true
  · exact ⟨_, if_pos hc⟩
  · have hfull : st.Full settings := h.resolve_left hc
    unfold State.Full at hfull
    exact ⟨_, by rw [if_neg hc, if_pos hfull]⟩

theorem State.addClient_accepted {settings : ServerSettings} (st : State) {clientId : Int32}
    (hc : ¬st.connectedClients.contains clientId = true) (hfull : ¬st.Full settings)
    (now : SystemTime) (address : SocketAddr) (key : Int32) :
    st.addClient settings now clientId address key =
      (.ok (), { st with connectedClients :=
        st.connectedClients.insert clientId (.checkedIn address key now .empty) }) := by
  unfold State.Full at hfull
  rw [State.addClient, if_neg hc, if_neg hfull]
  rfl

/-! ## What a section does to a session -/

/-- How a section may change the record of a client that stays registered. -/
inductive ClientData.Changes (now : SystemTime) (cd : ClientData) : ClientData → Prop
  | same : Changes now cd cd
  | levelId (levelId : Int32) : Changes now cd { cd with levelId }
  | playerData (playerData : PlayerAccountData) : Changes now cd { cd with playerData }
  | keepalive : Changes now cd { cd with lastKeepaliveTime := now }

/-- The record of a client after a section that changes one of them. -/
theorem ClientData.Changes.of_modify {now : SystemTime} {m : FiniteMap Int32 ClientData}
    {c id : Int32} {f : ClientData → ClientData} {cd' : ClientData}
    (hf : ∀ cd, Changes now cd (f cd)) (h : (m.modify id f).get c = some cd') :
    ∃ cd, m.get c = some cd ∧ Changes now cd cd' := by
  rw [FiniteMap.get_modify] at h
  split at h
  · obtain ⟨cd, hcd, rfl⟩ := Option.map_eq_some_iff.mp h
    exact ⟨cd, hcd, hf cd⟩
  · exact ⟨cd', h, .same⟩

/-- Every session that a section leaves in the registry was there, with a record that it may have
changed, or has just been accepted under an id that was free. -/
theorem client_step (settings : ServerSettings) (o : Input) (a : Action) {st : State} {c : Int32}
    {cd' : ClientData} (h : (step settings o a st).2.connectedClients.get c = some cd') :
    (∃ cd, st.connectedClients.get c = some cd ∧ cd.Changes o.now cd') ∨
      ∃ address key, a = .addClient c address key ∧ st.connectedClients.get c = none ∧
        cd' = .checkedIn address key o.now .empty := by
  have hkept : ∀ {st' : State}, st'.connectedClients.get c = some cd' →
      st'.connectedClients = st.connectedClients →
      ∃ cd, st.connectedClients.get c = some cd ∧ cd.Changes o.now cd' := by
    intro st' hget heq
    rw [heq] at hget
    exact ⟨cd', hget, .same⟩
  cases a with
  | addClient id address key =>
    by_cases hno : st.connectedClients.contains id = true ∨ st.Full settings
    · obtain ⟨e, he⟩ := st.addClient_refused hno o.now address key
      rw [step, he] at h
      exact .inl (hkept h rfl)
    · rw [not_or] at hno
      rw [step, st.addClient_accepted hno.1 hno.2 o.now address key] at h
      by_cases hc : c = id
      · subst hc
        rw [FiniteMap.get_insert_self] at h
        cases h
        refine .inr ⟨address, key, rfl, ?_, rfl⟩
        rw [← Option.not_isSome_iff_eq_none]
        exact hno.1
      · rw [FiniteMap.get_insert_of_ne _ _ hc] at h
        exact .inl ⟨cd', h, .same⟩
  | takeClient id =>
    have hget : (st.connectedClients.erase id).get c = some cd' := h
    rw [FiniteMap.get_erase] at hget
    split at hget
    · cases hget
    · exact .inl ⟨cd', hget, .same⟩
  | setLevelId id level => exact .inl (ClientData.Changes.of_modify (fun _ => .levelId level) h)
  | exitLevel id => exact .inl (ClientData.Changes.of_modify (fun _ => .levelId (-1)) h)
  | setPlayerData id data => exact .inl (ClientData.Changes.of_modify (fun _ => .playerData data) h)
  | keepalive id => exact .inl (ClientData.Changes.of_modify (fun _ => .keepalive) h)
  | insertIntoLevel id level =>
    exact .inl (hkept h (st.connectedClients_insertIntoLevel id level))
  | removeFromLevel id level =>
    exact .inl (hkept h (st.connectedClients_removeFromLevel id level))
  | storePlayerData id level data =>
    exact .inl (hkept h (st.connectedClients_storePlayerData id level data))
  | tickLevel level players =>
    have hget : (st.tickLevel o.order level players).2.connectedClients.get c = some cd' := h
    rw [State.get_tickLevel] at hget
    split at hget
    · obtain ⟨cd, hcd, rfl⟩ := Option.map_eq_some_iff.mp hget
      exact .inl ⟨cd, hcd, .levelId (-1)⟩
    · exact .inl ⟨cd', hget, .same⟩
  | _ => exact .inl (hkept h rfl)

variable [Bytebuffer] {settings : ServerSettings} {st : State} {clientId key : Int32}
  {peer : SocketAddr} {bbuf : ByteReader}

/-- What a CheckIn has done when it ends in the state `st'` with the log `log`. -/
inductive CheckedInAs (settings : ServerSettings) (st : State) (clientId key : Int32)
    (peer : SocketAddr) (bbuf : ByteReader) (log : List (Event Action.Answer)) (st' : State) : Prop
  | refused (h : st.connectedClients.contains clientId = true ∨ st.Full settings)
      (hclients : st'.connectedClients = st.connectedClients)
  | undecoded (h : ¬(st.connectedClients.contains clientId = true ∨ st.Full settings))
      (hdata : PlayerAccountData.decode bbuf = none) (now : SystemTime)
      (hclients : st'.connectedClients =
        st.connectedClients.insert clientId (.checkedIn peer key now .empty))
  | invalid (h : ¬(st.connectedClients.contains clientId = true ∨ st.Full settings))
      (data : PlayerAccountData) (rest : ByteReader)
      (hdata : PlayerAccountData.decode bbuf = some (data, rest)) (hvalid : data.isValid = false)
      (hclients : st'.connectedClients = st.connectedClients)
  | signedIn (h : ¬(st.connectedClients.contains clientId = true ∨ st.Full settings))
      (data : PlayerAccountData) (rest : ByteReader)
      (hdata : PlayerAccountData.decode bbuf = some (data, rest)) (hvalid : data.isValid = true)
      (now : SystemTime)
      (hclients : st'.connectedClients =
        st.connectedClients.insert clientId (.checkedIn peer key now data))
      (hsent : ⟨.sendTo peer (asBytes (checkedIn settings)), true⟩ ∈ log)

theorem safe_handleCheckIn :
    (handleCheckIn settings clientId key peer bbuf).Safe (server settings sendsSucceed).machine
      cleanup (AtEnd fun _ => CheckedInAs settings st clientId key peer bbuf) [] st := by
  refine safe_act fun st₁ h₁ o ho => ?_
  have hcontains : st₁.connectedClients = st.connectedClients := h₁.1
  by_cases href : st.connectedClients.contains clientId = true ∨ st.Full settings
  · have href₁ : st₁.connectedClients.contains clientId = true ∨ st₁.Full settings := by
      rwa [State.Full, hcontains]
    obtain ⟨e, he⟩ := st₁.addClient_refused href₁ o.now peer key
    simp only [step, he]
    exact safe_sendBufTo fun st₂ h₂ => .refused href (h₂.1.trans hcontains)
  have hfree : ¬st₁.connectedClients.contains clientId = true := by
    rw [hcontains]
    exact fun h => href (.inl h)
  have hroom : ¬st₁.Full settings := by
    rw [State.Full, hcontains]
    exact fun h => href (.inr h)
  have hnone : st.connectedClients.get clientId = none := by
    rw [← FiniteMap.contains_eq_false]
    simpa using fun h => href (.inl h)
  have hadd := st₁.addClient_accepted hfree hroom o.now peer key
  simp only [step, hadd, read]
  cases hdata : PlayerAccountData.decode bbuf with
  | none =>
    refine safe_ended trivial fun st₂ h₂ => .undecoded href hdata o.now ?_
    rw [h₂.1, hcontains]
  | some p =>
    obtain ⟨data, rest⟩ := p
    simp only [Proc.ret_bind]
    by_cases hvalid : data.isValid = true
    · rw [if_neg (by simp [hvalid])]
      refine safe_act fun st₂ h₂ o' _ => ?_
      have hclients : st₂.connectedClients =
          st.connectedClients.insert clientId (.checkedIn peer key o.now .empty) := by
        rw [h₂.1, hcontains]
      have hfound : st₂.connectedClients.contains clientId = true := by
        rw [FiniteMap.contains_iff, hclients]
        exact ⟨_, FiniteMap.get_insert_self _ _ _⟩
      have hset : (st₂.setPlayerData clientId data).2.connectedClients =
          st.connectedClients.insert clientId (.checkedIn peer key o.now data) := by
        rw [State.setPlayerData, hclients, FiniteMap.modify_insert_self]
        rfl
      have hget : (st₂.setPlayerData clientId data).2.connectedClients.get clientId =
          some (.checkedIn peer key o.now data) := by
        rw [hset, FiniteMap.get_insert_self]
      simp only [step, State.setPlayerData, hfound]
      refine safe_sendTo hget fun log' st₃ h₃ hsent => ?_
      exact .signedIn href data rest hdata hvalid o.now (h₃.1.trans hset)
        (List.mem_append_right _ hsent)
    · rw [if_pos (by simp [hvalid])]
      refine safe_sendBufTo_bind fun st₂ h₂ => ?_
      refine safe_act fun st₃ h₃ o' _ => safe_ended trivial fun st₄ h₄ => ?_
      refine .invalid href data rest hdata (by simpa using hvalid) ?_
      rw [h₄.1]
      change st₃.connectedClients.erase clientId = _
      rw [h₃.1, h₂.1, hcontains]
      exact FiniteMap.erase_insert hnone

/-- The actions of all jobs. -/
def events (conf : Config Action Action.Answer Error State Request) : List (Event Action.Answer) :=
  conf.jobs.flatMap Job.log

theorem CheckedInAs.mono {log log' : List (Event Action.Answer)} {st' : State}
    (h : CheckedInAs settings st clientId key peer bbuf log st') (hlog : ∀ e ∈ log, e ∈ log') :
    CheckedInAs settings st clientId key peer bbuf log' st' := by
  cases h with
  | refused h hc => exact .refused h hc
  | undecoded h hd now hc => exact .undecoded h hd now hc
  | invalid h data rest hd hv hc => exact .invalid h data rest hd hv hc
  | signedIn h data rest hd hv now hc hs => exact .signedIn h data rest hd hv now hc (hlog _ hs)

/-- Every CheckIn that is handled ends in one of the four ways. -/
theorem handle_checkIn {buf : List UInt8}
    (hheader : header buf = some (.checkIn, clientId, key, bbuf)) (hid : clientId ≠ 0)
    {conf : Config Action Action.Answer Error State Request}
    (h : (server settings sendsSucceed).Handles st (.packet buf peer) conf) :
    CheckedInAs settings st clientId key peer bbuf (events conf) conf.state := by
  have htask : (Request.packet buf peer).task settings =
      handleCheckIn settings clientId key peer bbuf := by
    rw [Request.task, handlePacket_of_header hheader, serve, if_neg hid, if_pos rfl]
  obtain ⟨log, r, js, hjobs, -, hQ, -⟩ := handles_safe h (htask ▸ safe_handleCheckIn)
  refine hQ.mono fun e he => ?_
  rw [events, hjobs]
  exact List.mem_append_left _ he

/-- Either the client is newly registered with account data that was decoded and is valid, and is
told so, or nobody is registered or removed. -/
def AllOrNothing (settings : ServerSettings) (st : State) (clientId key : Int32)
    (peer : SocketAddr) (bbuf : ByteReader)
    (conf : Config Action Action.Answer Error State Request) : Prop :=
  (st.connectedClients.get clientId = none ∧
    ∃ data rest now, PlayerAccountData.decode bbuf = some (data, rest) ∧ data.isValid = true ∧
      conf.state.connectedClients = st.connectedClients.insert clientId
        { address := peer, secretKey := key, levelId := -1, lastKeepaliveTime := now
          playerData := data } ∧
      ⟨.sendTo peer (asBytes (checkedIn settings)), true⟩ ∈ events conf) ∨
  conf.state.connectedClients = st.connectedClients

/-- **A CheckIn is all or nothing** exactly if the client is known, the server is full, or the
account data can be decoded. -/
theorem checkIn_allOrNothing_iff {buf : List UInt8}
    (hheader : header buf = some (.checkIn, clientId, key, bbuf)) (hid : clientId ≠ 0) :
    (∀ conf, (server settings sendsSucceed).Handles st (.packet buf peer) conf →
      AllOrNothing settings st clientId key peer bbuf conf) ↔
    st.connectedClients.contains clientId = true ∨ st.Full settings ∨
      (PlayerAccountData.decode bbuf).isSome = true := by
  constructor
  · intro hall
    obtain ⟨conf, hconf⟩ := server_handles exists_sendsSucceed settings st (.packet buf peer)
    have hor := hall conf hconf
    cases handle_checkIn hheader hid hconf with
    | refused h _ => exact h.imp_right .inl
    | undecoded h hdata now hclients =>
      exfalso
      rcases hor with ⟨-, data, rest, -, hdata', -⟩ | hsame
      · rw [hdata] at hdata'
        cases hdata'
      · -- the client is there now, so it was there before
        apply h
        left
        rw [FiniteMap.contains_iff, ← hsame, hclients]
        exact ⟨_, FiniteMap.get_insert_self _ _ _⟩
    | invalid h data rest hdata _ _ => exact .inr (.inr (by rw [hdata]; rfl))
    | signedIn h data rest hdata _ _ _ _ => exact .inr (.inr (by rw [hdata]; rfl))
  · intro hcond conf hconf
    cases handle_checkIn hheader hid hconf with
    | refused _ hclients => exact .inr hclients
    | undecoded h hdata _ _ =>
      rcases hcond with hc | hc | hc
      · exact absurd (.inl hc) h
      · exact absurd (.inr hc) h
      · rw [hdata] at hc
        cases hc
    | invalid _ _ _ _ _ hclients => exact .inr hclients
    | signedIn h data rest hdata hvalid now hclients hsent =>
      left
      refine ⟨?_, data, rest, now, hdata, hvalid, hclients, hsent⟩
      rw [← FiniteMap.contains_eq_false]
      simpa using fun hc => h (.inl hc)

omit [Bytebuffer] in
/-- For a CheckIn with nothing behind the key. -/
theorem checkIn_allOrNothing_iff_truncated :
    letI := Bytebuffer.reference
    let settings : ServerSettings := ⟨30, 0, false, 60⟩
    let buf : List UInt8 := [100, 0, 0, 0, 7, 0, 0, 0, 42]
    let bbuf : Bytes.BitReader := ⟨[], 0⟩
    let peer : SocketAddr := .v4 0x7f000001 4000
    (∀ conf, (server settings sendsSucceed).Handles .new (.packet buf peer) conf →
      AllOrNothing settings .new 7 42 peer bbuf conf) ↔
    State.new.connectedClients.contains 7 = true ∨ State.new.Full settings ∨
      (PlayerAccountData.decode bbuf).isSome = true := by
  let := Bytebuffer.reference
  intro settings buf bbuf peer
  have hheader : header buf = some (.checkIn, 7, 42, bbuf) := rfl
  exact checkIn_allOrNothing_iff hheader (by decide)

omit [Bytebuffer] in
/-- A CheckIn that ends after the key leaves client 7 registered without account data. -/
theorem checkIn_truncated_half_registered :
    letI := Bytebuffer.reference
    let settings : ServerSettings := ⟨30, 0, false, 60⟩
    let buf : List UInt8 := [100, 0, 0, 0, 7, 0, 0, 0, 42]
    let bbuf : Bytes.BitReader := ⟨[], 0⟩
    Reachable settings .new ∧ header buf = some (.checkIn, 7, 42, bbuf) ∧
      ∀ peer, ∃ conf, (server settings sendsSucceed).Handles .new (.packet buf peer) conf ∧
        ¬AllOrNothing settings .new 7 42 peer bbuf conf := by
  let := Bytebuffer.reference
  intro settings buf bbuf
  have hheader : header buf = some (.checkIn, 7, 42, bbuf) := rfl
  refine ⟨ReachableBy.new, hheader, fun peer => ?_⟩
  obtain ⟨conf, hconf⟩ := server_handles exists_sendsSucceed settings .new (.packet buf peer)
  refine ⟨conf, hconf, fun hor => ?_⟩
  cases handle_checkIn hheader (by decide) hconf with
  | refused h _ =>
    rcases h with h | h
    · cases h
    · exact h.1 rfl
  | undecoded _ hdata now hclients =>
    rcases hor with ⟨-, data, rest, -, hdata', -⟩ | hsame
    · rw [hdata] at hdata'
      cases hdata'
    · have hget := congrArg (·.get 7) (hsame.symm.trans hclients)
      rw [FiniteMap.get_insert_self] at hget
      cases hget
  | invalid _ _ _ hdata _ _ => cases hdata
  | signedIn _ _ _ hdata _ _ _ _ => cases hdata

end Globed.Server
