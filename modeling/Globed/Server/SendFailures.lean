import Globed.Server.Interleaving

/-!
# Level membership and failing sends

Requests are handled one at a time, and sends may fail. A UserLevelEntry and a UserLevelExit change
the two copies of the place of a client on either side of a broadcast, and the first send that fails
ends them. Unless that happens to a client that was on a level, the two copies always agree.
-/

namespace Globed.Server

open Concurrent Bytebuffer

variable [Bytebuffer] {settings : ServerSettings}

/-- **Level membership and failing sends**: in every run that handles requests one at a time, with
any outcome of every send, the two copies of every client's place agree after each request, if no
send failed in a UserLevelEntry or a UserLevelExit after it had found its client on a level. -/
theorem membership_of_not_stranded {conf : Config Action Action.Answer Error State Request}
    (h : (server settings anyInput).Reach (.serial Request.WellFormed) ⟨.new, []⟩ conf)
    (hq : conf.Quiet) (hfine : ∀ j ∈ conf.jobs, ¬Stranded j.log) : conf.state.Agrees :=
  agrees_of_keptApart (keptApart_of_serial h) hq hfine

/-! ### A failing send that the condition allows -/

/-- No send succeeds. -/
def sendsFail : Input → Prop := fun o => o.sent = false

omit [Bytebuffer] in
theorem exists_sendsFail : ∃ o, sendsFail o :=
  ⟨⟨0, .any Int32, .any Int32, false⟩, rfl⟩

omit [Bytebuffer] in
/-- A registered client on the level is told of what happens there. -/
theorem State.mem_recipients {st : State} (o : IterOrder Int32) {c : Int32} {cd : ClientData}
    (hcd : st.connectedClients.get c = some cd) :
    cd.address ∈ st.recipients o (some cd.levelId) := by
  rw [State.recipients, List.mem_map]
  exact ⟨(c, cd), List.mem_filter.mpr ⟨FiniteMap.mem_entries.mpr hcd, by simp⟩, rfl⟩

variable (settings) in
/-- A client that is on no level fails to enter one where another client is: the first send fails,
and nothing has been changed. -/
theorem runs_entry_fails {st : State} {c d x : Int32} {cd dd : ClientData} {buf : List UInt8}
    (peer : SocketAddr) {bbuf rest : ByteReader} (hcd : st.connectedClients.get c = some cd)
    (hc : c ≠ 0) (hoff : cd.levelId = -1) (hdd : st.connectedClients.get d = some dd)
    (hon : dd.levelId = levelIdOfPacket x)
    (hheader : header buf = some (.userLevelEntry, c, cd.secretKey, bbuf))
    (hx : readI32 bbuf = some (x, rest)) :
    ∃ r l, Proc.Runs (server settings sendsFail).machine
        ((Request.packet buf peer).task settings) st r st l ∧ r.Ended ∧
      (∃ e ∈ l, SendFailed e) ∧ ∀ e ∈ l, ¬FoundOnLevel e ∧ spawned e = [] := by
  obtain ⟨o, ho⟩ := exists_sendsFail
  obtain ⟨message, color, hfound⟩ :=
    runs_entry_found settings exists_sendsFail peer hcd hc hoff hheader hx
  have hmem := st.mem_recipients o.order hdd
  rw [hon] at hmem
  cases hall : st.recipients o.order (some (levelIdOfPacket x)) with
  | nil =>
    rw [hall] at hmem
    cases hmem
  | cons addr addrs =>
    have hsent : o.sent = false := ho
    have hfails : Proc.Runs (server settings sendsFail).machine
        (broadcastMessage message color (some (levelIdOfPacket x)) >>= fun _ =>
          addClientToLevel c (levelIdOfPacket x)) st (.err .io) st
        [⟨.recipients (some (levelIdOfPacket x)), addr :: addrs⟩,
          ⟨.sendTo addr (asBytes (serverBroadcast message color)), false⟩] := by
      refine .step o ho (congrArg (·, st) hall) (.step o ho (congrArg (·, st) hsent) ?_)
      exact .refl
    have hlast : (⟨.sendTo addr (asBytes (serverBroadcast message color)), false⟩ :
        Event Action.Answer) ∈ ([⟨.verifySecretKey c cd.secretKey, .ok ()⟩,
          ⟨.nameAndLevel c, some (cd.playerData.name, cd.levelId)⟩] : List (Event Action.Answer)) ++
        [⟨.recipients (some (levelIdOfPacket x)), addr :: addrs⟩,
          ⟨.sendTo addr (asBytes (serverBroadcast message color)), false⟩] :=
      List.mem_append_right _ (List.mem_cons_of_mem _ List.mem_cons_self)
    refine ⟨_, _, hfound.trans hfails, trivial, ⟨_, hlast, rfl⟩, ?_⟩
    intro e he
    simp only [List.cons_append, List.nil_append, List.mem_cons, List.not_mem_nil, or_false] at he
    rcases he with rfl | rfl | rfl | rfl
    · exact ⟨id, rfl⟩
    · exact ⟨fun hfound => hfound hoff, rfl⟩
    · exact ⟨id, rfl⟩
    · exact ⟨id, rfl⟩

omit [Bytebuffer] in
/-- Client 7 is on level 5, and client 8, which is on no level, wants to get there as well, but
client 7 cannot be told. -/
theorem membership_of_not_stranded_entry_8 :
    letI := Bytebuffer.reference
    ∃ conf, (server ⟨30, 0, false, 60⟩ anyInput).Reach (.serial Request.WellFormed) ⟨.new, []⟩
        conf ∧ conf.Quiet ∧ (∀ j ∈ conf.jobs, ¬Stranded j.log) ∧
      (∃ j ∈ conf.jobs, ∃ e ∈ j.log, SendFailed e) ∧
      conf.state.levelOf 7 = some 5 ∧ conf.state.levelOf 8 = none ∧ conf.state.Agrees := by
  let := Bytebuffer.reference
  have hx : Bytebuffer.readI32 (⟨[0, 0, 0, 5], 0⟩ : Bytes.BitReader) =
      some (5, (⟨[], 0⟩ : Bytes.BitReader)) := rfl
  obtain ⟨st₁, now₇, now₈, hreach₁, hget₇, hget₈⟩ :=
    exists_clients_7_8_checkedIn wellFormed_checkIn7 wellFormed_checkIn8
  -- client 7 enters
  obtain ⟨conf₂, hconf₂⟩ :=
    server_handles exists_sendsSucceed ⟨30, 0, false, 60⟩ st₁ (.packet (entry7 5) peer7)
  obtain ⟨hclients₂, -⟩ := handle_entry hreach₁ hget₇ (decode_entry7 5) hx hconf₂
  obtain ⟨jobs, hserial, hq⟩ := hreach₁.handle (wellFormed_entry7 5) hconf₂
  have hon : conf₂.state.connectedClients.get 7 =
      some { ClientData.checkedIn peer7 42 now₇ data7 with levelId := levelIdOfPacket 5 } := by
    rw [hclients₂, FiniteMap.get_insert_self]
  have hoff : conf₂.state.connectedClients.get 8 = some (.checkedIn peer7 42 now₈ data7) := by
    rw [hclients₂, FiniteMap.get_insert_of_ne _ _ (by decide), hget₈]
  -- client 8 does not
  obtain ⟨r, l, hruns, hended, hfailed, hl⟩ := runs_entry_fails ⟨30, 0, false, 60⟩
    peer7 hoff (by decide) rfl hon rfl (decode_entry8 5) hx
  let job : Job Action Action.Answer Error Request := ⟨.packet (entry8 5) peer7, l, r⟩
  have hruns' : Proc.Runs (server ⟨30, 0, false, 60⟩ anyInput).machine
      ((Request.packet (entry8 5) peer7).task ⟨30, 0, false, 60⟩) conf₂.state r conf₂.state l := by
    refine Proc.Runs.mono ?_ (fun _ _ _ => ?_) hruns
    · rfl
    · trivial
  have hstart : (server ⟨30, 0, false, 60⟩ anyInput).Step (.serial Request.WellFormed)
      ⟨conf₂.state, jobs⟩ ⟨conf₂.state, jobs ++ [System.start _ (.packet (entry8 5) peer7)]⟩ :=
    .start ⟨hq, wellFormed_entry8 5⟩
  have hrun : (server ⟨30, 0, false, 60⟩ anyInput).Reach (.serial Request.WellFormed) ⟨.new, []⟩
      ⟨conf₂.state, jobs ++ [job]⟩ := by
    refine ((reach_of_inputs (fun _ _ => trivial) hserial).tail hstart).trans ?_
    exact System.reach_of_runs_beside hruns' _ [] jobs [] (fun _ _ _ _ => trivial)
      fun e he => (hl e he).2
  have hquiet : ∀ j ∈ jobs ++ [job], j.task.Ended := by
    intro j hj
    rw [List.mem_append, List.mem_singleton] at hj
    rcases hj with hj | rfl
    · exact hq j hj
    · exact hended
  have hfine : ∀ j ∈ jobs ++ [job], ¬Stranded j.log := by
    intro j hj
    rw [List.mem_append, List.mem_singleton] at hj
    rcases hj with hj | rfl
    · exact not_stranded hserial j hj
    · rintro ⟨e₁, e₂, hsub, hfound, -⟩
      exact (hl e₁ (hsub.subset List.mem_cons_self)).1 hfound
  refine ⟨_, hrun, hquiet, hfine, ⟨job, by simp, hfailed⟩, ?_, ?_,
    membership_of_not_stranded hrun hquiet hfine⟩
  · exact State.levelOf_of_get hon (levelIdOfPacket_ne 5)
  · rw [State.levelOf, hoff]
    rfl

/-! ## A broadcast that fails -/

/-- A UserLevelEntry for the level that the client is on takes the client off it, and the broadcast
to that level, which the client's record still names, fails. -/
theorem safe_entry_fails {st : State} {c x : Int32} {cd : ClientData} {bbuf rest : ByteReader}
    {log : List (Event Action.Answer)} (hne : st.NoEmptyLevel)
    (hcd : st.connectedClients.get c = some cd) (hx : readI32 bbuf = some (x, rest))
    (hsame : levelIdOfPacket x = cd.levelId) :
    (onUserlevelentry c bbuf).Safe (server settings sendsFail).machine cleanup
      (AtEnd fun _ _ st' =>
        st'.connectedClients = st.connectedClients ∧ st'.entry cd.levelId c = none) log st := by
  apply safe_onUserlevelentry_of_enter hne hcd hx
  intro log' st₂ h₂ hgone
  rw [hsame]
  have hentry : st₂.entry cd.levelId c = none := by
    have hl : cd.levelId ≠ -1 := by
      rw [← hsame]
      exact levelIdOfPacket_ne x
    rw [hgone, if_pos ⟨hl, rfl, rfl⟩]
  apply safe_act
  intro st₃ h₃ o' _
  -- the client itself is one of the recipients
  have hmem : cd.address ∈ st₃.recipients o'.order (some cd.levelId) :=
    st₃.mem_recipients o'.order (by rwa [h₃.1, h₂])
  cases hall : st₃.recipients o'.order (some cd.levelId) with
  | nil =>
    rw [hall] at hmem
    cases hmem
  | cons addr addrs =>
    simp only [step, hall]
    apply safe_act
    intro st₄ h₄ o'' ho''
    have hsent : o''.sent = false := ho''
    simp only [step, hsent]
    refine safe_ended trivial fun st₅ h₅ => ⟨?_, ?_⟩
    · rw [h₅.1, h₄.1, h₃.1, h₂]
    · rw [h₅.2.1, h₄.2.1, h₃.2.1, hentry]

/-- A client that enters the level that it is on, while no send succeeds, is lost. -/
theorem handle_entry_fails {inputs : Input → Prop} {arrives : Request → Prop} {st : State}
    {c x : Int32} {cd : ClientData} {buf : List UInt8} {peer : SocketAddr} {bbuf rest : ByteReader}
    (hreach : ReachableBy settings inputs arrives st)
    (hcd : st.connectedClients.get c = some cd)
    (hheader : header buf = some (.userLevelEntry, c, cd.secretKey, bbuf))
    (hx : readI32 bbuf = some (x, rest)) (hsame : levelIdOfPacket x = cd.levelId)
    {conf : Config Action Action.Answer Error State Request}
    (h : (server settings sendsFail).Handles st (.packet buf peer) conf) :
    conf.state.connectedClients = st.connectedClients ∧ conf.state.entry cd.levelId c = none := by
  obtain ⟨_, _, _, _, _, hend, _⟩ := hreach.handles_dispatched hcd hheader (by decide)
    (safe_entry_fails hreach.noEmptyLevel hcd hx hsame) h
  exact hend

omit [Bytebuffer] in
/-- Client 7 is on level 5 and enters it again, but the broadcast fails: its record still names
level 5, and level 5 has no entry for it. -/
theorem membership_lost_with_failing_send :
    letI := Bytebuffer.reference
    ∃ conf cd, (server ⟨30, 0, false, 60⟩ anyInput).Reach (.serial Request.WellFormed) ⟨.new, []⟩
        conf ∧ conf.Quiet ∧
      conf.state.connectedClients.get 7 = some cd ∧ cd.levelId = 5 ∧
      conf.state.entry 5 7 = none ∧ ¬conf.state.Agrees := by
  let := Bytebuffer.reference
  obtain ⟨st, cd, hreach, hclients, hkey, hlevel, -⟩ := exists_client_7_on_level_5
    (fun _ _ => trivial) wellFormed_checkIn7 (wellFormed_entry7 5)
  have hcd : st.connectedClients.get 7 = some cd := by
    rw [hclients, FiniteMap.get_insert_self]
  have hheader : header (entry7 5) =
      some (.userLevelEntry, 7, cd.secretKey, (⟨[0, 0, 0, 5], 0⟩ : Bytes.BitReader)) := by
    rw [hkey]
    exact decode_entry7 5
  have hx : Bytebuffer.readI32 (⟨[0, 0, 0, 5], 0⟩ : Bytes.BitReader) =
      some (5, (⟨[], 0⟩ : Bytes.BitReader)) := rfl
  have hsame : levelIdOfPacket 5 = cd.levelId := by
    rw [hlevel]
    rfl
  obtain ⟨conf, hconf⟩ :=
    server_handles exists_sendsFail ⟨30, 0, false, 60⟩ st (.packet (entry7 5) peer7)
  obtain ⟨hsameClients, hgone⟩ := handle_entry_fails hreach hcd hheader hx hsame hconf
  obtain ⟨jobs, hrun, hq⟩ := hreach.handle (wellFormed_entry7 5)
    ⟨reach_of_inputs (fun _ _ => trivial) hconf.1, hconf.2⟩
  rw [hlevel] at hgone
  have hget : conf.state.connectedClients.get 7 = some cd := by
    rw [hsameClients, hcd]
  refine ⟨⟨conf.state, jobs⟩, cd, hrun, hq, hget, hlevel, hgone, fun hagrees => ?_⟩
  have hsome := (hagrees 7 5).mpr ⟨by decide, cd, hget, hlevel⟩
  rw [hgone] at hsome
  cases hsome

end Globed.Server
