import Globed.Server.System

/-!
# Authentication

A datagram that does not carry a client's id with its secret key changes nothing about that client:
neither its record nor its entry in any level.
-/

namespace Globed.Server

open Concurrent Bytebuffer

variable [Bytebuffer] {settings : ServerSettings} {inputs : Input → Prop} {c : Int32}

/-- The next section of the task leaves the client `c` alone. -/
def LeavesAlone (settings : ServerSettings) (c : Int32) (t : Task Unit)
    (_ : List (Event Action.Answer)) (st : State) : Prop :=
  ∀ a k, t = .act a k → ∀ o, (step settings o a st).2.view c = st.view c

/-- A task of sections that keep the view of `c` leaves `c` alone. -/
theorem leavesAlone_of_only {p : Action → Prop}
    (hp : ∀ a, p a → ∀ o st, (step settings o a st).2.view c = st.view c) {t : Task Unit}
    (ht : t.Only p) (log : List (Event Action.Answer)) (st : State) :
    t.Safe (server settings inputs).machine (.keeps (State.view c)) (LeavesAlone settings c) log
      st := by
  have htriv : t.Safe (server settings inputs).machine (.keeps (State.view c))
      (fun t _ _ => True ∧ t.Only p) log st :=
    .of_only (fun _ _ _ _ _ _ _ => trivial) (fun _ _ _ _ _ => trivial) ht trivial
  apply htriv.mono
  rintro t log st ⟨-, ht⟩ a k rfl o
  exact hp a ht.1 o st

theorem leavesAlone_of_actsFor {id : Int32} (hc : c ≠ id) {t : Task Unit}
    (ht : t.Only (Action.ActsFor id)) (log : List (Event Action.Answer)) (st : State) :
    t.Safe (server settings inputs).machine (.keeps (State.view c)) (LeavesAlone settings c) log
      st := by
  refine leavesAlone_of_only (fun a ha o st => ?_) ht log st
  exact view_step_of_subject_ne settings o (ha.subject hc)
    (fun l players h => absurd h (ha.not_tick l players)) st

theorem leavesAlone_of_sends {t : Task Unit} (ht : t.Only fun a => a.Sends ∨ a = .clientCount)
    (log : List (Event Action.Answer)) (st : State) :
    t.Safe (server settings inputs).machine (.keeps (State.view c)) (LeavesAlone settings c) log
      st := by
  refine leavesAlone_of_only (fun a ha o st => ?_) ht log st
  rcases ha with ha | rfl
  · cases a <;> first | exact ha.elim | rfl
  · rfl

theorem leavesAlone_sendBufTo (addr : SocketAddr) (buf : ByteBuffer)
    (log : List (Event Action.Answer)) (st : State) :
    (sendBufTo addr buf).Safe (server settings inputs).machine (.keeps (State.view c))
      (LeavesAlone settings c) log st :=
  leavesAlone_of_sends ((only_sendBufTo addr buf).mono fun _ => .inl) log st

theorem leavesAlone_removeEmptyLevels (log : List (Event Action.Answer)) (st : State) :
    removeEmptyLevels.Safe (server settings inputs).machine (.keeps (State.view c))
      (LeavesAlone settings c) log st := by
  have honly : removeEmptyLevels.Only (· = .retainLevels) := ⟨rfl, fun _ => trivial⟩
  refine leavesAlone_of_only (fun a ha o st => ?_) honly log st
  subst ha
  exact Prod.ext rfl (funext fun l => State.entry_retainLevels l c)

/-- A packet for `c` with another key than the client's is turned away. -/
theorem leavesAlone_of_wrong_key {cd : ClientData} {key : Int32} (hkey : key ≠ cd.secretKey)
    (ptype : ClientPacketKind) (peer : SocketAddr) (bbuf : ByteReader)
    (log : List (Event Action.Answer)) {st : State} (hcd : st.connectedClients.get c = some cd) :
    (serve settings ptype c key peer bbuf).Safe (server settings inputs).machine
      (.keeps (State.view c)) (LeavesAlone settings c) log st := by
  have hget : ∀ {st' : State}, st'.view c = st.view c → st'.connectedClients.get c = some cd :=
    fun hst => (congrArg Prod.fst hst).trans hcd
  by_cases hid : c = 0
  · rw [serve, if_pos hid]
    exact leavesAlone_sendBufTo _ _ log st
  by_cases hp : ptype = .checkIn
  · rw [serve, if_neg hid, if_pos hp]
    intro st' hst
    have hstep : ∀ o, step settings o (.addClient c peer key) st' = (.error _, st') := fun o =>
      st'.addClient_contains (FiniteMap.contains_iff.mpr ⟨cd, hget hst⟩)
    refine ⟨?_, fun o _ => ?_⟩
    · rintro a k heq o
      cases heq
      rw [hstep]
    · simp only [server, hstep]
      exact leavesAlone_sendBufTo _ _ _ st'
  · rw [serve_verified peer bbuf hid hp]
    intro st' hst
    have hstep : ∀ o, step settings o (.verifySecretKey c key) st' =
        (.error (.anyhow "Secret key does not match"), st') := fun o => by
      simp [step, State.verifySecretKey, hget hst, Ne.symm hkey]
    refine ⟨?_, fun o _ => ?_⟩
    · rintro a k heq o
      cases heq
      rw [hstep]
    · simp only [server, hstep]
      exact leavesAlone_of_sends ((only_turnAway peer _).mono fun _ => .inl) _ st'

/-- A datagram without the credentials of `c` leaves `c` alone at each of its sections. -/
theorem leavesAlone_handlePacket {cd : ClientData} {buf : List UInt8}
    (hauth : ∀ ptype bbuf, header buf ≠ some (ptype, c, cd.secretKey, bbuf)) (peer : SocketAddr)
    (log : List (Event Action.Answer)) {st : State} (hcd : st.connectedClients.get c = some cd) :
    (handlePacket settings buf peer).Safe (server settings inputs).machine
      (.keeps (State.view c)) (LeavesAlone settings c) log st := by
  rcases header_cases buf with ⟨ptype, id, key, bbuf, hh, -, hs⟩ | ⟨-, hs⟩
  · rw [hs]
    by_cases hid : c = id
    · subst hid
      have hkey : key ≠ cd.secretKey := by
        rintro rfl
        exact hauth ptype bbuf hh
      exact leavesAlone_of_wrong_key hkey ptype peer bbuf log hcd
    · exact leavesAlone_of_actsFor hid (actsFor_serve settings ptype key peer bbuf) log st
  · exact leavesAlone_of_sends (hs settings peer) log st

/-- A datagram that leaves `c` alone at each of its sections leaves `c` alone when it is handled,
the cleanup of empty levels included. -/
theorem handles_view {st : State} {buf : List UInt8} {peer : SocketAddr}
    (halone : ∀ log, (handlePacket settings buf peer).Safe (server settings inputs).machine
      (.keeps (State.view c)) (LeavesAlone settings c) log st)
    {conf : Config Action Action.Answer Error State Request}
    (h : (server settings inputs).Handles st (.packet buf peer) conf) :
    conf.state.view c = st.view c := by
  have hsafe : (server settings inputs).AllSafe (.keeps (State.view c))
      (fun _ => LeavesAlone settings c)
      ⟨st, [(server settings inputs).start (.packet buf peer)]⟩ := by
    intro j hj
    obtain rfl := List.mem_singleton.mp hj
    exact halone []
  refine (System.Reach.safe (fun _ a k log o s hok _ => hok a k rfl o)
    (fun _ _ _ => False.elim) (fun e s k hk => ?_) h.1 hsafe).2
  obtain ⟨rfl, -⟩ := spawned_eq hk
  exact leavesAlone_removeEmptyLevels [] s

/-- **Authentication isolates clients**: handling a datagram that does not carry the id of a
registered client together with its secret key leaves the record of that client and its entry in
every level as they were, the cleanup of empty levels included. -/
theorem handle_keeps_other_clients {st : State} {cd : ClientData}
    (hcd : st.connectedClients.get c = some cd) {buf : List UInt8} {peer : SocketAddr}
    (hauth : ∀ ptype bbuf, header buf ≠ some (ptype, c, cd.secretKey, bbuf))
    {conf : Config Action Action.Answer Error State Request}
    (h : (server settings anyInput).Handles st (.packet buf peer) conf) :
    conf.state.connectedClients.get c = some cd ∧
      ∀ levelId, conf.state.entry levelId c = st.entry levelId c := by
  have hview := handles_view (fun log => leavesAlone_handlePacket hauth peer log hcd) h
  exact ⟨(congrArg Prod.fst hview).trans hcd, fun l => congrFun (congrArg Prod.snd hview) l⟩

omit [Bytebuffer] in
/-- A Disconnect for client 7 with the key 41 does nothing to client 7, whose key is 42. -/
theorem handle_keeps_other_clients_wrong_key :
    letI := Bytebuffer.reference
    let cd : ClientData :=
      { address := .v4 0x7f000001 4000, secretKey := 42, levelId := 5, lastKeepaliveTime := 0
        playerData := .empty }
    let st : State :=
      ⟨FiniteMap.empty.insert 5 (FiniteMap.empty.insert 7 .empty), FiniteMap.empty.insert 7 cd⟩
    ∃ conf, (server ⟨30, 0, false, 60⟩ anyInput).Handles st
        (.packet [102, 0, 0, 0, 7, 0, 0, 0, 41] (.v4 0x7f000002 4001)) conf ∧
      conf.state.connectedClients.get 7 = some cd ∧
      ∀ levelId, conf.state.entry levelId 7 = st.entry levelId 7 := by
  let := Bytebuffer.reference
  intro cd st
  obtain ⟨conf, h⟩ := server_handles exists_anyInput ⟨30, 0, false, 60⟩ st
    (.packet [102, 0, 0, 0, 7, 0, 0, 0, 41] (.v4 0x7f000002 4001))
  have hheader : header [102, 0, 0, 0, 7, 0, 0, 0, 41] = some (.disconnect, 7, 41, ⟨[], 0⟩) := rfl
  have hauth : ∀ ptype bbuf,
      header [102, 0, 0, 0, 7, 0, 0, 0, 41] ≠ some (ptype, 7, cd.secretKey, bbuf) := by
    intro ptype bbuf heq
    let key := fun q : ClientPacketKind × Int32 × Int32 × ByteReader => q.2.2.1
    have hkey : (41 : Int32) = 42 :=
      Option.some.inj (congrArg (Option.map key) (hheader.symm.trans heq))
    exact absurd hkey (by decide)
  exact ⟨conf, h, handle_keeps_other_clients (FiniteMap.get_insert_self _ 7 cd) hauth h⟩

end Globed.Server
