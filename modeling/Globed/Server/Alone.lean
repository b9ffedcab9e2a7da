import Globed.Server.System

/-!
# Requests that are handled alone

While one request is handled with nothing else running, the only interference is the cleanup of
empty levels that it may have spawned (`cleanup`). It touches no client and no entry, and nothing at
all where every level has a player.
-/

namespace Globed.Server

open Concurrent Bytebuffer

/-- Every level has a player. -/
def State.NoEmptyLevel (st : State) : Prop :=
  ∀ levelId level, st.levels.get levelId = some level → level.isEmpty = false

theorem State.retainLevels_of_noEmptyLevel {st : State} (h : st.NoEmptyLevel) :
    st.retainLevels = st := by
  have hlevels : st.levels.retain (fun _ level => !level.isEmpty) = st.levels := by
    refine FiniteMap.retain_eq_self fun levelId level hl => ?_
    simp [h levelId level hl]
  rw [State.retainLevels, hlevels]

/-- What cleanups of empty levels do. -/
def cleanup : Rely State where
  moves st st' := st'.connectedClients = st.connectedClients ∧
    (∀ l c, st'.entry l c = st.entry l c) ∧ (st.NoEmptyLevel → st' = st)
  refl _ := ⟨rfl, fun _ _ => rfl, fun _ => rfl⟩
  trans h h' := by
    refine ⟨h'.1.trans h.1, fun l c => (h'.2.1 l c).trans (h.2.1 l c), fun hne => ?_⟩
    have heq := h.2.2 hne
    rw [h'.2.2 (heq ▸ hne), heq]

theorem cleanup_retainLevels (st : State) : cleanup.moves st st.retainLevels :=
  ⟨rfl, fun l c => State.entry_retainLevels l c, State.retainLevels_of_noEmptyLevel⟩

/-- `Q` holds where the task ends. -/
def AtEnd (Q : Task Unit → List (Event Action.Answer) → State → Prop) (t : Task Unit)
    (log : List (Event Action.Answer)) (st : State) : Prop :=
  t.Ended → Q t log st

theorem State.removeFromLevel_of_entry_none {st : State} {c l : Int32} (h : st.entry l c = none) :
    (st.removeFromLevel c l).2 = st := by
  unfold State.removeFromLevel
  unfold State.entry at h
  split
  · next level hl =>
    rw [hl, Option.bind_some] at h
    dsimp only
    rw [FiniteMap.erase_of_get_none h, FiniteMap.insert_of_get hl]
  · rfl

variable [Bytebuffer] {settings : ServerSettings} {inputs : Input → Prop} {st : State}
  {log : List (Event Action.Answer)}
  {Q : Task Unit → List (Event Action.Answer) → State → Prop}

/-- What is said of a request under cleanups holds when the request was handled. -/
theorem handles_safe {k : Request} {conf : Config Action Action.Answer Error State Request}
    (h : (server settings inputs).Handles st k conf)
    (hk : (k.task settings).Safe (server settings inputs).machine cleanup (AtEnd Q) [] st) :
    ∃ log r js, conf.jobs = ⟨k, log, r⟩ :: js ∧ r.Ended ∧ Q r log conf.state ∧
      (∀ j ∈ js, ∀ e ∈ j.log, e.1 = .retainLevels) ∧ ((∀ e ∈ log, spawned e = []) → js = []) := by
  have hp : ∀ a o (st : State), a = Action.retainLevels → inputs o →
      cleanup.moves st (step settings o a st).2 := by
    rintro _ o st rfl _
    exact cleanup_retainLevels st
  have hsp : ∀ e, ∀ κ ∈ spawned e, (κ.task settings).Only (· = .retainLevels) := by
    intro e κ hκ
    obtain ⟨rfl, -⟩ := spawned_eq hκ
    exact ⟨rfl, fun _ => trivial⟩
  obtain ⟨log, r, js, hjobs, hr, hQ, hjs⟩ := h.safe hp hsp hk
  exact ⟨log, r, js, hjobs, hr, hQ hr, hjs⟩

/-- One section. -/
theorem safe_act {a : Action} {k : a.Answer → Task Unit}
    (h : ∀ st', cleanup.moves st st' → ∀ o, inputs o →
      (k (step settings o a st').1).Safe (server settings inputs).machine cleanup (AtEnd Q)
        (log ++ [⟨a, (step settings o a st').1⟩]) (step settings o a st').2) :
    (Proc.act a k).Safe (server settings inputs).machine cleanup (AtEnd Q) log st :=
  fun st' hst => ⟨False.elim, fun o ho => h st' hst o ho⟩

theorem safe_ended {t : Task Unit} (ht : t.Ended)
    (h : ∀ st', cleanup.moves st st' → Q t log st') :
    t.Safe (server settings inputs).machine cleanup (AtEnd Q) log st := by
  cases t with
  | act a k => exact ht.elim
  | _ => exact fun st' hst _ => h st' hst

/-! ## Sends that succeed -/

theorem safe_sendBufTo_bind {addr : SocketAddr} {buf : ByteBuffer} {f : Unit → Task Unit}
    (h : ∀ st', cleanup.moves st st' →
      (f ()).Safe (server settings sendsSucceed).machine cleanup (AtEnd Q)
        (log ++ [⟨.sendTo addr (asBytes buf), true⟩]) st') :
    (sendBufTo addr buf >>= f).Safe (server settings sendsSucceed).machine cleanup (AtEnd Q)
      log st := by
  refine safe_act fun st' hst o ho => ?_
  have hsent : o.sent = true := ho
  simp only [step, hsent]
  exact h st' hst

theorem safe_sendBufTo {addr : SocketAddr} {buf : ByteBuffer}
    (h : ∀ st', cleanup.moves st st' →
      Q (.ret ()) (log ++ [⟨.sendTo addr (asBytes buf), true⟩]) st') :
    (sendBufTo addr buf).Safe (server settings sendsSucceed).machine cleanup (AtEnd Q) log st := by
  rw [← Proc.bind_ret (sendBufTo addr buf)]
  refine safe_sendBufTo_bind fun st' hst => safe_ended trivial fun st'' hst' => ?_
  exact h st'' (cleanup.trans hst hst')

/-- A loop of sends. -/
theorem safe_sendAll_bind {addrs : List SocketAddr} {buf : SocketAddr → ByteBuffer}
    {f : Unit → Task Unit}
    (h : ∀ st', cleanup.moves st st' →
      (f ()).Safe (server settings sendsSucceed).machine cleanup (AtEnd Q)
        (log ++ addrs.map fun addr => ⟨.sendTo addr (asBytes (buf addr)), true⟩) st') :
    ((addrs.forM fun addr => sendBufTo addr (buf addr)) >>= f).Safe
      (server settings sendsSucceed).machine cleanup (AtEnd Q) log st := by
  induction addrs generalizing log st with
  | nil =>
    rw [Proc.forM_nil, Proc.ret_bind]
    simpa using h st (cleanup.refl st)
  | cons addr addrs ih =>
    rw [Proc.forM_cons, bind_assoc]
    refine safe_sendBufTo_bind fun st₁ h₁ => ih fun st₂ h₂ => ?_
    simpa using h st₂ (cleanup.trans h₁ h₂)

theorem safe_sendAll {addrs : List SocketAddr} {buf : SocketAddr → ByteBuffer}
    (h : ∀ st', cleanup.moves st st' →
      Q (.ret ()) (log ++ addrs.map fun addr => ⟨.sendTo addr (asBytes (buf addr)), true⟩) st') :
    (addrs.forM fun addr => sendBufTo addr (buf addr)).Safe
      (server settings sendsSucceed).machine cleanup (AtEnd Q) log st := by
  rw [← Proc.bind_ret (List.forM _ _)]
  refine safe_sendAll_bind fun st₁ h₁ => safe_ended trivial fun st₂ h₂ => ?_
  exact h st₂ (cleanup.trans h₁ h₂)

theorem safe_sendTo {clientId : Int32} {cd : ClientData} {buf : ByteBuffer}
    (hcd : st.connectedClients.get clientId = some cd)
    (h : ∀ log' st', cleanup.moves st st' → ⟨.sendTo cd.address (asBytes buf), true⟩ ∈ log' →
      Q (.ret ()) (log ++ log') st') :
    (sendTo clientId buf).Safe (server settings sendsSucceed).machine cleanup (AtEnd Q) log st := by
  refine safe_act fun st' hst o ho => ?_
  have haddr : (st'.connectedClients.get clientId).map (·.address) = some cd.address := by
    rw [hst.1, hcd]
    rfl
  simp only [step, haddr]
  refine safe_sendBufTo fun st'' hst' => ?_
  rw [List.append_assoc]
  exact h _ st'' (cleanup.trans hst hst') (by simp)

/-! ## Parts of the handlers -/

variable {c : Int32} {cd : ClientData} {bbuf : ByteReader}

/-- A packet that carries the credentials of a client is dispatched. -/
theorem safe_serve_verified {ptype : ClientPacketKind} {peer : SocketAddr}
    (hcd : st.connectedClients.get c = some cd) (hc : c ≠ 0) (hp : ptype ≠ .checkIn)
    (h : ∀ st', cleanup.moves st st' →
      (dispatch settings ptype c bbuf).Safe (server settings inputs).machine cleanup (AtEnd Q)
        (log ++ [⟨.verifySecretKey c cd.secretKey, .ok ()⟩]) st') :
    (serve settings ptype c cd.secretKey peer bbuf).Safe (server settings inputs).machine cleanup
      (AtEnd Q) log st := by
  rw [serve_verified peer bbuf hc hp]
  refine safe_act fun st' hst o _ => ?_
  have hok : st'.verifySecretKey c cd.secretKey = .ok () := by
    simp [State.verifySecretKey, hst.1, hcd]
  simp only [step, hok]
  exact h st' hst

theorem safe_removeClientFromLevel_bind {l : Int32} {f : Unit → Task Unit}
    (h : ∀ tail st', (∀ e ∈ tail, e.1.Sweeps) → st'.connectedClients = st.connectedClients →
      (∀ l' c', st'.entry l' c' = if l' = l ∧ c' = c then none else st.entry l' c') →
      (st.NoEmptyLevel → st.entry l c = none → st' = st) →
      (f ()).Safe (server settings inputs).machine cleanup (AtEnd Q) (log ++ tail) st') :
    (removeClientFromLevel c l >>= f).Safe (server settings inputs).machine cleanup (AtEnd Q) log
      st := by
  apply safe_act
  intro st₁ h₁ o _
  have hclients : (st₁.removeFromLevel c l).2.connectedClients = st.connectedClients :=
    (st₁.connectedClients_removeFromLevel c l).trans h₁.1
  have hentry : ∀ l' c', (st₁.removeFromLevel c l).2.entry l' c' =
      if l' = l ∧ c' = c then none else st.entry l' c' := by
    intro l' c'
    rw [State.entry_removeFromLevel, h₁.2.1]
  have hsame : st.NoEmptyLevel → st.entry l c = none → (st₁.removeFromLevel c l).2 = st := by
    intro hne hnone
    obtain rfl := h₁.2.2 hne
    exact State.removeFromLevel_of_entry_none hnone
  cases hfound : (st₁.removeFromLevel c l).1 with
  | true =>
    simp only [step, hfound]
    apply safe_act
    intro st₂ h₂ _ _
    rw [List.append_assoc]
    refine h _ _ ?_ (h₂.1.trans hclients) (fun l' c' => ?_) fun hne hnone => ?_
    · simp [Action.Sweeps]
    · exact (h₂.2.1 l' c').trans (hentry l' c')
    · have heq := hsame hne hnone
      exact (h₂.2.2 (heq ▸ hne)).trans heq
  | false =>
    simp only [step, hfound]
    apply h
    · simp [Action.Sweeps]
    · exact hclients
    · exact hentry
    · exact hsame

theorem safe_leaveLevel_bind (hne : st.NoEmptyLevel) {l : Int32} {f : Unit → Task Unit}
    (h : ∀ tail st', (∀ e ∈ tail, e.1.Sweeps) → st'.connectedClients = st.connectedClients →
      (∀ l' c', st'.entry l' c' = if l ≠ -1 ∧ l' = l ∧ c' = c then none else st.entry l' c') →
      (l = -1 ∨ st.entry l c = none → st' = st) →
      (f ()).Safe (server settings inputs).machine cleanup (AtEnd Q) (log ++ tail) st') :
    (leaveLevel c l >>= f).Safe (server settings inputs).machine cleanup (AtEnd Q) log st := by
  unfold leaveLevel
  split
  · next hl =>
    apply safe_removeClientFromLevel_bind
    intro tail st' htail hclients hentry hsame
    apply h tail st' htail hclients
    · intro l' c'
      rw [hentry]
      simp [hl]
    · exact fun hor => hsame hne (hor.resolve_left hl)
  · next hl =>
    have hnothing := h [] st (by simp) rfl (fun _ _ => (if_neg fun hn => hl hn.1).symm)
      fun _ => rfl
    rwa [List.append_nil] at hnothing

end Globed.Server
