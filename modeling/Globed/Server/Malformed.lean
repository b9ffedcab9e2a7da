import Globed.Server.Entry

/-!
# Malformed packets

A packet of a known client whose payload cannot be decoded changes nothing, with one exception: a
UserLevelEntry takes the client off its level before the new level id is read.
-/

namespace Globed.Server

open Concurrent Bytebuffer

variable [Bytebuffer] {settings : ServerSettings} {inputs : Input → Prop} {st : State}
  {c : Int32} {cd : ClientData} {bbuf : ByteReader} {log : List (Event Action.Answer)}
  {Q : Task Unit → List (Event Action.Answer) → State → Prop}

/-- The payload that a packet of this kind must have is there. -/
def payloadDecodes (ptype : ClientPacketKind) (bbuf : ByteReader) : Bool :=
  match ptype with
  | .checkIn => (PlayerAccountData.decode bbuf).isSome
  | .userLevelEntry | .playerAccountDataRequest | .ping => (readI32 bbuf).isSome
  | .userLevelData => (PlayerData.decode bbuf).isSome
  | .sendTextMessage => (readString bbuf).isSome
  | .keepalive | .disconnect | .levelListRequest | .userLevelExit | .spectateNoData => true

/-- The client of a UserLevelEntry is on a level. -/
def TakenOff (ptype : ClientPacketKind) (st : State) (c : Int32) (cd : ClientData) : Prop :=
  ptype = .userLevelEntry ∧ cd.levelId ≠ -1 ∧ (st.entry cd.levelId c).isSome = true

/-- What a malformed packet has done when it ends. -/
def MalformedEnd (ptype : ClientPacketKind) (st : State) (c : Int32) (cd : ClientData)
    (_ : Task Unit) (_ : List (Event Action.Answer)) (st' : State) : Prop :=
  (TakenOff ptype st c cd → st'.entry cd.levelId c = none) ∧
    (¬TakenOff ptype st c cd → st' = st)

theorem safe_truncated_entry (hne : st.NoEmptyLevel) (hcd : st.connectedClients.get c = some cd)
    (hbad : readI32 bbuf = none) :
    (onUserlevelentry c bbuf).Safe (server settings inputs).machine cleanup
      (AtEnd (MalformedEnd .userLevelEntry st c cd)) log st := by
  refine safe_act fun st₁ h₁ o _ => ?_
  obtain rfl := h₁.2.2 hne
  have hfound : st₁.nameAndLevel c = some (cd.playerData.name, cd.levelId) := by
    rw [State.nameAndLevel, hcd, Option.map_some]
  simp only [step, hfound]
  refine safe_leaveLevel_bind hne fun tail st' _ _ hgone hsame => ?_
  simp only [read, hbad, Proc.err_bind]
  refine safe_ended trivial fun st₂ h₂ => ⟨fun htaken => ?_, fun hnot => ?_⟩
  · rw [h₂.2.1, hgone, if_pos ⟨htaken.2.1, rfl, rfl⟩]
  · have heq : st' = st₁ := by
      apply hsame
      by_contra hor
      rw [not_or] at hor
      exact hnot ⟨rfl, hor.1, Option.isSome_iff_ne_none.mpr hor.2⟩
    exact (h₂.2.2 (by rwa [heq])).trans heq

theorem safe_malformed {ptype : ClientPacketKind} (hne : st.NoEmptyLevel)
    (hcd : st.connectedClients.get c = some cd) (hbad : payloadDecodes ptype bbuf = false)
    (hcheck : ptype ≠ .checkIn) (hping : ptype ≠ .ping) :
    (dispatch settings ptype c bbuf).Safe (server settings inputs).machine cleanup
      (AtEnd (MalformedEnd ptype st c cd)) log st := by
  have hkeep : ∀ {p : Task Unit} {log'}, ptype ≠ .userLevelEntry → p.Ended →
      p.Safe (server settings inputs).machine cleanup (AtEnd (MalformedEnd ptype st c cd)) log'
        st := by
    intro p log' hp hended
    exact safe_ended hended fun st' hst => ⟨fun htaken => absurd htaken.1 hp, fun _ => hst.2.2 hne⟩
  cases ptype with
  | userLevelEntry =>
    exact safe_truncated_entry hne hcd (by simpa [payloadDecodes] using hbad)
  | userLevelData =>
    have hnone : PlayerData.decode bbuf = none := by simpa [payloadDecodes] using hbad
    refine safe_act fun st₁ h₁ o _ => ?_
    obtain rfl := h₁.2.2 hne
    have hfound : (st₁.connectedClients.get c).map (·.levelId) = some cd.levelId := by
      rw [hcd, Option.map_some]
    simp only [step, hfound, updateLevel, read, hnone]
    exact hkeep (by decide) trivial
  | playerAccountDataRequest =>
    have hnone : readI32 bbuf = none := by simpa [payloadDecodes] using hbad
    simp only [dispatch, onPlayeraccountdatarequest, read, hnone, Proc.err_bind]
    exact hkeep (by decide) trivial
  | sendTextMessage =>
    have hnone : readString bbuf = none := by simpa [payloadDecodes] using hbad
    simp only [dispatch, onSendtextmessage, hnone]
    exact hkeep (by decide) trivial
  | checkIn => exact absurd rfl hcheck
  | ping => exact absurd rfl hping
  | _ => cases hbad

/-- How every malformed packet of a known client ends. -/
theorem handle_malformed {buf : List UInt8} {peer : SocketAddr} {ptype : ClientPacketKind}
    (hreach : Reachable settings st) (hcd : st.connectedClients.get c = some cd)
    (hheader : header buf = some (ptype, c, cd.secretKey, bbuf)) (hp : ptype ≠ .checkIn)
    (hbad : payloadDecodes ptype bbuf = false)
    {conf : Config Action Action.Answer Error State Request}
    (h : (server settings inputs).Handles st (.packet buf peer) conf) :
    (TakenOff ptype st c cd → conf.state.entry cd.levelId c = none) ∧
      (¬TakenOff ptype st c cd → conf.state = st) := by
  obtain ⟨_, _, _, _, _, hend, _⟩ := hreach.handles_dispatched hcd hheader hp
    (safe_malformed hreach.noEmptyLevel hcd hbad hp (header_ne_ping hheader)) h
  exact hend

/-- **A malformed packet changes nothing**, exactly if it is not a UserLevelEntry of a client that
has an entry in the level it is on. -/
theorem malformed_changes_nothing_iff {buf : List UInt8} {peer : SocketAddr}
    {ptype : ClientPacketKind} (hreach : Reachable settings st)
    (hcd : st.connectedClients.get c = some cd)
    (hheader : header buf = some (ptype, c, cd.secretKey, bbuf)) (hp : ptype ≠ .checkIn)
    (hbad : payloadDecodes ptype bbuf = false) :
    (∀ conf, (server settings anyInput).Handles st (.packet buf peer) conf → conf.state = st) ↔
      ¬(ptype = .userLevelEntry ∧ cd.levelId ≠ -1 ∧ (st.entry cd.levelId c).isSome = true) := by
  constructor
  · intro hall htaken
    obtain ⟨conf, hconf⟩ := server_handles exists_anyInput settings st (.packet buf peer)
    have hgone := (handle_malformed hreach hcd hheader hp hbad hconf).1 htaken
    rw [hall conf hconf] at hgone
    rw [hgone] at htaken
    cases htaken.2.2
  · intro hnot conf hconf
    exact (handle_malformed hreach hcd hheader hp hbad hconf).2 hnot

omit [Bytebuffer] in
/-- For a UserLevelEntry that ends after the key. -/
theorem malformed_changes_nothing_iff_truncated :
    letI := Bytebuffer.reference
    let settings : ServerSettings := ⟨30, 0, false, 60⟩
    let buf : List UInt8 := [110, 0, 0, 0, 7, 0, 0, 0, 42]
    ∃ st cd, st.connectedClients.get 7 = some cd ∧
      ((∀ conf, (server settings anyInput).Handles st (.packet buf (.v4 0x7f000001 4000)) conf →
        conf.state = st) ↔
      ¬(ClientPacketKind.userLevelEntry = .userLevelEntry ∧ cd.levelId ≠ -1 ∧
        (st.entry cd.levelId 7).isSome = true)) := by
  let := Bytebuffer.reference
  intro settings buf
  obtain ⟨st, cd, hreach, hclients, hkey, -, -⟩ :=
    exists_client_7_on_level_5 (fun _ _ => trivial) (external_packet _ _) (external_packet _ _)
  have hcd : st.connectedClients.get 7 = some cd := by
    rw [hclients, FiniteMap.get_insert_self]
  have hheader : header buf =
      some (.userLevelEntry, 7, cd.secretKey, (⟨[], 0⟩ : Bytes.BitReader)) := by
    rw [hkey]
    rfl
  exact ⟨st, cd, hcd, malformed_changes_nothing_iff hreach hcd hheader (by decide) rfl⟩

omit [Bytebuffer] in
/-- A UserLevelEntry that ends after the key takes client 7 off level 5. -/
theorem malformed_entry_takes_off :
    letI := Bytebuffer.reference
    let settings : ServerSettings := ⟨30, 0, false, 60⟩
    let buf : List UInt8 := [110, 0, 0, 0, 7, 0, 0, 0, 42]
    let bbuf : Bytes.BitReader := ⟨[], 0⟩
    ∃ st cd, Reachable settings st ∧ st.connectedClients.get 7 = some cd ∧
      header buf = some (.userLevelEntry, 7, cd.secretKey, bbuf) ∧
      payloadDecodes .userLevelEntry bbuf = false ∧
      ∀ peer, ∃ conf, (server settings anyInput).Handles st (.packet buf peer) conf ∧
        conf.state ≠ st := by
  let := Bytebuffer.reference
  intro settings buf bbuf
  obtain ⟨st, cd, hreach, hclients, hkey, hlevel, hentry⟩ :=
    exists_client_7_on_level_5 (fun _ _ => trivial) (external_packet _ _) (external_packet _ _)
  have hcd : st.connectedClients.get 7 = some cd := by
    rw [hclients, FiniteMap.get_insert_self]
  have hheader : header buf = some (.userLevelEntry, 7, cd.secretKey, bbuf) := by
    rw [hkey]
    rfl
  have hbad : payloadDecodes .userLevelEntry bbuf = false := rfl
  have htaken : TakenOff .userLevelEntry st 7 cd := by
    rw [TakenOff, hlevel, hentry]
    exact ⟨rfl, by decide, rfl⟩
  refine ⟨st, cd, hreach, hcd, hheader, hbad, fun peer => ?_⟩
  obtain ⟨conf, hconf⟩ := server_handles exists_anyInput settings st (.packet buf peer)
  refine ⟨conf, hconf, fun hsame => ?_⟩
  have hgone := (handle_malformed hreach hcd hheader (by decide) hbad hconf).1 htaken
  rw [hsame, hlevel, hentry] at hgone
  cases hgone

end Globed.Server
