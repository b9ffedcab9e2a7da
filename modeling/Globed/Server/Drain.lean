import Globed.Base.Drain
import Globed.Server.Commute
import Globed.Server.Locks

/-!
# The server drains

When nothing arrives any more, the server handles what is in progress to its end, in whatever order
its tasks go on: no run is infinite, and where a run cannot go on, every task has ended, all locks
are free, nobody waits for one, and no level is left empty.
-/

namespace Globed.Server

open Concurrent Bytebuffer

variable [Bytebuffer] {settings : ServerSettings} {inputs : Input → Prop}
  {arrives : Request → Prop} {conf : LockedConfig}

/-- The cleanup of empty levels is all that is spawned, and it spawns nothing. -/
theorem only_spawned (e : Event Action.Answer) (k : Request) (hk : k ∈ spawned e) :
    (k.task settings).Only fun a => ∀ r, spawned ⟨a, r⟩ = [] := by
  obtain ⟨rfl, -⟩ := spawned_eq hk
  exact ⟨fun _ => rfl, fun _ => trivial⟩

/-- Where all tasks with their locks have ended, no level is empty. -/
theorem noEmptyLevel_of_atRest
    (h : (lockedServer settings inputs).Reach arrives (.initial .new) conf)
    (hrest : LockSystem.AtRest conf) : conf.state.NoEmptyLevel := by
  obtain ⟨jobs, hreach, hproj⟩ := LockSystem.Reach.erases h
  exact noEmptyLevel_of_quiet hreach (LockSystem.quiet_of_projects hproj hrest.ended)

/-- **The server drains**: from whatever it is doing, no run without further arrivals goes on for
ever, such a run can be made to its end, and at its end all tasks have ended, no lock is held,
nobody waits and no level is without a player. -/
theorem server_drains (hin : ∃ o, inputs o)
    (h : (lockedServer settings inputs).Reach arrives (.initial .new) conf) :
    (∀ run : Nat → LockedConfig, run 0 = conf →
      ∃ n, ¬(lockedServer settings inputs).Step (fun _ => False) (run n) (run (n + 1))) ∧
    (∃ conf', (lockedServer settings inputs).Reach (fun _ => False) conf conf' ∧
      ∀ conf'', ¬(lockedServer settings inputs).Step (fun _ => False) conf' conf'') ∧
    ∀ conf', (lockedServer settings inputs).Reach (fun _ => False) conf conf' →
      (∀ conf'', ¬(lockedServer settings inputs).Step (fun _ => False) conf' conf'') →
      LockSystem.AtRest conf' ∧ conf'.state.NoEmptyLevel := by
  refine ⟨fun run _ => ?_, LockSystem.exists_stuck only_spawned conf, fun conf' hrun hlast => ?_⟩
  · by_contra hall
    push Not at hall
    exact (wellFounded_iff_isEmpty_descending_chain.mp
      (LockSystem.wellFounded_step only_spawned)).elim ⟨run, hall⟩
  · have hreach := h.trans (LockSystem.Reach.of_closed hrun)
    have hrest := LockSystem.Reach.atRest (fun k => (guarded_task settings k).ordered)
      (fun _ => hin) hreach hlast
    exact ⟨hrest, noEmptyLevel_of_atRest hreach hrest⟩

/-! ### A client that leaves its level -/

/-- At rest every request can be handled, with the locks and without. -/
theorem lockedServer_handles (hin : ∃ o, inputs o)
    (h : (lockedServer settings inputs).Reach arrives (.initial .new) conf)
    (hrest : LockSystem.AtRest conf) {k : Request} (hk : arrives k) :
    ∃ conf' d, (lockedServer settings inputs).Reach arrives (.initial .new) conf' ∧
      LockSystem.AtRest conf' ∧ (server settings inputs).Handles conf.state k d ∧
      d.state = conf'.state :=
  LockSystem.Reach.exists_handled (fun k => (guarded_task settings k).ordered) (fun _ => hin)
    only_spawned h hrest hk

omit [Bytebuffer] in
theorem atRest_initial (st : State) : LockSystem.AtRest (.initial st : LockedConfig) where
  ended _ h := nomatch h
  free := by
    rintro i l ⟨m, hm⟩
    cases hm
  idle := by
    rintro i l ⟨m, hm⟩
    cases hm

omit [Bytebuffer] in
/-- A level without entries is gone, unless it is empty. -/
theorem get_levels_of_entry {st : State} {l : Int32} (hne : st.NoEmptyLevel)
    (h : ∀ c, st.entry l c = none) : st.levels.get l = none := by
  by_contra hsome
  obtain ⟨level, hlevel⟩ := Option.ne_none_iff_exists'.mp hsome
  have hempty : level.isEmpty = true := by
    rw [FiniteMap.isEmpty_iff]
    intro c
    have hentry := h c
    rwa [State.entry, hlevel] at hentry
  rw [hne l level hlevel] at hempty
  cases hempty

omit [Bytebuffer] in
/-- Client 7 is alone on level 5 and its UserLevelExit is in progress: at the end the level is
gone. -/
theorem server_drains_exit :
    letI := Bytebuffer.reference
    let sys := lockedServer ⟨30, 0, false, 60⟩ (sendsSucceedAt 1000)
    ∃ conf conf' : LockedConfig, sys.Reach Request.WellFormed (.initial .new) conf ∧
      (∃ th ∈ conf.threads, ¬th.task.Ended) ∧ (conf.state.entry 5 7).isSome = true ∧
      sys.Reach (fun _ => False) conf conf' ∧ LockSystem.AtRest conf' ∧
      conf'.state.NoEmptyLevel ∧ conf'.state.levels.get 5 = none := by
  let := Bytebuffer.reference
  intro sys
  have hin : ∃ o, sendsSucceedAt 1000 o := ⟨⟨1000, .any Int32, .any Int32, true⟩, rfl, rfl⟩
  have hmono : ∀ {st k d}, (server ⟨30, 0, false, 60⟩ (sendsSucceedAt 1000)).Handles st k d →
      (server ⟨30, 0, false, 60⟩ sendsSucceed).Handles st k d :=
    fun h => ⟨reach_of_inputs (fun _ ho => ho.1) h.1, h.2⟩
  -- the client checks in
  obtain ⟨hheader, hdata, hvalid⟩ := decode_checkIn7
  have hfull : ¬State.new.Full ⟨30, 0, false, 60⟩ := fun h => h.1 rfl
  obtain ⟨conf₁, d₁, hrun₁, hrest₁, hd₁, hstate₁⟩ :=
    lockedServer_handles hin .refl (atRest_initial .new) wellFormed_checkIn7
  obtain ⟨now, hclients₁⟩ :=
    handle_checkedIn rfl hfull (by decide) hheader hdata hvalid (hmono hd₁)
  have hreach₁ := ReachableBy.new.handle wellFormed_checkIn7 (hmono hd₁)
  rw [hstate₁] at hclients₁ hreach₁
  -- and enters the level
  have hget₁ : conf₁.state.connectedClients.get 7 = some (.checkedIn peer7 42 now data7) := by
    rw [hclients₁, FiniteMap.get_insert_self]
  have hx : Bytebuffer.readI32 (⟨[0, 0, 0, 5], 0⟩ : Bytes.BitReader) =
      some (5, (⟨[], 0⟩ : Bytes.BitReader)) := rfl
  obtain ⟨conf₂, d₂, hrun₂, hrest₂, hd₂, hstate₂⟩ :=
    lockedServer_handles hin hrun₁ hrest₁ (wellFormed_entry7 5)
  obtain ⟨hclients₂, hentry₂⟩ := handle_entry hreach₁ hget₁ (decode_entry7 5) hx (hmono hd₂)
  have hreach₂ := hreach₁.handle (wellFormed_entry7 5) (hmono hd₂)
  rw [hstate₂] at hclients₂ hentry₂ hreach₂
  have hget₂ : conf₂.state.connectedClients.get 7 =
      some { ClientData.checkedIn peer7 42 now data7 with levelId := 5 } := by
    rw [hclients₂, FiniteMap.get_insert_self]
    rfl
  have hothers : ∀ c, c ≠ 7 → conf₂.state.entry 5 c = none := by
    intro c hc
    by_contra hsome
    obtain ⟨-, cd, hcd, -⟩ := (hreach₂.agrees c 5).mp (Option.ne_none_iff_isSome.mp hsome)
    rw [hclients₂, hclients₁, FiniteMap.get_insert_of_ne _ _ hc,
      FiniteMap.get_insert_of_ne _ _ hc] at hcd
    cases hcd
  -- its exit is in progress
  let exit7 : Request := .packet [111, 0, 0, 0, 7, 0, 0, 0, 42] peer7
  have hheader₃ : header [111, 0, 0, 0, 7, 0, 0, 0, 42] =
      some (.userLevelExit, 7, 42, (⟨[], 0⟩ : Bytes.BitReader)) := rfl
  have hwell : exit7.WellFormed := .inl ⟨_, _, _, _, hheader₃, rfl⟩
  let conf := { conf₂ with threads := conf₂.threads ++ [sys.startThread exit7] }
  have hconf : sys.Reach Request.WellFormed (.initial .new) conf := hrun₂.tail (.start hwell)
  have hgoing : ¬(sys.startThread exit7).task.Ended := id
  -- and comes to its end
  obtain ⟨-, ⟨conf', hrun, hlast⟩, hdrained⟩ := server_drains hin hconf
  obtain ⟨hrest, hne⟩ := hdrained conf' hrun hlast
  obtain ⟨d₃, hd₃, hstate₃⟩ := hrest₂.handles hrun hrest
  have hview := handle_effect hreach₂ hget₂ hheader₃ (by decide) rfl hd₃
  rw [hstate₃] at hview
  refine ⟨conf, conf', hconf, ⟨sys.startThread exit7, by simp [conf], hgoing⟩, ?_, hrun, hrest, hne,
    get_levels_of_entry hne fun c => ?_⟩
  · rw [show conf.state = conf₂.state from rfl]
    exact Option.isSome_iff_exists.mpr ⟨_, hentry₂⟩
  · by_cases hc : c = 7
    · subst hc
      have hentry := congrFun (congrArg Prod.snd hview) 5
      exact hentry.trans (by simp [effect])
    · have hother := handle_view_of_ne hheader₃ hc hd₃
      rw [hstate₃] at hother
      exact (congrFun (congrArg Prod.snd hother) 5).trans (hothers c hc)

end Globed.Server
