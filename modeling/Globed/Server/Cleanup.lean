import Globed.Server.Entry

/-!
# The cleanup of empty levels under interleaving

The cleanup runs detached, at any later time. It takes no player off a level, because a level is
created and entered in one section: an entry stays until `remove_client_from_level` runs for that
client and that level. And it leaves no level empty, because whatever empties a level goes on by
spawning a cleanup.
-/

namespace Globed.Server

open Concurrent Bytebuffer

/-! ## Entries -/

/-- Only `remove_client_from_level` for this client and this level takes the client's entry out of
the level. -/
theorem entry_step (settings : ServerSettings) (o : Input) {a : Action} {l c : Int32}
    (ha : a ≠ .removeFromLevel c l) {st : State} (h : (st.entry l c).isSome = true) :
    ((step settings o a st).2.entry l c).isSome = true := by
  have hlevels : ∀ {st' : State}, st'.levels = st.levels → (st'.entry l c).isSome = true := by
    intro st' heq
    rwa [State.entry_eq_of_levels heq]
  cases a with
  | addClient id address key => exact hlevels (State.levels_addClient settings o.now id key address)
  | insertIntoLevel id level =>
    rw [step, State.entry_insertIntoLevel]
    split
    · rfl
    · exact h
  | removeFromLevel id level =>
    rw [step, State.entry_removeFromLevel]
    split
    · next heq =>
      obtain ⟨rfl, rfl⟩ := heq
      exact absurd rfl ha
    · exact h
  | storePlayerData id level data =>
    rw [step, State.entry_storePlayerData]
    split
    · rfl
    · exact h
  | retainLevels =>
    rw [step, State.entry_retainLevels]
    exact h
  | tickLevel level players => exact hlevels (State.levels_tickLevel o.order level players)
  | _ => exact hlevels rfl

/-- Data is stored only in a level that exists. -/
theorem State.contains_of_storePlayerData {st : State} {c l : Int32} {data : PlayerData}
    (h : (st.storePlayerData c l data).1 = true) : st.levels.contains l = true := by
  unfold State.storePlayerData at h
  split at h
  · next hget => exact FiniteMap.contains_iff.mpr ⟨_, hget⟩
  · cases h

/-! ## Runs -/

/-- Tasks arrive and go on in any order, but `remove_client_from_level` does not run for this client
and this level. -/
def sparing (c l : Int32) : Schedule Action Action.Answer Error State Request where
  starts _ _ k := k.External
  acts _ _ _ a := a ≠ .removeFromLevel c l

section Runs

variable [Bytebuffer] {settings : ServerSettings} {inputs : Input → Prop}
  {sched : Schedule Action Action.Answer Error State Request}
  {conf conf' : Config Action Action.Answer Error State Request}

/-- An entry stays in its level until it is removed. -/
theorem entry_of_sparing {c l : Int32} (h : (server settings inputs).Reach (sparing c l) conf conf')
    (hentry : (conf.state.entry l c).isSome = true) : (conf'.state.entry l c).isSome = true := by
  induction h with
  | refl => exact hentry
  | tail _ hs ih =>
    cases hs with
    | start _ => exact ih
    | act o _ _ ha => exact entry_step settings o ha ih

omit [Bytebuffer] in
/-- A tick does not clean up. -/
theorem not_cleansUp_of_ticks {j : Job Action Action.Answer Error Request}
    (h : j.task.Only Action.Ticks) : ¬CleansUp j := by
  rintro (⟨k, hk⟩ | ⟨k, hk⟩)
  · rw [hk] at h
    exact h.1
  · rw [hk] at h
    exact h.1

/-- What is left of a tick only does what ticks do. -/
theorem ticks_of_reach (h : (server settings inputs).Reach sched ⟨.new, []⟩ conf)
    {j : Job Action Action.Answer Error Request} (hj : j ∈ conf.jobs) (htick : j.kind = .tick) :
    j.task.Only Action.Ticks := by
  have honly : ∀ k : Request, (k.task settings).Only fun a => k = .tick → a.Ticks := by
    intro k
    cases k with
    | tick => exact ticks_tick.mono fun a ha _ => ha
    | _ => exact Proc.only_of_forall (fun _ hk => nomatch hk) _
  exact (System.Reach.only honly h j hj).mono fun a ha => ha htick

/-- **No level stays empty**: when no handler, sweep or cleanup is in progress or pending, every
level has a player. -/
theorem noEmptyLevel_of_ended (h : (server settings inputs).Reach sched ⟨.new, []⟩ conf)
    (hended : ∀ j ∈ conf.jobs, j.kind ≠ .tick → j.task.Ended) : conf.state.NoEmptyLevel := by
  apply (cleanConfig_of_reach h).clean.resolve_right
  rintro ⟨j, hj, hc⟩
  by_cases htick : j.kind = .tick
  · exact not_cleansUp_of_ticks (ticks_of_reach h hj htick) hc
  · exact not_ended_of_cleansUp hc (hended j hj htick)

/-- What holds of the levels in every state of every run. -/
structure CleanupSafe (settings : ServerSettings) (inputs : Input → Prop)
    (conf : Config Action Action.Answer Error State Request) : Prop where
  entered : ∀ c l, (conf.state.insertIntoLevel c l).2.entry l c = some .empty
  updated : ∀ c l data, (conf.state.storePlayerData c l data).1 = true →
    (conf.state.storePlayerData c l data).2.entry l c = some data
  /-- An entry is there until it is removed. -/
  stays : ∀ c l, (conf.state.entry l c).isSome = true →
    ∀ conf', (server settings inputs).Reach (sparing c l) conf conf' →
      (conf'.state.entry l c).isSome = true
  noEmptyLevel : (∀ j ∈ conf.jobs, j.kind ≠ .tick → j.task.Ended) → conf.state.NoEmptyLevel

/-- **Cleanup loses no player and leaks no level**. -/
theorem cleanup_safe (h : (server settings anyInput).Reach (.anyOrder Request.External) ⟨.new, []⟩
    conf) : CleanupSafe settings anyInput conf where
  entered c l := by rw [State.entry_insertIntoLevel, if_pos ⟨rfl, rfl⟩]
  updated c l data hfound := by
    rw [State.entry_storePlayerData, if_pos ⟨⟨rfl, rfl⟩, State.contains_of_storePlayerData hfound⟩]
  stays _ _ hentry _ hrun := entry_of_sparing hrun hentry
  noEmptyLevel hended := noEmptyLevel_of_ended h hended

omit [Bytebuffer] in
/-- With client 7 on level 5. -/
theorem cleanup_safe_level_5 :
    letI := Bytebuffer.reference
    ∃ conf, conf.state.entry 5 7 = some .empty ∧ CleanupSafe ⟨30, 0, false, 60⟩ anyInput conf := by
  let := Bytebuffer.reference
  obtain ⟨st, cd, ⟨jobs, hreach, -⟩, -, -, -, hentry⟩ :=
    exists_client_7_on_level_5 (fun _ _ => trivial) (external_packet _ _) (external_packet _ _)
  exact ⟨⟨st, jobs⟩, hentry, cleanup_safe hreach.of_serial⟩

end Runs

end Globed.Server
