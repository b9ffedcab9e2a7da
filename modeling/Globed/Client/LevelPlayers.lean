import Globed.Client.Corrector

/-!
# The players on screen

`updateStuff` of `hooked/play_layer.hpp` asks the corrector once a second who left and who joined
the level, and removes and adds their nodes. After every poll the players on screen are those of the
corrector exactly if everybody whom some data since the poll before brought in is in the last of it
(`players_shown_iff`): a player that joins and leaves between two polls is added after all.
-/

namespace Globed.Client

/-- A level that is played: the corrector, and the keys of `m_players` and `m_playerProgresses`. -/
structure LevelView (F : Type) where
  corrector : PlayerCorrector F
  players : Finset Int32
  playerProgresses : Finset Int32

/-- The network thread gets the players of the level, or the main thread polls the corrector. -/
inductive LevelStep (F : Type)
  | feed (o o' : IterOrder Int32) (data : FiniteMap Int32 (Frame F))
  | poll

section LevelView

variable {F : Type}

namespace LevelView

/-- The level was just joined. -/
def joined (c : PlayerCorrector F) : LevelView F := ⟨c.joinedLevel, ∅, ∅⟩

/-- Both maps are accessed by `at`, which throws if the key is missing. -/
def removePlayer (v : LevelView F) (playerId : Int32) : Option (LevelView F) :=
  if playerId ∈ v.players ∧ playerId ∈ v.playerProgresses then
    some { v with
      players := v.players.erase playerId
      playerProgresses := v.playerProgresses.erase playerId }
  else none

def addPlayer (v : LevelView F) (playerId : Int32) : LevelView F :=
  { v with
    players := insert playerId v.players
    playerProgresses := insert playerId v.playerProgresses }

/-- The part of `updateStuff` that is about who is on the level. It is only scheduled if
`m_readyForMP` is set. -/
def updateStuff (v : LevelView F) : Option (LevelView F) := do
  let (gonePlayers, corrector) := v.corrector.getGonePlayers
  let v ← gonePlayers.foldlM
    (fun v playerId => if playerId ∈ v.players then v.removePlayer playerId else some v)
    { v with corrector }
  let (newPlayers, corrector) := v.corrector.getNewPlayers
  return newPlayers.foldl
    (fun v playerId => if playerId ∉ v.players then v.addPlayer playerId else v)
    { v with corrector }

end LevelView

/-! ## One poll -/

theorem removeGone (c : PlayerCorrector F) (gone : List Int32) (players : Finset Int32) :
    gone.foldlM
        (fun v playerId => if playerId ∈ v.players then v.removePlayer playerId else some v)
        (⟨c, players, players⟩ : LevelView F) =
      some ⟨c, players \ gone.toFinset, players \ gone.toFinset⟩ := by
  induction gone generalizing players with
  | nil => simp
  | cons playerId gone ih =>
    have hrest : players.erase playerId \ gone.toFinset =
        players \ (playerId :: gone).toFinset := by
      rw [List.toFinset_cons, Finset.sdiff_insert, Finset.erase_sdiff_comm]
    rw [List.foldlM_cons, ← hrest, ← ih (players.erase playerId)]
    by_cases h : playerId ∈ players
    · simp [LevelView.removePlayer, h]
    · simp [h]

theorem addNew (c : PlayerCorrector F) (new : List Int32) (players : Finset Int32) :
    new.foldl (fun v playerId => if playerId ∉ v.players then v.addPlayer playerId else v)
        (⟨c, players, players⟩ : LevelView F) =
      ⟨c, players ∪ new.toFinset, players ∪ new.toFinset⟩ := by
  induction new generalizing players with
  | nil => simp
  | cons playerId new ih =>
    have hrest : insert playerId players ∪ new.toFinset =
        players ∪ (playerId :: new).toFinset := by
      rw [List.toFinset_cons, Finset.union_insert, Finset.insert_union]
    rw [List.foldl_cons, ← hrest, ← ih (insert playerId players)]
    by_cases h : playerId ∈ players
    · simp [h]
    · simp [LevelView.addPlayer, h]

/-- A poll removes all that are gone, and then adds all that are new. -/
theorem updateStuff_eq (c : PlayerCorrector F) (players : Finset Int32) :
    (⟨c, players, players⟩ : LevelView F).updateStuff =
      some ⟨{ c with playersGone := [], playersNew := [] },
        (players \ c.playersGone.toFinset) ∪ c.playersNew.toFinset,
        (players \ c.playersGone.toFinset) ∪ c.playersNew.toFinset⟩ := by
  have hgone := removeGone { c with playersGone := [] } c.playersGone players
  have hnew := addNew { c with playersGone := [], playersNew := [] } c.playersNew
    (players \ c.playersGone.toFinset)
  simp only [LevelView.updateStuff, PlayerCorrector.getGonePlayers, PlayerCorrector.getNewPlayers,
    hgone, hnew, Option.bind_eq_bind, Option.bind_some, Option.pure_def]

/-! ## Steps -/

variable [Floats F]

namespace LevelView

def step (v : LevelView F) : LevelStep F → Option (LevelView F)
  | .feed o o' data => some { v with corrector := v.corrector.feedRealData o o' data }
  | .poll => v.updateStuff

def run (v : LevelView F) (steps : List (LevelStep F)) : Option (LevelView F) := steps.foldlM step v

/-- The players on screen are those of the corrector, which are these. -/
def Shows (v : LevelView F) (ids : Finset Int32) : Prop :=
  v.players = v.corrector.playerData.keys ∧ v.corrector.playerData.keys = ids

end LevelView

/-! ## What was fed -/

/-- The players of the last data, and those that some data since the last poll brought in. -/
structure Fed where
  last : Finset Int32
  joined : Finset Int32

def Fed.step {F : Type} (fed : Fed) : LevelStep F → Fed
  | .feed _ _ data => ⟨data.keys, fed.joined ∪ (data.keys \ fed.last)⟩
  | .poll => ⟨fed.last, ∅⟩

/-- What was fed in the steps since the level was joined. -/
def fed {F : Type} (steps : List (LevelStep F)) : Fed := steps.foldl Fed.step ⟨∅, ∅⟩

/-! ## Runs -/

/-- What a run keeps: both maps have the same keys, and the corrector knows the players of the last
data and reports those that were brought in. -/
structure Follows (v : LevelView F) (fed : Fed) : Prop where
  progresses : v.playerProgresses = v.players
  keys : v.corrector.playerData.keys = fed.last
  new : v.corrector.playersNew.toFinset = fed.joined

/-- What a run keeps while all polls are right: whoever is on screen and is not gone is on the
level, and the others on the level are reported as new. -/
structure Pending (v : LevelView F) (fed : Fed) : Prop where
  stays : ∀ id ∈ v.players, id ∉ v.corrector.playersGone → id ∈ fed.last
  reported : ∀ id ∈ fed.last, id ∈ fed.joined ∨ id ∈ v.players ∧ id ∉ v.corrector.playersGone

theorem Follows.feed {v : LevelView F} {f : Fed} (h : Follows v f) (o o' : IterOrder Int32)
    (data : FiniteMap Int32 (Frame F)) :
    Follows { v with corrector := v.corrector.feedRealData o o' data }
      (f.step (.feed o o' data)) := by
  obtain ⟨hkeys, hnew, -⟩ := v.corrector.mem_feedRealData o o' data
  refine ⟨h.progresses, hkeys, ?_⟩
  ext id
  rw [List.mem_toFinset, hnew, ← List.mem_toFinset, h.new, h.keys]
  simp [Fed.step]

theorem Pending.feed {v : LevelView F} {f : Fed} (hf : Follows v f) (h : Pending v f)
    (o o' : IterOrder Int32) (data : FiniteMap Int32 (Frame F)) :
    Pending { v with corrector := v.corrector.feedRealData o o' data }
      (f.step (.feed o o' data)) := by
  obtain ⟨-, -, hgone⟩ := v.corrector.mem_feedRealData o o' data
  simp only [hf.keys] at hgone
  constructor
  · intro id hid hnot
    rw [hgone, not_or, not_and, not_not] at hnot
    exact hnot.2 (h.stays id hid hnot.1)
  · intro id hid
    by_cases hlast : id ∈ f.last
    · rcases h.reported id hlast with hjoined | ⟨hplayers, hnot⟩
      · exact .inl (Finset.mem_union_left _ hjoined)
      · refine .inr ⟨hplayers, ?_⟩
        rw [hgone]
        rintro (hmem | ⟨-, hmem⟩)
        · exact hnot hmem
        · exact hmem hid
    · exact .inl (Finset.mem_union_right _ (Finset.mem_sdiff.mpr ⟨hid, hlast⟩))

omit [Floats F] in
/-- A poll: if the polls before were right, this one is if and only if all that were brought in are
still there. -/
theorem Follows.poll {v : LevelView F} {f : Fed} (h : Follows v f) :
    ∃ v', v.updateStuff = some v' ∧ Follows v' (f.step (.poll : LevelStep F)) ∧
      (v'.Shows f.last → f.joined ⊆ f.last ∧ Pending v' (f.step (.poll : LevelStep F))) ∧
      (Pending v f → f.joined ⊆ f.last → v'.Shows f.last) := by
  obtain ⟨c, players, progresses⟩ := v
  obtain ⟨hprogresses, hkeys, hnew⟩ := h
  dsimp only at hprogresses hkeys hnew
  subst hprogresses
  refine ⟨_, updateStuff_eq c _, ⟨rfl, hkeys, rfl⟩, ?_, ?_⟩
  · rintro ⟨hshown, -⟩
    dsimp only at hshown
    rw [hkeys, hnew] at hshown
    refine ⟨hshown ▸ Finset.subset_union_right, ?_, ?_⟩
    · intro id hid _
      dsimp only at hid
      rwa [hnew, hshown] at hid
    · intro id hid
      refine .inr ⟨?_, List.not_mem_nil⟩
      dsimp only
      rw [hnew, hshown]
      exact hid
  · intro hpending hjoined
    refine ⟨?_, hkeys⟩
    dsimp only
    ext id
    rw [hkeys, hnew, Finset.mem_union, Finset.mem_sdiff, List.mem_toFinset]
    constructor
    · rintro (⟨hid, hnot⟩ | hid)
      · exact hpending.stays id hid hnot
      · exact hjoined hid
    · intro hid
      exact (hpending.reported id hid).symm

theorem run_concat (v : LevelView F) (steps : List (LevelStep F)) (s : LevelStep F) :
    v.run (steps ++ [s]) = (v.run steps).bind (·.step s) := by
  simp [LevelView.run]

omit [Floats F] in
theorem fed_concat (steps : List (LevelStep F)) (s : LevelStep F) :
    fed (steps ++ [s]) = (fed steps).step s := by
  simp [fed]

/-- Everybody whom some data since the last poll brought in is in the last data, at every poll. -/
def JoinedStay (steps : List (LevelStep F)) : Prop :=
  ∀ before after, steps = before ++ .poll :: after → (fed before).joined ⊆ (fed before).last

theorem follows_run (c : PlayerCorrector F) (steps : List (LevelStep F)) :
    ∃ v, (LevelView.joined c).run steps = some v ∧ Follows v (fed steps) ∧
      (JoinedStay steps → Pending v (fed steps)) := by
  induction steps using List.reverseRecOn with
  | nil =>
    refine ⟨_, rfl, ⟨rfl, rfl, rfl⟩, fun _ => ⟨?_, ?_⟩⟩
    · exact fun id hid => absurd hid (Finset.notMem_empty id)
    · exact fun id hid => absurd hid (Finset.notMem_empty id)
  | append_singleton steps s ih =>
    obtain ⟨v, hrun, hfollows, hpending⟩ := ih
    have hstay : JoinedStay (steps ++ [s]) → JoinedStay steps := by
      intro h before after heq
      exact h before (after ++ [s]) (by simp [heq])
    rw [run_concat, hrun, fed_concat]
    cases s with
    | feed o o' data =>
      exact ⟨_, rfl, hfollows.feed o o' data, fun h => (hpending (hstay h)).feed hfollows o o' data⟩
    | poll =>
      obtain ⟨v', hpoll, hfollows', hright, hshows⟩ := hfollows.poll
      refine ⟨v', hpoll, hfollows', fun h => (hright (hshows (hpending (hstay h)) ?_)).2⟩
      exact h steps [] rfl

/-- After a poll that is right, everybody who was brought in is still there. -/
theorem joined_subset_of_shows {c : PlayerCorrector F} {before : List (LevelStep F)}
    {v : LevelView F} (hrun : (LevelView.joined c).run (before ++ [.poll]) = some v)
    (hshows : v.Shows (fed before).last) : (fed before).joined ⊆ (fed before).last := by
  obtain ⟨v₁, hrun₁, hfollows, -⟩ := follows_run c before
  obtain ⟨v₂, hpoll, -, hright, -⟩ := hfollows.poll
  rw [run_concat, hrun₁] at hrun
  obtain rfl : v₂ = v := Option.some.inj (hpoll.symm.trans hrun)
  exact (hright hshows).1

/-- **Players on screen**: after every poll the players on screen are those of the corrector, which
are those of the last data, exactly if at every poll everybody whom some data since the poll before
brought in is in the last data. -/
theorem players_shown_iff (c : PlayerCorrector F) (steps : List (LevelStep F)) :
    (∀ before after, steps = before ++ .poll :: after →
      ∃ v, (LevelView.joined c).run (before ++ [.poll]) = some v ∧ v.Shows (fed before).last) ↔
      JoinedStay steps := by
  constructor
  · intro h before after heq
    obtain ⟨v, hrun, hshows⟩ := h before after heq
    exact joined_subset_of_shows hrun hshows
  · intro h before after heq
    obtain ⟨v, hrun, hfollows, hpending⟩ := follows_run c before
    obtain ⟨v', hpoll, -, -, hshows⟩ := hfollows.poll
    refine ⟨v', ?_, hshows (hpending ?_) (h before after heq)⟩
    · rw [run_concat, hrun]
      exact hpoll
    · intro before' after' heq'
      exact h before' (after' ++ .poll :: after) (by simp [heq, heq'])

end LevelView

/-- A player joins the level and leaves it again before the poll, and is shown. -/
theorem shown_after_leaving :
    let o : IterOrder Int32 := .any Int32
    let c : PlayerCorrector Rat := ⟨1, .empty, [], []⟩
    let before : List (LevelStep Rat) :=
      [.feed o o (FiniteMap.empty.insert 7 emptyPlayerData), .feed o o .empty]
    ¬∃ v, (LevelView.joined c).run (before ++ [.poll]) = some v ∧ v.Shows (fed before).last := by
  rintro o c before ⟨v, hrun, hshows⟩
  have hjoined : (7 : Int32) ∈ (fed before).joined := by decide
  exact absurd (joined_subset_of_shows hrun hshows hjoined) (by decide)

end Globed.Client
