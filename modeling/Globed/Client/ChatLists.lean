import Globed.Client.IdList

/-!
# The chat lists

The users whose messages are blocked or allowed: `ModifiedPlayLayer` of `hooked/play_layer.hpp`
reads the two lists when a level is opened, and writes them when a user is blocked or unblocked on
its `SpectateUserCell`. The saved lists keep every user exactly if the lists were read, or nobody
was clicked, or everybody in them was (`chatLists_kept_iff`).
-/

namespace Globed.Client

/-! ## The layer -/

/-- What `Mod::get()` has saved. -/
structure SavedLists where
  chatBlacklist : List Char
  chatWhitelist : List Char

/-- The settings that the chat looks at. -/
structure GlobedGameSettings where
  chatWhitelist : Bool
  chat : Bool

/-- The fields of the layer that belong to the lists. -/
structure ModifiedPlayLayer where
  settings : GlobedGameSettings
  chatBlacklist : Finset Int32
  chatWhitelist : Finset Int32

/-- The orders in which the two sets are visited. -/
structure ListOrders where
  blacklist : IterOrder Int32
  whitelist : IterOrder Int32

/-- A level that is played, and what is saved. -/
structure LevelSession where
  layer : ModifiedPlayLayer
  saved : SavedLists

namespace ModifiedPlayLayer

/-- The end of `init`. -/
def init (established : Bool) (settings : GlobedGameSettings) (saved : SavedLists) :
    ModifiedPlayLayer :=
  if established && settings.chat then
    { settings
      chatBlacklist := parseIdList saved.chatBlacklist
      chatWhitelist := parseIdList saved.chatWhitelist }
  else { settings, chatBlacklist := ∅, chatWhitelist := ∅ }

/-- `friends` are those that `m_friendlist` has. -/
def isUserBlocked (layer : ModifiedPlayLayer) (accountId : Int32) (friends : Finset Int32)
    (playerId : Int32) : Bool :=
  if playerId = accountId then false
  else if playerId ∈ layer.chatBlacklist then true
  else if playerId ∈ layer.chatWhitelist then false
  else if playerId ∈ friends then false
  else layer.settings.chatWhitelist

end ModifiedPlayLayer

namespace LevelSession

def saveChatUserLists (s : LevelSession) (o : ListOrders) : LevelSession :=
  { s with
    saved :=
      { chatBlacklist := serialzieIdList o.blacklist s.layer.chatBlacklist
        chatWhitelist := serialzieIdList o.whitelist s.layer.chatWhitelist } }

def chatBlockUser (s : LevelSession) (playerId : Int32) (o : ListOrders) : LevelSession :=
  let layer := { s.layer with
    chatWhitelist := s.layer.chatWhitelist.erase playerId
    chatBlacklist := insert playerId s.layer.chatBlacklist }
  saveChatUserLists { s with layer } o

def chatUnblockUser (s : LevelSession) (playerId : Int32) (o : ListOrders) : LevelSession :=
  let layer := { s.layer with
    chatBlacklist := s.layer.chatBlacklist.erase playerId
    chatWhitelist := insert playerId s.layer.chatWhitelist }
  saveChatUserLists { s with layer } o

end LevelSession

/-! ## Clicks -/

inductive ClickKind
  | block
  | unblock
  deriving DecidableEq

/-- A user is blocked or unblocked, and the lists are visited in these orders. -/
structure Click where
  kind : ClickKind
  playerId : Int32
  order : ListOrders

namespace LevelSession

def click (s : LevelSession) (c : Click) : LevelSession :=
  match c.kind with
  | .block => s.chatBlockUser c.playerId c.order
  | .unblock => s.chatUnblockUser c.playerId c.order

def clicks (s : LevelSession) (cs : List Click) : LevelSession := cs.foldl click s

/-- A level is opened. -/
def opened (established : Bool) (settings : GlobedGameSettings) (saved : SavedLists) :
    LevelSession :=
  ⟨.init established settings saved, saved⟩

end LevelSession

/-- What the last click on a user did. -/
def lastClick (cs : List Click) (id : Int32) : Option ClickKind :=
  (cs.reverse.find? (·.playerId = id)).map (·.kind)

/-- The saved lists have everybody who was clicked where the last click put them, and everybody else
where they were. -/
structure ListsKept (blacklist whitelist : Finset Int32) (cs : List Click) (saved : SavedLists) :
    Prop where
  unclicked : ∀ id, (∀ c ∈ cs, c.playerId ≠ id) →
    (id ∈ parseIdList saved.chatBlacklist ↔ id ∈ blacklist) ∧
      (id ∈ parseIdList saved.chatWhitelist ↔ id ∈ whitelist)
  clicked : ∀ id kind, lastClick cs id = some kind →
    (id ∈ parseIdList saved.chatBlacklist ↔ kind = .block) ∧
      (id ∈ parseIdList saved.chatWhitelist ↔ kind = .unblock)

/-! ## Cells -/

/-- The cell of a user, with its button. -/
structure SpectateUserCell where
  playerId : Int32
  isBlocked : Bool

/-- A cell gets its button, unless it is the player's own cell; or a button is pressed. -/
inductive CellEvent
  | init (accountId : Int32) (friends : Finset Int32) (playerId : Int32)
  | onBlock (index : Nat) (order : ListOrders)

/-- A level that is played, and the cells that were opened. -/
structure CellSession where
  level : LevelSession
  cells : List SpectateUserCell

namespace CellSession

def onBlock (s : CellSession) (index : Nat) (order : ListOrders) : CellSession :=
  match s.cells[index]? with
  | none => s
  | some cell =>
    let cell := { cell with isBlocked := !cell.isBlocked }
    { cells := s.cells.set index cell
      level :=
        if cell.isBlocked then s.level.chatBlockUser cell.playerId order
        else s.level.chatUnblockUser cell.playerId order }

def step (s : CellSession) : CellEvent → CellSession
  | .init accountId friends playerId =>
    if playerId = 0 then s
    else
      let isBlocked := s.level.layer.isUserBlocked accountId friends playerId
      { s with cells := s.cells ++ [{ playerId, isBlocked }] }
  | .onBlock index order => s.onBlock index order

def run (s : CellSession) (events : List CellEvent) : CellSession := events.foldl step s

end CellSession

/-! ## What clicks do -/

section Clicks

variable (s : LevelSession)

/-- One click puts the user in one list and takes it off the other. -/
theorem mem_click (c : Click) (id : Int32) :
    (id ∈ (s.click c).layer.chatBlacklist ↔
        if c.playerId = id then c.kind = .block else id ∈ s.layer.chatBlacklist) ∧
      (id ∈ (s.click c).layer.chatWhitelist ↔
        if c.playerId = id then c.kind = .unblock else id ∈ s.layer.chatWhitelist) := by
  obtain ⟨kind, playerId, o⟩ := c
  by_cases h : playerId = id
  · subst h
    cases kind <;>
      simp [LevelSession.click, LevelSession.chatBlockUser, LevelSession.chatUnblockUser,
        LevelSession.saveChatUserLists]
  · have h' : id ≠ playerId := fun heq => h heq.symm
    cases kind <;>
      simp [LevelSession.click, LevelSession.chatBlockUser, LevelSession.chatUnblockUser,
        LevelSession.saveChatUserLists, h, h']

theorem clicks_concat (cs : List Click) (c : Click) :
    s.clicks (cs ++ [c]) = (s.clicks cs).click c := by
  simp [LevelSession.clicks]

theorem lastClick_concat (cs : List Click) (c : Click) (id : Int32) :
    lastClick (cs ++ [c]) id = if c.playerId = id then some c.kind else lastClick cs id := by
  by_cases h : c.playerId = id <;> simp [lastClick, h]

theorem lastClick_eq_none {cs : List Click} {id : Int32} :
    lastClick cs id = none ↔ ∀ c ∈ cs, c.playerId ≠ id := by
  simp [lastClick]

/-- The lists of the layer have everybody where the last click put them. -/
theorem mem_clicks (cs : List Click) (id : Int32) :
    (id ∈ (s.clicks cs).layer.chatBlacklist ↔
        (lastClick cs id).elim (id ∈ s.layer.chatBlacklist) (· = .block)) ∧
      (id ∈ (s.clicks cs).layer.chatWhitelist ↔
        (lastClick cs id).elim (id ∈ s.layer.chatWhitelist) (· = .unblock)) := by
  induction cs using List.reverseRecOn with
  | nil => exact ⟨.rfl, .rfl⟩
  | append_singleton cs c ih =>
    obtain ⟨hblack, hwhite⟩ := mem_click (s.clicks cs) c id
    rw [clicks_concat, lastClick_concat]
    by_cases h : c.playerId = id
    · rw [if_pos h] at hblack hwhite ⊢
      exact ⟨hblack, hwhite⟩
    · rw [if_neg h] at hblack hwhite ⊢
      exact ⟨hblack.trans ih.1, hwhite.trans ih.2⟩

/-- After a click, the saved lists are those of the layer. -/
theorem mem_saved_click (c : Click) (id : Int32) :
    (id ∈ parseIdList (s.click c).saved.chatBlacklist ↔ id ∈ (s.click c).layer.chatBlacklist) ∧
      (id ∈ parseIdList (s.click c).saved.chatWhitelist ↔
        id ∈ (s.click c).layer.chatWhitelist) := by
  obtain ⟨kind, playerId, o⟩ := c
  cases kind <;>
    exact ⟨mem_parseIdList_serialzieIdList _ _ id, mem_parseIdList_serialzieIdList _ _ id⟩

/-- Once there was a click, the saved lists have everybody where the last click put them, and
everybody else where the layer had them. -/
theorem mem_saved_clicks {cs : List Click} (h : cs ≠ []) (id : Int32) :
    (id ∈ parseIdList (s.clicks cs).saved.chatBlacklist ↔
        (lastClick cs id).elim (id ∈ s.layer.chatBlacklist) (· = .block)) ∧
      (id ∈ parseIdList (s.clicks cs).saved.chatWhitelist ↔
        (lastClick cs id).elim (id ∈ s.layer.chatWhitelist) (· = .unblock)) := by
  obtain ⟨hblack, hwhite⟩ := mem_clicks s cs id
  obtain ⟨before, c, rfl⟩ := (List.eq_nil_or_concat cs).resolve_left h
  rw [List.concat_eq_append, clicks_concat] at hblack hwhite ⊢
  obtain ⟨hblack', hwhite'⟩ := mem_saved_click (s.clicks before) c id
  exact ⟨hblack'.trans hblack, hwhite'.trans hwhite⟩

end Clicks

/-! ## What cells do -/

section Cells

/-- No cell with a button stands for nobody. -/
def CellSession.Users (s : CellSession) : Prop := ∀ cell ∈ s.cells, cell.playerId ≠ 0

theorem cells_step {s : CellSession} (hs : s.Users) (e : CellEvent) :
    ∃ cs, (s.step e).level = s.level.clicks cs ∧ (∀ c ∈ cs, c.playerId ≠ 0) ∧ (s.step e).Users := by
  cases e with
  | init accountId friends playerId =>
    by_cases hid : playerId = 0
    · have hstep : s.step (.init accountId friends playerId) = s := if_pos hid
      rw [hstep]
      exact ⟨[], rfl, by simp, hs⟩
    · refine ⟨[], by simp [CellSession.step, hid, LevelSession.clicks], by simp, ?_⟩
      intro cell hcell
      simp only [CellSession.step, if_neg hid] at hcell
      rcases List.mem_append.mp hcell with hcell | hcell
      · exact hs cell hcell
      · obtain rfl := List.mem_singleton.mp hcell
        exact hid
  | onBlock index o =>
    simp only [CellSession.step, CellSession.onBlock]
    cases hcell : s.cells[index]? with
    | none => exact ⟨[], rfl, by simp, hs⟩
    | some cell =>
      obtain ⟨playerId, isBlocked⟩ := cell
      have hid : playerId ≠ 0 := hs _ (List.mem_of_getElem? hcell)
      have husers : ∀ cell ∈ s.cells.set index ⟨playerId, !isBlocked⟩, cell.playerId ≠ 0 := by
        intro cell hmem
        rcases List.mem_or_eq_of_mem_set hmem with hmem | rfl
        · exact hs cell hmem
        · exact hid
      cases isBlocked
      · exact ⟨[⟨.block, playerId, o⟩], rfl, by simpa using hid, husers⟩
      · exact ⟨[⟨.unblock, playerId, o⟩], rfl, by simpa using hid, husers⟩

/-- The buttons of cells block and unblock users, and do nothing else. -/
theorem cells_run {s : CellSession} (hs : s.Users) (events : List CellEvent) :
    ∃ cs, (s.run events).level = s.level.clicks cs ∧ ∀ c ∈ cs, c.playerId ≠ 0 := by
  induction events generalizing s with
  | nil => exact ⟨[], rfl, by simp⟩
  | cons e events ih =>
    obtain ⟨cs, hlevel, hcs, hs'⟩ := cells_step hs e
    obtain ⟨cs', hlevel', hcs'⟩ := ih hs'
    refine ⟨cs ++ cs', ?_, ?_⟩
    · rw [LevelSession.clicks, List.foldl_append]
      exact hlevel'.trans (congrArg (LevelSession.clicks · cs') hlevel)
    · intro c hc
      exact (List.mem_append.mp hc).elim (hcs c) (hcs' c)

end Cells

/-! ## The saved lists -/

section Saved

/-- What was saved in an earlier level. -/
def savedLists (o : ListOrders) (blacklist whitelist : Finset Int32) : SavedLists where
  chatBlacklist := serialzieIdList o.blacklist blacklist
  chatWhitelist := serialzieIdList o.whitelist whitelist

/-- The lists of a layer that was just opened: those that were saved, or none. -/
theorem mem_opened (established : Bool) (settings : GlobedGameSettings) (o : ListOrders)
    (blacklist whitelist : Finset Int32) (id : Int32) :
    let s := LevelSession.opened established settings (savedLists o blacklist whitelist)
    (id ∈ s.layer.chatBlacklist ↔ (established && settings.chat) = true ∧ id ∈ blacklist) ∧
      (id ∈ s.layer.chatWhitelist ↔ (established && settings.chat) = true ∧ id ∈ whitelist) := by
  dsimp only [LevelSession.opened, ModifiedPlayLayer.init]
  split
  · rename_i hread
    simp [hread, savedLists, mem_parseIdList_serialzieIdList]
  · rename_i hread
    simp [hread]

/-- **Who stays in the saved lists**: everybody stays where they were, or where they were put,
exactly if the lists were read when the level was opened, or nobody was clicked, or everybody in the
lists was. -/
theorem chatLists_kept_iff (established : Bool) (settings : GlobedGameSettings) (o : ListOrders)
    (blacklist whitelist : Finset Int32) (cs : List Click) :
    ListsKept blacklist whitelist cs
        ((LevelSession.opened established settings (savedLists o blacklist whitelist)).clicks
          cs).saved ↔
      (established = true ∧ settings.chat = true) ∨ cs = [] ∨
        ∀ id ∈ blacklist ∪ whitelist, ∃ c ∈ cs, c.playerId = id := by
  by_cases hne : cs = []
  · subst hne
    refine iff_of_true ⟨fun id _ => ?_, fun id kind h => nomatch h⟩ (.inr (.inl rfl))
    exact ⟨mem_parseIdList_serialzieIdList _ _ id, mem_parseIdList_serialzieIdList _ _ id⟩
  · have hopened := mem_opened established settings o blacklist whitelist
    have hsaved := mem_saved_clicks
      (LevelSession.opened established settings (savedLists o blacklist whitelist)) hne
    constructor
    · intro h
      by_cases hread : (established && settings.chat) = true
      · exact .inl (Bool.and_eq_true_iff.mp hread)
      · refine .inr (.inr fun id hid => ?_)
        by_contra hnone
        have hclicks : ∀ c ∈ cs, c.playerId ≠ id := fun c hc heq => hnone ⟨c, hc, heq⟩
        -- the layer never had the user
        obtain ⟨hblack, hwhite⟩ := hsaved id
        rw [lastClick_eq_none.mpr hclicks] at hblack hwhite
        rcases Finset.mem_union.mp hid with hid | hid
        · have hlayer := hblack.mp ((h.unclicked id hclicks).1.mpr hid)
          exact hread ((hopened id).1.mp hlayer).1
        · have hlayer := hwhite.mp ((h.unclicked id hclicks).2.mpr hid)
          exact hread ((hopened id).2.mp hlayer).1
    · intro h
      constructor
      · intro id hid
        obtain ⟨hblack, hwhite⟩ := hsaved id
        rw [lastClick_eq_none.mpr hid] at hblack hwhite
        have hread : id ∈ blacklist ∪ whitelist → (established && settings.chat) = true := by
          intro hmem
          rcases h with ⟨hest, hchat⟩ | hnil | hall
          · rw [hest, hchat]
            rfl
          · exact absurd hnil hne
          · obtain ⟨c, hc, heq⟩ := hall id hmem
            exact absurd heq (hid c hc)
        constructor
        · apply (hblack.trans (hopened id).1).trans
          exact and_iff_right_of_imp fun hmem => hread (Finset.mem_union_left _ hmem)
        · apply (hwhite.trans (hopened id).2).trans
          exact and_iff_right_of_imp fun hmem => hread (Finset.mem_union_right _ hmem)
      · intro id kind hkind
        obtain ⟨hblack, hwhite⟩ := hsaved id
        rw [hkind] at hblack hwhite
        exact ⟨hblack, hwhite⟩

/-- The chat is off, and a user is blocked: one who was blocked before is not any more. -/
theorem chatLists_lost_with_chat_off :
    let o : ListOrders := ⟨.any Int32, .any Int32⟩
    let cs : List Click := [⟨.block, 7, o⟩]
    ¬ListsKept {1} ∅ cs
      ((LevelSession.opened true ⟨false, false⟩ (savedLists o {1} ∅)).clicks cs).saved := by
  intro o cs h
  have hclicks : ∀ c ∈ cs, c.playerId ≠ 1 := by
    intro c hc
    obtain rfl := List.mem_singleton.mp hc
    decide
  have hne : cs ≠ [] := List.cons_ne_nil _ _
  have hsaved :=
    mem_saved_clicks (LevelSession.opened true ⟨false, false⟩ (savedLists o {1} ∅)) hne 1
  rw [lastClick_eq_none.mpr hclicks] at hsaved
  have hlayer := hsaved.1.mp ((h.unclicked 1 hclicks).1.mpr (Finset.mem_singleton_self 1))
  exact absurd hlayer (Finset.notMem_empty 1)

end Saved

end Globed.Client
