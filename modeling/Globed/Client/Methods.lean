import Globed.Client.Story

/-!
# The methods of the main thread

Every method of the layer keeps the contract of the main thread, step by step: what it does at its
accesses is allowed there, and what it leaves is sound. So the thread keeps it whatever the
callbacks are (`gameThread_keeps`).
-/

namespace Globed.Client

open Concurrent

section Methods

variable {F : Type}

/-! ## Changes of a layer -/

section Roster

variable {given : Int32 → PlayerAccountData → Prop} {a : Int32}
  {players : FiniteMap Int32 (PlayerNode F × PlayerNode F)}
  {progresses : FiniteMap Int32 PlayerProgress} {playerId : Int32}

theorem Roster.empty :
    Roster given (.empty : FiniteMap Int32 (PlayerNode F × PlayerNode F)) .empty := by
  constructor
  · intro id h
    cases h
  · intro id node h
    cases h
  · intro id progress h
    cases h

theorem Roster.erase (h : Roster given players progresses) (playerId : Int32) :
    Roster given (players.erase playerId) (progresses.erase playerId) := by
  constructor
  · intro id hid
    by_cases hne : id = playerId
    · simp [hne, FiniteMap.contains] at hid
    · have hold := h.keys id
      simp only [FiniteMap.contains, FiniteMap.get_erase, if_neg hne] at hid hold ⊢
      exact hold hid
  · intro id node hid
    rw [FiniteMap.get_erase] at hid
    split at hid
    · cases hid
    · exact h.icons id node hid
  · intro id progress hid
    rw [FiniteMap.get_erase] at hid
    split at hid
    · cases hid
    · exact h.progress id progress hid

/-- The nodes of a player are others now. -/
theorem Roster.insert (h : Roster given players progresses)
    (hold : progresses.contains playerId = true) (node : PlayerNode F × PlayerNode F)
    (hfirst : Genuine given playerId node.1.data) (hsecond : Genuine given playerId node.2.data) :
    Roster given (players.insert playerId node) progresses := by
  refine ⟨fun id hid => ?_, fun id node' hid => ?_, h.progress⟩
  · by_cases hne : id = playerId
    · rw [hne]
      exact hold
    · have hkeys := h.keys id
      simp only [FiniteMap.contains, FiniteMap.get_insert, if_neg hne] at hid hkeys ⊢
      exact hkeys hid
  · rw [FiniteMap.get_insert] at hid
    split at hid
    · next heq =>
      obtain rfl := Option.some.inj hid
      rw [heq]
      exact ⟨hfirst, hsecond⟩
    · exact h.icons id node' hid

/-- The progress of a player is another one now. -/
theorem Roster.insertProgress (h : Roster given players progresses) (progress : PlayerProgress)
    (hdata : Genuine given playerId progress.data) :
    Roster given players (progresses.insert playerId progress) := by
  refine ⟨fun id hid => ?_, h.icons, fun id progress' hid => ?_⟩
  · have hold := h.keys id hid
    simp only [FiniteMap.contains, FiniteMap.get_insert] at hold ⊢
    split
    · rfl
    · exact hold
  · rw [FiniteMap.get_insert] at hid
    split at hid
    · next heq =>
      obtain rfl := Option.some.inj hid
      rw [heq]
      exact hdata
    · exact h.progress id progress' hid

theorem Roster.modifyProgress (h : Roster given players progresses) (progress : PlayerProgress)
    (hdata : Genuine given playerId progress.data) :
    Roster given players (progresses.modify playerId fun _ => progress) := by
  refine ⟨fun id hid => ?_, h.icons, fun id progress' hid => ?_⟩
  · have hold := h.keys id hid
    simp only [FiniteMap.contains, FiniteMap.get_modify] at hold ⊢
    split
    · simpa using hold
    · exact hold
  · rw [FiniteMap.get_modify] at hid
    split at hid
    · next heq =>
      obtain ⟨_, _, rfl⟩ := Option.map_eq_some_iff.mp hid
      rw [heq]
      exact hdata
    · exact h.progress id progress' hid

/-- A new player has a progress, a new one if it had none. -/
theorem Roster.add (h : Roster given players progresses)
    (hnew : players.contains playerId = false) (node : PlayerNode F × PlayerNode F)
    (hfirst : Genuine given playerId node.1.data)
    (hsecond : Genuine given playerId node.2.data) :
    Roster given (players.insertIfNew playerId node)
      (progresses.insertIfNew playerId .create) := by
  rw [FiniteMap.insertIfNew_of_get_none _ (FiniteMap.contains_eq_false.mp hnew),
    FiniteMap.insertIfNew]
  split
  · next hold => exact h.insert hold node hfirst hsecond
  · refine (h.insertProgress .create (.inl rfl)).insert ?_ node hfirst hsecond
    simp [FiniteMap.contains]

end Roster

section Chat

variable {given : Int32 → PlayerAccountData → Prop} {a : Int32} {texts : List TextMessage}
  {messageList : CCCappedQueue ChatLine 10} {box : List ChatLine}

theorem ChatShows.opened (chat : Bool) :
    ChatShows given a [] .new (if chat then some [] else none) := by
  refine ⟨fun box hbox => ?_, fun line hline => ?_⟩
  · split at hbox
    · obtain rfl := Option.some.inj hbox
      exact ⟨rfl, rfl⟩
    · cases hbox
  · cases hline

/-- The line that leaves the queue is the one that leaves the box. -/
theorem onBox_push (messageList : CCCappedQueue ChatLine 10) (line : ChatLine) :
    (CCCappedQueue.push (fun _ => true) messageList line).1.foldl ObjectCall.onBox
        (messageList.queue ++ [line]) =
      (CCCappedQueue.push (fun _ => true) messageList line).2.queue := by
  obtain ⟨queue⟩ := messageList
  unfold CCCappedQueue.push CCCappedQueue.pop CappedQueue.size
  by_cases h : 10 ≤ queue.length
  · cases queue with
    | nil => simp at h
    | cons line' queue =>
      simp only [List.length_cons] at h
      simp [ObjectCall.onBox, h]
  · simp [ObjectCall.onBox, h]

/-- One more line, with its icons. -/
theorem ChatShows.line (h : ChatShows given a texts messageList (some box)) (line : ChatLine)
    (hdata : ∀ data, line.accData = some data →
      line.text.sender = a ∨ Genuine given line.text.sender data) :
    ChatShows given a (texts ++ [line.text]) (CCCappedQueue.push (fun _ => true) messageList line).2
      (some ((CCCappedQueue.push (fun _ => true) messageList line).1.foldl ObjectCall.onBox
        (box ++ [line]))) := by
  obtain ⟨rfl, htexts⟩ := h.box box rfl
  have hpush := (ccPush_eq (fun _ => true) messageList line).1
  rw [onBox_push, hpush]
  refine ⟨fun box' hbox => ?_, fun line' hline => ?_⟩
  · obtain rfl := Option.some.inj hbox
    refine ⟨rfl, ?_⟩
    have hnewest : Newest texts (⟨messageList.queue.map (·.text)⟩ : CappedQueue TextMessage 10) :=
      htexts
    have hnext := hnewest.push (by decide) line.text
    rw [Newest] at hnext
    rw [← hnext]
    unfold CappedQueue.push CappedQueue.size
    simp only [List.length_map]
    split <;> simp [List.map_tail]
  · rw [CappedQueue.push] at hline
    rcases List.mem_append.mp hline with hline | hline
    · split at hline
      · exact h.icons line' (List.mem_of_mem_tail hline)
      · exact h.icons line' hline
    · obtain rfl := List.mem_singleton.mp hline
      exact hdata

end Chat

/-! ## Methods of the layer -/

variable {given : Int32 → PlayerAccountData → Prop} {a : Int32} {saved : SavedLists}
  {env : Env} {s : Story F} {layer : PlayLayer F} {game : Game F}

namespace PlayLayer

/-- Nothing was said since `s`, and the layer is ready. -/
structure Stays (given : Int32 → PlayerAccountData → Prop) (a : Int32) (s : Story F)
    (layer : PlayLayer F) (s' : Story F) : Prop where
  story : s' = s
  sound : layer.Sound given a s.texts (entered s.said)
  ready : layer.readyForMP = true

/-- A player that is gone is removed, if it was there. -/
theorem removePlayer_keeps {s' : Story F} (h : Stays given a s layer s') (playerId : Int32) :
    (if layer.players.contains playerId then layer.removePlayer playerId
      else pure layer : GameTask F (PlayLayer F)).Keeps (gameContract given a saved)
      (Stays given a s) s' := by
  split
  · next hold =>
    have hkey := h.sound.roster.keys playerId hold
    rw [removePlayer, hold, hkey]
    refine Proc.Keeps.pure ⟨h.story, ?_, h.ready⟩
    have hroster := h.sound.roster.erase playerId
    exact ⟨hroster, h.sound.chat, h.sound.level, h.sound.testMode, h.sound.selfProgress⟩
  · exact Proc.Keeps.pure h

/-- The player is shown with its own icons, or was asked for. -/
def Known (s : Story F) (layer : PlayLayer F) (id : Int32) : Prop :=
  ∀ node, layer.players.get id = some node →
    node.1.isDefault = false ∧ node.2.isDefault = false ∨ id ∈ s.asked

theorem Known.mono {s' : Story F} {id : Int32} (h : layer.Known s id)
    (hasked : ∀ id ∈ s.asked, id ∈ s'.asked) : layer.Known s' id := by
  intro node hnode
  exact (h node hnode).imp_right (hasked id)

/-- What holds while the players of `rest` are still to be refreshed. -/
structure Refreshing (given : Int32 → PlayerAccountData → Prop) (a : Int32) (s : Story F)
    (rest : List Int32) (layer : PlayLayer F) (s' : Story F) : Prop where
  sound : layer.Sound given a s.texts (entered s.said)
  ready : layer.readyForMP = true
  texts : s'.texts = s.texts
  mute : s'.mute = s.mute
  entered : entered s'.said = entered s.said
  known : ∀ id, id ∉ rest → layer.Known s' id

theorem Refreshing.unchanged {s' : Story F} {playerId : Int32} {rest : List Int32}
    (h : Refreshing given a s (playerId :: rest) layer s') (hknown : layer.Known s' playerId) :
    Refreshing given a s rest layer s' := by
  refine { h with known := fun id hid => ?_ }
  by_cases hne : id = playerId
  · rw [hne]
    exact hknown
  · exact h.known id (List.not_mem_cons_of_ne_of_not_mem hne hid)

theorem refreshPlayer_keeps {s' : Story F} {playerId : Int32} {rest : List Int32}
    (h : Refreshing given a s (playerId :: rest) layer s') :
    (layer.refreshPlayer playerId).Keeps (gameContract given a saved)
      (Refreshing given a s rest) s' := by
  unfold refreshPlayer
  cases hget : layer.players.get playerId with
  | none =>
    refine Proc.Keeps.pure (h.unchanged fun node hnode => ?_)
    rw [hget] at hnode
    cases hnode
  | some node =>
    obtain ⟨first, second⟩ := node
    dsimp only
    by_cases hdefault : (first.isDefault || second.isDefault) = true
    · rw [if_pos hdefault]
      refine Proc.Keeps.act rfl fun data hdata => ?_
      cases data with
      | some data =>
        have hgenuine : Genuine given playerId data := .inr (hdata data rfl)
        have hkey := h.sound.roster.keys playerId (FiniteMap.contains_iff.mpr ⟨_, hget⟩)
        have hroster := h.sound.roster.insert hkey
          (first.updateData data false, second.updateData data false) hgenuine hgenuine
        have hroster := hroster.modifyProgress (.updateData data) hgenuine
        refine Proc.Keeps.pure ⟨?_, h.ready, h.texts, h.mute, h.entered, fun id hid => ?_⟩
        · exact ⟨hroster, h.sound.chat, h.sound.level, h.sound.testMode, h.sound.selfProgress⟩
        · intro node hnode
          rw [FiniteMap.get_insert] at hnode
          by_cases hne : id = playerId
          · rw [if_pos hne] at hnode
            obtain rfl := Option.some.inj hnode
            exact .inl ⟨rfl, rfl⟩
          · rw [if_neg hne] at hnode
            exact h.known id (List.not_mem_cons_of_ne_of_not_mem hne hid) node hnode
      | none =>
        refine Proc.Keeps.act trivial fun _ _ => Proc.Keeps.pure ?_
        refine ⟨h.sound, h.ready, h.texts, h.mute, ?_, fun id hid => ?_⟩
        · exact (entered_concat _ _).trans h.entered
        · by_cases hne : id = playerId
          · exact fun _ _ => .inr (List.mem_append_right _ (by simp [hne, Story.asks]))
          · have hknown := h.known id (List.not_mem_cons_of_ne_of_not_mem hne hid)
            exact hknown.mono fun _ hid => List.mem_append_left _ hid
    · rw [if_neg hdefault]
      refine Proc.Keeps.pure (h.unchanged fun node hnode => ?_)
      rw [hget] at hnode
      obtain rfl := Option.some.inj hnode
      exact .inl (by simpa using hdefault)

/-- What the layer skips, and whether it has a chat box, is as the last method left it. -/
structure Hears (a : Int32) (s : Story F) (layer : PlayLayer F) : Prop where
  skips : ∀ message, s.game.skips a message = layer.skips a message
  mute : s.game.isMute = layer.chatBox.isNone

/-- What holds while the players are drawn. -/
structure Drawing (given : Int32 → PlayerAccountData → Prop) (a : Int32) (s : Story F)
    (layer : PlayLayer F) (s' : Story F) : Prop extends Stays given a s layer s' where
  hears : Hears a s layer

theorem updateProgress_keeps {s' : Story F} {playerId : Int32} (h : Drawing given a s layer s')
    (hplayer : layer.players.contains playerId = true) :
    (layer.updateProgress playerId).Keeps (gameContract given a saved) (Drawing given a s) s' := by
  obtain ⟨progress, hprogress⟩ :=
    FiniteMap.contains_iff.mp (h.sound.roster.keys playerId hplayer)
  unfold updateProgress
  rw [hprogress]
  dsimp only
  split
  · refine Proc.Keeps.act rfl fun data hdata => ?_
    cases data with
    | none => exact Proc.Keeps.pure h
    | some data =>
      have hroster := h.sound.roster.insertProgress (.updateData data) (.inr (hdata data rfl))
      refine Proc.Keeps.pure ⟨⟨h.story, ?_, h.ready⟩, h.hears.skips, h.hears.mute⟩
      exact ⟨hroster, h.sound.chat, h.sound.level, h.sound.testMode, h.sound.selfProgress⟩
  · exact Proc.Keeps.pure h

theorem updatePlayer_keeps {s' : Story F} (h : Drawing given a s layer s') (dt : F)
    (playerId : Int32) :
    (layer.updatePlayer dt playerId).Keeps (gameContract given a saved)
      (Drawing given a s) s' := by
  unfold updatePlayer
  cases hget : layer.players.get playerId with
  | none => exact Proc.Keeps.pure h
  | some node =>
    obtain ⟨first, second⟩ := node
    dsimp only
    refine Proc.Keeps.act rfl fun answer hanswer => ?_
    obtain ⟨⟨first', second'⟩, rfl⟩ := hanswer
    rw [Proc.ofExcept_ok, Proc.ret_bind]
    obtain ⟨hfirst, hsecond⟩ := h.sound.roster.icons playerId _ hget
    have hkey := h.sound.roster.keys playerId (FiniteMap.contains_iff.mpr ⟨_, hget⟩)
    have hroster := h.sound.roster.insert hkey
      ({ first with player := first' }, { second with player := second' }) hfirst hsecond
    have hsound : PlayLayer.Sound given a s.texts (entered s.said) { layer with
        players := layer.players.insert playerId
          ({ first with player := first' }, { second with player := second' }) } :=
      ⟨hroster, h.sound.chat, h.sound.level, h.sound.testMode, h.sound.selfProgress⟩
    dsimp only
    split
    · refine updateProgress_keeps ⟨⟨h.story, hsound, h.ready⟩, h.hears.skips, h.hears.mute⟩ ?_
      simp [FiniteMap.contains]
    · exact Proc.Keeps.pure ⟨⟨h.story, hsound, h.ready⟩, h.hears.skips, h.hears.mute⟩

/-! ### Texts -/

/-- What holds while the texts of `rest` are still to be shown. -/
structure Reading (given : Int32 → PlayerAccountData → Prop) (a : Int32) (s : Story F)
    (layer : PlayLayer F) (rest : List TextMessage) (layer' : PlayLayer F) (s' : Story F) :
    Prop where
  story : s' = s
  frame : ∃ messageList chatBox, layer' = { layer with messageList, chatBox }
  texts : ∃ shown, s.texts = shown ++ rest.filter (fun message => !layer.skips a message) ∧
    layer'.Sound given a shown (entered s.said)
  mute : layer'.chatBox.isNone = s.mute

/-- The icons beside a message are those of its sender. -/
theorem messageIcons_keeps {cache : FiniteMap Int32 PlayerAccountData} (message : TextMessage)
    (hcache : ∀ playerId data, cache.get playerId = some data → given playerId data) :
    (messageIcons cache message).Keeps (gameContract given a saved)
      (fun accData s' => s' = s ∧ ∀ data, accData = some data →
        message.sender = a ∨ Genuine given message.sender data) s := by
  unfold messageIcons
  refine Proc.Keeps.act rfl fun accountId haccount => ?_
  obtain rfl : accountId = a := haccount
  split
  · next hself => exact Proc.Keeps.act rfl fun _ _ => Proc.Keeps.pure ⟨rfl, fun _ _ => .inl hself⟩
  · cases hget : cache.get message.sender with
    | some data =>
      refine Proc.Keeps.pure ⟨rfl, fun data' hdata => .inr (.inr ?_)⟩
      obtain rfl := Option.some.inj hdata
      exact hcache _ _ hget
    | none =>
      refine Proc.Keeps.pure ⟨rfl, fun data' hdata => .inr (.inl ?_)⟩
      split at hdata
      · cases hdata
      · exact (Option.some.inj hdata).symm

theorem addLine_keeps {s' : Story F} {cache : FiniteMap Int32 PlayerAccountData}
    {layer' : PlayLayer F} {message : TextMessage} {rest : List TextMessage}
    (hcache : ∀ playerId data, cache.get playerId = some data → given playerId data)
    (h : Reading given a s layer (message :: rest) layer' s') :
    (addLine cache layer' message).Keeps (gameContract given a saved)
      (Reading given a s layer rest) s' := by
  obtain ⟨rfl, ⟨messageList, chatBox, rfl⟩, ⟨shown, htexts, hsound⟩, hmute⟩ := h
  unfold addLine
  refine Proc.Keeps.act rfl fun accountId haccount => ?_
  obtain rfl : accountId = a := haccount
  by_cases hskips : layer.skips accountId message = true
  · have hblocked := hskips
    rw [skips, Bool.and_eq_true, decide_eq_true_iff] at hblocked
    rw [if_pos hblocked]
    rw [List.filter_cons_of_neg (by simp [hskips])] at htexts
    exact Proc.Keeps.pure ⟨rfl, ⟨_, _, rfl⟩, ⟨shown, htexts, hsound⟩, hmute⟩
  · have hshown := hskips
    rw [skips, Bool.and_eq_true, decide_eq_true_iff] at hshown
    rw [if_neg hshown]
    rw [List.filter_cons_of_pos (by simpa using hskips)] at htexts
    refine (messageIcons_keeps message hcache).bind fun accData s₁ h₁ => ?_
    obtain ⟨rfl, hdata⟩ := h₁
    cases chatBox with
    | none => exact hmute.symm
    | some box =>
      refine Proc.Keeps.pure ⟨rfl, ⟨_, _, rfl⟩, ⟨shown ++ [message], ?_, ?_⟩, hmute⟩
      · rw [htexts, List.append_assoc, List.singleton_append]
      · have hchat := hsound.chat.line ⟨accData, message⟩ hdata
        exact ⟨hsound.roster, hchat, hsound.level, hsound.testMode, hsound.selfProgress⟩

/-- The layer has other lines now, and shows the newest texts of the story. -/
structure Shown (given : Int32 → PlayerAccountData → Prop) (a : Int32) (s : Story F)
    (layer layer' : PlayLayer F) (s' : Story F) : Prop where
  said : s'.said = s.said
  frame : ∃ messageList chatBox, layer' = { layer with messageList, chatBox }
  sound : layer'.Sound given a s'.texts (entered s.said)
  mute : s'.mute = false

theorem updateMessages_keeps (hsound : layer.Sound given a s.texts (entered s.said))
    (hears : Hears a s layer) (hmute : s.mute = false) :
    layer.updateMessages.Keeps (gameContract given a saved) (Shown given a s layer) s := by
  unfold updateMessages
  split
  · exact Proc.Keeps.pure ⟨rfl, ⟨_, _, rfl⟩, hsound, hmute⟩
  · refine Proc.Keeps.act rfl fun messages _ => ?_
    split
    · next hempty =>
      obtain rfl := List.isEmpty_iff.mp hempty
      refine Proc.Keeps.pure ⟨rfl, ⟨_, _, rfl⟩, ?_, rfl⟩
      have htexts : (s.next a ⟨.popAllMessages, []⟩).texts = s.texts := by simp [Story.next]
      exact htexts ▸ hsound
    · next hsome =>
      refine Proc.Keeps.act rfl fun cache hcache => ?_
      have hmessages : messages.isEmpty = false := by simpa using hsome
      have hstart : Reading given a (s.next a ⟨.popAllMessages, messages⟩) layer messages layer
          (s.next a ⟨.popAllMessages, messages⟩) := by
        refine ⟨rfl, ⟨_, _, rfl⟩, ⟨s.texts, ?_, hsound⟩, ?_⟩
        · simp only [Story.next, hears.skips]
        · simp [Story.next, hmessages, hears.mute]
      refine (Proc.Keeps.foldlM (fun _ _ _ _ => addLine_keeps hcache) hstart).bind
        fun layer₁ s₁ h₁ => ?_
      obtain ⟨rfl, hframe, ⟨shown, htexts, hsound₁⟩, hmute₁⟩ := h₁
      rw [List.filter_nil, List.append_nil] at htexts
      split
      · next hnone => exact hmute₁.symm.trans hnone
      · next hbox =>
        rw [← htexts] at hsound₁
        exact Proc.Keeps.pure ⟨rfl, hframe, hsound₁, hmute₁.symm.trans (eq_false_of_ne_true hbox)⟩

/-! ### Once a second -/

variable [Singles F]

/-- A player that is new is added, unless it is there. -/
theorem addPlayer_keeps {s' : Story F} (h : Stays given a s layer s') (playerId : Int32) :
    (if !layer.players.contains playerId then layer.addPlayer playerId
      else pure layer : GameTask F (PlayLayer F)).Keeps (gameContract given a saved)
      (Stays given a s) s' := by
  split
  · next hnew =>
    refine Proc.Keeps.act rfl fun icons hicons => Proc.Keeps.pure ⟨h.story, ?_, h.ready⟩
    have hdata : Genuine given playerId (icons.getD defaultPlayerAccountData) := by
      cases icons with
      | none => exact .inl rfl
      | some data => exact .inr (hicons data rfl)
    have hroster := h.sound.roster.add (by simpa using hnew)
      (.create false layer.display.rpSettings _, .create true layer.display.rpSettings _)
      hdata hdata
    exact ⟨hroster, h.sound.chat, h.sound.level, h.sound.testMode, h.sound.selfProgress⟩
  · exact Proc.Keeps.pure h

theorem updateStuff_keeps (h : layer.Sound given a s.texts (entered s.said))
    (order : IterOrder Int32) :
    (layer.updateStuff order).Keeps (gameContract given a saved)
      (fun layer' s' => layer'.Sound given a s'.texts (entered s'.said) ∧ s'.mute = s.mute ∧
        (layer'.readyForMP = true → ∀ id, layer'.Known s' id)) s := by
  unfold updateStuff
  by_cases hready : layer.readyForMP = true
  · rw [if_neg (by simp [hready])]
    refine Proc.Keeps.act rfl fun gonePlayers _ => Proc.Keeps.act rfl fun _ _ => ?_
    -- the players that are gone, then those that are new: nothing is said
    have hstays : Stays given a s layer s := ⟨rfl, h, hready⟩
    refine (Proc.Keeps.foldlM (J := fun _ => Stays given a s)
      (fun playerId _ _ _ h => removePlayer_keeps h playerId) hstays).bind fun layer₁ s₁ h₁ => ?_
    refine Proc.Keeps.act rfl fun newPlayers _ => Proc.Keeps.act rfl fun _ _ => ?_
    refine (Proc.Keeps.foldlM (J := fun _ => Stays given a s)
      (fun playerId _ _ _ h => addPlayer_keeps h playerId) h₁).bind fun layer₂ s₂ h₂ => ?_
    obtain ⟨rfl, hsound₂, hready₂⟩ := h₂
    have hstart : Refreshing given a s₂ (order.list layer₂.players.keys) layer₂ s₂ := by
      refine ⟨hsound₂, hready₂, rfl, rfl, rfl, fun id hid node hnode => ?_⟩
      rw [order.mem, layer₂.players.mem_keys, hnode] at hid
      simp at hid
    refine (Proc.Keeps.foldlM (fun _ _ _ _ => refreshPlayer_keeps) hstart).mono
      fun layer₃ s₃ hdone => ?_
    have hsound₃ := hdone.sound
    rw [← hdone.texts, ← hdone.entered] at hsound₃
    exact ⟨hsound₃, hdone.mute, fun _ id => hdone.known id List.not_mem_nil⟩
  · rw [if_pos (by simpa using hready)]
    exact Proc.Keeps.pure ⟨h, rfl, fun hready' => absurd hready' hready⟩

end PlayLayer

/-! ## Methods of the game -/

namespace Game

open PlayLayer

theorem onlyIf_keeps {Q : Unit → Story F → Prop} {condition : Bool} {task : GameTask F Unit}
    (hdo : condition = true → task.Keeps (gameContract given a saved) Q s)
    (hnot : condition = false → Q ⟨⟩ s) :
    (onlyIf condition task).Keeps (gameContract given a saved) Q s := by
  cases condition with
  | true => exact hdo rfl
  | false => exact Proc.Keeps.pure (hnot rfl)

/-- What every method leaves. -/
structure Settled (given : Int32 → PlayerAccountData → Prop) (a : Int32) (game : Game F)
    (s : Story F) : Prop where
  mute : s.mute = false
  layer : ∀ layer, game.layer = some layer → layer.Sound given a s.texts (entered s.said)

theorem Settled.leaves {callback : Callback F} (h : Settled given a game s)
    (hplain : callback.isPlain = true) : s.Leaves given a callback game := by
  have hopens : callback.opens = false := by
    cases callback <;> first | rfl | cases hplain
  refine ⟨fun layer hlayer => ?_, fun hmute => ?_, fun order heq => ?_, fun _ _ _ heq => ?_⟩
  · rw [hopens]
    exact h.layer layer hlayer
  · rw [h.mute] at hmute
    cases hmute
  · rw [heq] at hplain
    cases hplain
  · rw [heq] at hplain
    cases hplain

/-- A message that is not about levels changes nothing for the layer. -/
theorem Settled.say (h : Settled given a game s) {message : NetworkThreadMessage}
    (hmessage : message.entered (entered s.said) = entered s.said) :
    Settled given a game (s.next a ⟨.pushNetMsg message, ⟨⟩⟩) := by
  refine ⟨h.mute, fun layer hlayer => ?_⟩
  have hsaid : entered (s.next a ⟨.pushNetMsg message, ⟨⟩⟩).said = entered s.said :=
    (entered_concat _ _).trans hmessage
  rw [hsaid]
  exact h.layer layer hlayer

/-- A layer of which only what the contract does not speak of is new. -/
theorem Settled.withLayer {layer' : PlayLayer F} (h : Settled given a game s)
    (hsound : layer'.Sound given a s.texts (entered s.said)) :
    Settled given a (game.withLayer layer') s := by
  refine ⟨h.mute, fun layer hlayer => ?_⟩
  obtain rfl := Option.some.inj hlayer
  exact hsound

theorem onLayer_keeps {Q : Game F → Story F → Prop}
    {method : PlayLayer F → GameTask F (Game F)} (hnone : game.layer = none → Q game s)
    (hsome : ∀ layer, game.layer = some layer →
      (method layer).Keeps (gameContract given a saved) Q s) :
    (game.onLayer method).Keeps (gameContract given a saved) Q s := by
  unfold onLayer
  cases hlayer : game.layer with
  | none => exact Proc.Keeps.pure (hnone hlayer)
  | some layer => exact hsome layer hlayer

/-- The engine's method is called on a condition. -/
theorem drive_keeps (h : Settled given a game s) {condition : Bool} {call : EngineCall}
    (hdrives : condition = true → s.Drives call) :
    (do
      onlyIf condition (access (.engine call))
      return game : GameTask F (Game F)).Keeps (gameContract given a saved) (Settled given a) s :=
  (onlyIf_keeps (Q := fun _ => Settled given a game) (fun hdo => Proc.Keeps.perform (hdrives hdo)
    fun _ _ => h) fun _ => h).bind fun _ _ h' => Proc.Keeps.pure h'

/-! ### Ticks -/

/-- The layer when nobody is spectated any more. -/
def stopped (layer : PlayLayer F) : PlayLayer F :=
  { layer with wasSpectating := false, isTestMode := layer.hasStartPositions }

theorem leaveSpectate_keeps {texts : List TextMessage} {onLevel : Bool}
    (h : layer.Sound given a texts onLevel) :
    (game.leaveSpectate layer).Keeps (gameContract given a saved)
      (fun game' s' => s' = s ∧
        game' = { game with spectatedPlayer := 0, layer := some (stopped layer) }) s := by
  unfold leaveSpectate
  dsimp only
  split
  · next hnone =>
    have hsome := h.selfProgress
    simp only [Bool.and_eq_true, Option.isNone_iff_eq_none] at hnone hsome
    rw [hnone.2] at hsome
    simp [hnone.1] at hsome
  · exact Proc.Keeps.act trivial fun _ _ => Proc.Keeps.pure ⟨rfl, rfl⟩

theorem stopped_sound {texts : List TextMessage} {onLevel : Bool}
    (h : layer.Sound given a texts onLevel) : (stopped layer).Sound given a texts onLevel :=
  ⟨h.roster, h.chat, h.level, by simp [stopped], h.selfProgress⟩

/-- After the part of a tick about spectating. -/
structure Following (given : Int32 → PlayerAccountData → Prop) (a : Int32) (s : Story F)
    (spectatedPlayer : Int32) (layer : PlayLayer F) : Prop where
  sound : layer.Sound given a s.texts (entered s.said)
  hears : Hears a s layer
  spectates : layer.wasSpectating = true ↔ spectatedPlayer ≠ 0
  player : spectatedPlayer ≠ 0 → layer.players.contains spectatedPlayer = true

variable [Singles F]

theorem spectate_keeps (hsound : layer.Sound given a s.texts (entered s.said))
    (hears : Hears a s layer) (hspectated : game.spectatedPlayer ≠ 0) (playerX : F)
    {player : PlayerNode F × PlayerNode F}
    (hplayer : layer.players.get game.spectatedPlayer = some player) :
    (game.spectate layer playerX player).Keeps (gameContract given a saved)
      (fun r s' => s' = s ∧ ∃ layer', r.1.layer = some layer' ∧
        Following given a s r.1.spectatedPlayer layer') s := by
  obtain ⟨hfirst, hsecond⟩ := hsound.roster.icons _ _ hplayer
  have hkey := hsound.roster.keys _ (FiniteMap.contains_iff.mpr ⟨_, hplayer⟩)
  -- what moves of the player, and when the spectator was reset, is not part of what is kept
  have hfollowing : ∀ (players : FiniteMap Int32 (PlayerNode F × PlayerNode F))
      (spectateLastReset : F), Roster given players layer.playerProgresses →
      players.contains game.spectatedPlayer = true → Following given a s game.spectatedPlayer
        { layer with isTestMode := true, wasSpectating := true, players, spectateLastReset } := by
    intro players spectateLastReset hroster hcontains
    refine ⟨⟨hroster, hsound.chat, hsound.level, rfl, hsound.selfProgress⟩, ?_, ?_, ?_⟩
    · exact ⟨hears.skips, hears.mute⟩
    · exact iff_of_true rfl hspectated
    · exact fun _ => hcontains
  unfold spectate
  dsimp only
  refine (onlyIf_keeps (Q := fun _ s' => s' = s) (fun _ => Proc.Keeps.perform trivial
    fun _ _ => rfl) fun _ => rfl).bind fun _ s₁ h₁ => ?_
  obtain rfl := h₁
  have hroster := hsound.roster.insert hkey
    ({ player.1 with player := { player.1.player with justDied := false } }, player.2) hfirst
    hsecond
  split
  · refine Proc.Keeps.act trivial fun _ _ => Proc.Keeps.pure ⟨rfl, _, rfl, ?_⟩
    refine hfollowing _ _ ?_ ?_
    · exact hroster.insert hkey _ hfirst hsecond
    · simp [FiniteMap.contains]
  · refine Proc.Keeps.pure ⟨rfl, _, rfl, hfollowing _ _ hroster ?_⟩
    simp [FiniteMap.contains]

theorem updateSpectate_keeps (hsound : layer.Sound given a s.texts (entered s.said))
    (hears : Hears a s layer) (playerX : F) :
    (game.updateSpectate layer playerX).Keeps (gameContract given a saved)
      (fun r s' => s' = s ∧ ∃ layer', r.1.layer = some layer' ∧
        Following given a s r.1.spectatedPlayer layer') s := by
  -- nobody is spectated afterwards
  have hstopped : Following given a s 0 (stopped layer) := by
    refine ⟨stopped_sound hsound, ⟨hears.skips, hears.mute⟩, ?_, fun hne => absurd rfl hne⟩
    exact iff_of_false Bool.false_ne_true fun hne => hne rfl
  unfold updateSpectate
  split
  · next hspectated =>
    cases hplayer : layer.players.get game.spectatedPlayer with
    | none =>
      refine Proc.Keeps.map ((leaveSpectate_keeps hsound).mono fun game' s' h => ?_)
      obtain ⟨rfl, rfl⟩ := h
      exact ⟨rfl, _, rfl, hstopped⟩
    | some player => exact spectate_keeps hsound hears hspectated playerX hplayer
  · next hnobody =>
    split
    · refine Proc.Keeps.map ((leaveSpectate_keeps hsound).mono fun game' s' h => ?_)
      obtain ⟨rfl, rfl⟩ := h
      exact ⟨rfl, _, rfl, hstopped⟩
    · next hwas =>
      refine Proc.Keeps.pure ⟨rfl, layer, rfl, hsound, hears, ?_, fun hne => absurd hne hnobody⟩
      exact iff_of_false hwas hnobody

theorem updateTick_keeps (hsound : layer.Sound given a s.texts (entered s.said))
    (hears : Hears a s layer) (hmute : s.mute = false) (dt : F) (order : IterOrder Int32)
    (playerX : F) :
    (game.updateTick layer dt order playerX).Keeps (gameContract given a saved)
      (fun game' s' => s'.Leaves given a (.updateTick dt order playerX) game') s := by
  unfold updateTick
  dsimp only
  split
  · next hready =>
    refine Proc.Keeps.pure ⟨fun layer' hlayer => ?_, fun h => ?_, fun order h => ?_, ?_⟩
    · obtain rfl := Option.some.inj hlayer
      exact ⟨hsound.roster, hsound.chat, hsound.level, hsound.testMode, hsound.selfProgress⟩
    · rw [hmute] at h
      cases h
    · cases h
    · intro _ _ _ _ layer' hlayer hready'
      obtain rfl := Option.some.inj hlayer
      rw [hready'] at hready
      cases hready
  · next hready =>
    have hdrawing : Drawing given a s { layer with ptTimestamp := layer.ptTimestamp + dt } s := by
      refine ⟨⟨rfl, ?_, by simpa using hready⟩, hears.skips, hears.mute⟩
      exact ⟨hsound.roster, hsound.chat, hsound.level, hsound.testMode, hsound.selfProgress⟩
    refine (Proc.Keeps.foldlM (J := fun _ => Drawing given a s)
      (fun playerId _ _ _ h => updatePlayer_keeps h dt playerId) hdrawing).bind
        fun layer₁ s₁ h₁ => ?_
    obtain ⟨⟨rfl, hsound₁, -⟩, hears₁⟩ := h₁
    refine (updateSpectate_keeps hsound₁ hears₁ playerX).bind fun r s₂ h₂ => ?_
    obtain ⟨rfl, layer₂, hlayer₂, hfollowing⟩ := h₂
    obtain ⟨game₂, goesOn⟩ := r
    dsimp only at hlayer₂ hfollowing ⊢
    rw [hlayer₂]
    dsimp only
    split
    · refine Proc.Keeps.map ((updateMessages_keeps hfollowing.sound hfollowing.hears hmute).mono
        fun layer₃ s₃ hshown => ?_)
      obtain ⟨hsaid, ⟨messageList, chatBox, rfl⟩, hsound₃, hmute₃⟩ := hshown
      refine ⟨fun layer' hlayer => ?_, fun h => ?_, fun order h => ?_, ?_⟩
      · obtain rfl := Option.some.inj hlayer
        rw [hsaid]
        exact hsound₃
      · rw [hmute₃] at h
        cases h
      · cases h
      · intro _ _ _ _ layer' hlayer _
        obtain rfl := Option.some.inj hlayer
        exact ⟨hfollowing.spectates, hfollowing.player⟩
    · refine Proc.Keeps.pure ⟨fun layer' hlayer => ?_, fun h => ?_, fun order h => ?_, ?_⟩
      · obtain rfl := Option.some.inj (hlayer₂.symm.trans hlayer)
        exact hfollowing.sound
      · rw [hmute] at h
        cases h
      · cases h
      · intro _ _ _ _ layer' hlayer _
        obtain rfl := Option.some.inj (hlayer₂.symm.trans hlayer)
        exact ⟨hfollowing.spectates, hfollowing.player⟩

/-! ### Levels -/

theorem init_keeps (env : Env) (level : Level) (isTestMode : Bool) (settings : GlobedGameSettings)
    (display : DisplaySettings) :
    (game.init env level isTestMode settings display).Keeps (gameContract given a saved)
      (fun game' s' => s'.Leaves given a (.init level isTestMode settings display) game') s := by
  unfold init
  refine Proc.Keeps.act trivial fun _ _ => Proc.Keeps.act rfl fun messages _ => ?_
  refine Proc.Keeps.act rfl fun established _ => ?_
  refine (onlyIf_keeps (Q := fun _ _ => True) (fun _ => ?_) fun _ => trivial).bind fun _ s₁ _ => ?_
  · exact Proc.Keeps.act rfl fun _ _ => Proc.Keeps.perform rfl fun _ _ => trivial
  dsimp only
  refine Proc.Keeps.act rfl fun _ _ => Proc.Keeps.act rfl fun established' _ => ?_
  generalize ((env.debug || !level.isEditor) && established') = readyForMP
  -- a level that is ready was announced
  refine (onlyIf_keeps (Q := fun _ s' => readyForMP = true → entered s'.said = true)
    (fun _ => Proc.Keeps.perform trivial fun _ _ _ => entered_concat _ _)
    (fun hnot hready => ?_)).bind fun _ s₂ hentered => ?_
  · rw [hready] at hnot
    cases hnot
  have hprogress : (createSelfProgress display : GameTask F _).Keeps (gameContract given a saved)
      (fun selfProgress s' => s' = s₂ ∧ ((display.showSelfProgress && display.displayProgress &&
        display.newProgress) = true → selfProgress.isSome = true)) s₂ := by
    unfold createSelfProgress
    split
    · exact Proc.Keeps.map (Proc.Keeps.perform rfl fun _ _ => ⟨rfl, fun _ => rfl⟩)
    · next hnot => exact Proc.Keeps.pure ⟨rfl, fun hshown => absurd hshown hnot⟩
  refine hprogress.bind fun selfProgress s₃ h₃ => Proc.Keeps.act rfl fun established'' _ => ?_
  obtain ⟨rfl, hself⟩ := h₃
  refine Proc.Keeps.pure ⟨fun layer hlayer => ?_, fun _ => rfl, fun _ h => ?_, fun _ _ _ h => ?_⟩
  · obtain rfl := Option.some.inj hlayer
    exact ⟨Roster.empty, ChatShows.opened _, fun hready _ => hentered hready, rfl, hself⟩
  · cases h
  · cases h

omit [Singles F] in
theorem onQuit_keeps (h : Settled given a game s) (hlayer : game.layer = some layer) :
    (game.onQuit layer).Keeps (gameContract given a saved) (Settled given a) s := by
  unfold onQuit
  have hstop : (game.stopSpectate layer).Keeps (gameContract given a saved) (fun game' s' =>
      s' = s ∧ ∃ layer', game'.layer = some layer' ∧
        layer'.Sound given a s.texts (entered s.said)) s := by
    unfold stopSpectate
    split
    · refine (leaveSpectate_keeps (h.layer layer hlayer)).mono fun game' s' h' => ?_
      obtain ⟨rfl, rfl⟩ := h'
      exact ⟨rfl, _, rfl, stopped_sound (h.layer layer hlayer)⟩
    · exact Proc.Keeps.pure ⟨rfl, layer, hlayer, h.layer layer hlayer⟩
  refine hstop.bind fun game₁ s₁ h₁ => Proc.Keeps.act trivial fun _ _ => ?_
  obtain ⟨rfl, layer₁, hlayer₁, hsound₁⟩ := h₁
  refine (onlyIf_keeps (Q := fun _ s' => s'.texts = s₁.texts ∧ s'.mute = s₁.mute)
    (fun _ => Proc.Keeps.perform trivial fun _ _ => ⟨rfl, rfl⟩) fun _ => ⟨rfl, rfl⟩).bind
      fun _ s₂ h₂ => Proc.Keeps.pure ⟨h₂.2.trans h.mute, fun layer₂ hlayer₂ => ?_⟩
  rw [hlayer₁] at hlayer₂
  obtain rfl := Option.some.inj hlayer₂
  rw [h₂.1]
  refine ⟨hsound₁.roster, hsound₁.chat, fun _ hexited => ?_, hsound₁.testMode,
    hsound₁.selfProgress⟩
  cases hexited

theorem sendPlayerData_keeps (h : Settled given a game s) (hs : s.game = game)
    (hlayer : game.layer = some layer) (data : PlayerData) :
    (game.sendPlayerData layer data).Keeps (gameContract given a saved) (Settled given a) s := by
  have hsound := h.layer layer hlayer
  unfold sendPlayerData
  split
  · exact Proc.Keeps.pure h
  · next hready =>
    have hentered : entered s.said = true := by
      rw [Bool.or_eq_true, not_or] at hready
      exact hsound.level (by simpa using hready.1) (by simpa using hready.2)
    split
    · next hspectates =>
      refine Proc.Keeps.act ⟨hentered, ?_⟩ fun _ _ => Proc.Keeps.pure (h.say rfl)
      rw [hs]
      exact hspectates
    · next hplays =>
      refine Proc.Keeps.act ⟨hentered, ?_⟩ fun _ _ => Proc.Keeps.pure (h.say rfl)
      rw [hs]
      exact not_not.mp hplays

omit [Singles F] in
theorem openPlayerList_keeps (h : Settled given a game s) (layer : PlayLayer F) :
    (game.openPlayerList layer).Keeps (gameContract given a saved) (Settled given a) s := by
  unfold openPlayerList
  refine Proc.Keeps.act rfl fun _ _ => ?_
  split
  · exact Proc.Keeps.pure h
  · refine Proc.Keeps.act rfl fun _ _ => Proc.Keeps.act rfl fun _ _ => ?_
    exact Proc.Keeps.pure ⟨h.mute, h.layer⟩

omit [Singles F] in
theorem onSpectate_keeps (h : Settled given a game s) (index : Nat) (seenPopup : Bool) :
    (game.onSpectate index seenPopup).Keeps (gameContract given a saved)
      (Settled given a) s := by
  unfold onSpectate
  cases game.cells[index]? with
  | none => exact Proc.Keeps.pure h
  | some cell =>
    dsimp only
    split
    · exact Proc.Keeps.pure h
    · refine (onlyIf_keeps (Q := fun _ s' => s' = s) (fun _ => Proc.Keeps.perform trivial
        fun _ _ => rfl) fun _ => rfl).bind fun _ s₁ h₁ => ?_
      obtain rfl := h₁
      exact Proc.Keeps.pure ⟨h.mute, h.layer⟩

end Game

open Game (Settled onLayer_keeps onlyIf_keeps drive_keeps)

/-- Without a layer, there is nothing to leave. -/
theorem Game.Settled.leaves_none {callback : Callback F} (h : Settled given a game s)
    (hnone : game.layer = none) : s.Leaves given a callback game := by
  have hlayer : ∀ layer, game.layer ≠ some layer := by simp [hnone]
  refine ⟨fun layer h' => absurd h' (hlayer layer), fun hmute => ?_,
    fun _ _ layer h' => absurd h' (hlayer layer), fun _ _ _ _ layer h' => absurd h' (hlayer layer)⟩
  rw [h.mute] at hmute
  cases hmute

theorem click_settled (h : Settled given a game s) (hlayer : game.layer = some layer)
    (click : Click) : Settled given a (game.click layer click) s := by
  have hsound := h.layer layer hlayer
  refine ⟨h.mute, fun layer' hlayer' => ?_⟩
  obtain rfl := Option.some.inj hlayer'
  exact ⟨hsound.roster, hsound.chat, hsound.level, hsound.testMode, hsound.selfProgress⟩

variable [Singles F]

theorem updateStuff_leaves (h : Settled given a game s) (hlayer : game.layer = some layer)
    (order : IterOrder Int32) :
    (game.withLayer <$> layer.updateStuff order).Keeps (gameContract given a saved)
      (fun game' s' => s'.Leaves given a (.updateStuff order) game') s := by
  refine Proc.Keeps.map ((PlayLayer.updateStuff_keeps (h.layer layer hlayer) order).mono
    fun layer' s' h' => ?_)
  obtain ⟨hsound, hmute, hknown⟩ := h'
  refine ⟨fun layer'' hlayer' => ?_, fun hmute' => ?_, fun _ _ layer'' hlayer' hready => ?_,
    fun _ _ _ heq => ?_⟩
  · obtain rfl := Option.some.inj hlayer'
    exact hsound
  · rw [hmute, h.mute] at hmute'
    cases hmute'
  · obtain rfl := Option.some.inj hlayer'
    exact hknown hready
  · cases heq

/-- **Callbacks**: every method keeps the contract, and leaves what it owes. -/
theorem Callback.run_keeps (env : Env) (h : Settled given a game s) (hs : s.game = game)
    (callback : Callback F) :
    (callback.run env game).Keeps (gameContract given a saved)
      (fun game' s' => s'.Leaves given a callback game') s := by
  have hplain : ∀ {t : GameTask F (Game F)}, callback.isPlain = true →
      t.Keeps (gameContract given a saved) (Settled given a) s →
      t.Keeps (gameContract given a saved) (fun game' s' => s'.Leaves given a callback game') s :=
    fun hplain ht => ht.mono fun game' s' h' => h'.leaves hplain
  have hsome : ∀ {layer : PlayLayer F}, game.layer = some layer → s.game.layer = some layer := by
    intro layer hlayer
    rw [hs, hlayer]
  cases callback with
  | init level isTestMode settings display =>
    exact Game.init_keeps env level isTestMode settings display
  | updateTick dt order playerX =>
    refine onLayer_keeps h.leaves_none fun layer hlayer => ?_
    refine Game.updateTick_keeps (h.layer layer hlayer) ⟨fun message => ?_, ?_⟩ h.mute dt order
      playerX
    · rw [Game.skips, hsome hlayer]
    · rw [Game.isMute, hsome hlayer]
  | updateStuff order =>
    exact onLayer_keeps h.leaves_none fun layer hlayer => updateStuff_leaves h hlayer order
  | sendPlayerData data =>
    refine hplain rfl (onLayer_keeps (fun _ => h) fun layer hlayer => ?_)
    exact Game.sendPlayerData_keeps h hs hlayer data
  | onQuit =>
    exact hplain rfl (onLayer_keeps (fun _ => h) fun layer hlayer => Game.onQuit_keeps h hlayer)
  | onToggleChat =>
    refine hplain rfl (onLayer_keeps (fun _ => h) fun layer hlayer => ?_)
    have hsound := h.layer layer hlayer
    split
    · exact Proc.Keeps.pure h
    · refine Proc.Keeps.pure (h.withLayer ?_)
      exact ⟨hsound.roster, hsound.chat, hsound.level, hsound.testMode, hsound.selfProgress⟩
  | onSendMessage string =>
    refine hplain rfl (onLayer_keeps (fun _ => h) fun layer hlayer => ?_)
    refine (onlyIf_keeps (Q := fun _ => Settled given a game) (fun hsend => ?_) fun _ => h).bind
      fun _ _ h' => Proc.Keeps.pure h'
    rw [Bool.and_eq_true] at hsend
    refine Proc.Keeps.perform ⟨?_, layer, hsome hlayer, hsend.1⟩ fun _ _ => h.say rfl
    simpa using hsend.2
  | getUserListFinished friends =>
    refine hplain rfl (onLayer_keeps (fun _ => h) fun layer hlayer => ?_)
    have hsound := h.layer layer hlayer
    refine Proc.Keeps.pure (h.withLayer ?_)
    exact ⟨hsound.roster, hsound.chat, hsound.level, hsound.testMode, hsound.selfProgress⟩
  | chatBlockUser playerId orders =>
    refine hplain rfl (onLayer_keeps (fun _ => h) fun layer hlayer => ?_)
    exact Proc.Keeps.pure (click_settled h hlayer _)
  | chatUnblockUser playerId orders =>
    refine hplain rfl (onLayer_keeps (fun _ => h) fun layer hlayer => ?_)
    exact Proc.Keeps.pure (click_settled h hlayer _)
  | openPlayerList =>
    refine hplain rfl (onLayer_keeps (fun _ => h) fun layer _ => ?_)
    exact Game.openPlayerList_keeps h layer
  | onSpectate index seenPopup => exact hplain rfl (Game.onSpectate_keeps h index seenPopup)
  | levelComplete =>
    refine hplain rfl (onLayer_keeps (fun _ => h) fun layer hlayer => ?_)
    have hsound := h.layer layer hlayer
    have htest : (layer.wasSpectating || layer.isTestMode) =
        (layer.wasSpectating || layer.hasStartPositions) := by
      rw [hsound.testMode, ← Bool.or_assoc, Bool.or_self]
    refine Proc.Keeps.act ⟨layer, hsome hlayer, htest⟩ fun _ _ => ?_
    refine Proc.Keeps.pure (h.withLayer ?_)
    exact ⟨hsound.roster, hsound.chat, hsound.level, htest, hsound.selfProgress⟩
  | destroyPlayer =>
    refine hplain rfl (onLayer_keeps (fun _ => h) fun layer hlayer => ?_)
    exact drive_keeps h fun hplays => ⟨layer, hsome hlayer, by simpa using hplays⟩
  | vfDChk =>
    refine hplain rfl (onLayer_keeps (fun _ => h) fun layer hlayer => ?_)
    exact drive_keeps h fun hplays => ⟨layer, hsome hlayer, by simpa using hplays⟩
  | input button =>
    refine hplain rfl (drive_keeps h fun hplays => ?_)
    change s.game.spectatedPlayer = 0
    rw [hs]
    simpa using hplays
  | push message =>
    refine hplain rfl (Proc.Keeps.act ?_ fun _ _ => Proc.Keeps.pure (h.say ?_))
    · cases message <;> trivial
    · cases message <;> rfl
  | connectToServer id =>
    refine hplain rfl (Proc.Keeps.act rfl fun answer _ => ?_)
    cases answer with
    | error e => exact rfl
    | ok found => exact Proc.Keeps.pure h
  | disconnect quiet save =>
    refine hplain rfl (Proc.Keeps.act rfl fun answer hanswer => ?_)
    obtain rfl : answer = .ok ⟨⟩ := hanswer
    exact Proc.Keeps.pure h
  | updateAccountData accountData =>
    exact hplain rfl (Proc.Keeps.act rfl fun _ _ => Proc.Keeps.pure h)

/-- **The main thread** keeps its contract, whatever it is asked to do. -/
theorem gameThread_keeps (env : Env) (callbacks : List (Callback F)) (h : Settled given a game s)
    (hs : s.game = game) :
    (gameThread env game callbacks).Keeps (gameContract given a saved) (fun _ _ => True) s := by
  induction callbacks generalizing game s with
  | nil => exact Proc.Keeps.pure trivial
  | cons callback callbacks ih =>
    refine (callback.run_keeps env h hs).bind fun game' s' hleaves => ?_
    refine Proc.Keeps.act hleaves fun _ _ => ih ⟨rfl, hleaves.layer⟩ rfl

end Methods

end Globed.Client
