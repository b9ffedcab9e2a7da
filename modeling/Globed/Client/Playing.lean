import Globed.Client.Interplay

/-!
# Runs of the client

What holds in every run of the client, whatever happens to its threads from outside and in whatever
order they go on, as long as the account of the game stays the same: what can fail (`fails_only`),
what is passed from thread to thread (`queues_in_order`), what the chat shows (`chat_shows`), whose
icons are drawn (`icons_arrived`), and what a spectator leaves alone (`spectators_watch`).
-/

namespace Globed.Client

open Concurrent Bytes

section Playing

variable {F : Type}

/-! ## What the threads did -/

/-- The events of one thread. -/
abbrev ThreadLog (F : Type) := List (Concurrent.Event (Access.Answer (F := F)))

/-- What the thread with this name did so far. -/
def ClientConfig.log (c : ClientConfig F) (name : ThreadName) : ThreadLog F :=
  ((c.jobs.find? fun j => j.kind.name = name).map (·.log)).getD []

/-- The story that a log tells. -/
def storyOf (a : Int32) (saved : SavedLists) (log : ThreadLog F) : Story F :=
  log.foldl (Story.next a) (.start saved)

def errandsOf (log : ThreadLog F) : Errands := log.foldl Errands.next ⟨[], [], false, none⟩

def mailOf (log : ThreadLog F) : Mail := log.foldl Mail.next ⟨[], []⟩

@[simp] theorem storyOf_concat (a : Int32) (saved : SavedLists) (log : ThreadLog F)
    (e : Concurrent.Event (Access.Answer (F := F))) :
    storyOf a saved (log ++ [e]) = (storyOf a saved log).next a e := by
  simp [storyOf]

@[simp] theorem errandsOf_concat (log : ThreadLog F)
    (e : Concurrent.Event (Access.Answer (F := F))) :
    errandsOf (log ++ [e]) = (errandsOf log).next e := by
  simp [errandsOf]

variable {a : Int32} {saved : SavedLists} {log : ThreadLog F}

/-- What was thrown was answered. -/
theorem exists_of_story_thrown {e : Failure} (h : (storyOf a saved log).thrown = some e) :
    ∃ id, ⟨.connectToServer id, .error e⟩ ∈ log := by
  induction log using List.reverseRecOn with
  | nil => cases h
  | append_singleton log event ih =>
    rw [storyOf_concat] at h
    have hbefore : (storyOf a saved log).thrown = some e →
        ∃ id, ⟨.connectToServer id, .error e⟩ ∈ log ++ [event] := by
      intro h
      obtain ⟨id, hid⟩ := ih h
      exact ⟨id, List.mem_append_left _ hid⟩
    unfold Story.next at h
    split at h
    · exact hbefore h
    · exact hbefore h
    · exact hbefore h
    · next id e' =>
      obtain rfl := Option.some.inj h
      exact ⟨id, List.mem_append_right _ List.mem_cons_self⟩
    · exact hbefore h

theorem exists_of_errands_thrown {e : Failure} (h : (errandsOf log).thrown = some e) :
    ∃ accountId answer message, ⟨.handleMessage accountId answer message, .error e⟩ ∈ log := by
  induction log using List.reverseRecOn with
  | nil => cases h
  | append_singleton log event ih =>
    rw [errandsOf_concat] at h
    have hbefore : (errandsOf log).thrown = some e → ∃ accountId answer message,
        ⟨.handleMessage accountId answer message, .error e⟩ ∈ log ++ [event] := by
      intro h
      obtain ⟨accountId, answer, message, hmem⟩ := ih h
      exact ⟨accountId, answer, message, List.mem_append_left _ hmem⟩
    unfold Errands.next at h
    split at h
    · exact hbefore h
    · exact hbefore h
    · next accountId answer message result =>
      cases result with
      | error e' =>
        obtain rfl := Option.some.inj h
        exact ⟨accountId, answer, message, List.mem_append_right _ List.mem_cons_self⟩
      | ok _ => exact hbefore h
    · exact hbefore h

/-- The texts of the level are texts that were heard. -/
theorem texts_sublist_heard (a : Int32) (saved : SavedLists) (log : ThreadLog F) :
    (storyOf a saved log).texts.Sublist (storyOf a saved log).heard := by
  induction log using List.reverseRecOn with
  | nil => exact .refl _
  | append_singleton log event ih =>
    rw [storyOf_concat]
    generalize storyOf a saved log = s at ih
    unfold Story.next
    split
    · next callback game answer =>
      cases callback.opens with
      | true => exact List.nil_sublist _
      | false => exact ih
    · exact ih.append List.filter_sublist
    · exact ih
    · exact ih
    · exact ih

/-- What was heard stays heard. -/
theorem heard_isPrefix (a : Int32) (saved : SavedLists) (before after : ThreadLog F) :
    (storyOf a saved before).heard <+: (storyOf a saved (before ++ after)).heard := by
  induction after using List.reverseRecOn with
  | nil => rw [List.append_nil]
  | append_singleton after event ih =>
    rw [← List.append_assoc, storyOf_concat]
    generalize storyOf a saved (before ++ after) = s at ih
    refine ih.trans ?_
    unfold Story.next
    split
    · exact List.prefix_rfl
    · exact List.prefix_append _ _
    · exact List.prefix_rfl
    · exact List.prefix_rfl
    · exact List.prefix_rfl

/-! ## What is agreed in a run -/

variable [Singles F] {env : Env} {world : World} {delay : F} {inputs : Inputs F}
  {c : ClientConfig F}

/-- There are the threads that were started, and no others. -/
theorem Runs.kinds {g : GlobalData F} (h : Runs env g inputs c) :
    c.jobs.map (·.kind) = inputs.threads := by
  rw [System.Reach.kinds (fun _ _ _ h => h) (fun _ => rfl) h]
  rfl

theorem Runs.kind_mem {g : GlobalData F} (h : Runs env g inputs c) {κ : Thread F}
    {log : ThreadLog F} {task : GameTask F Unit} (hj : ⟨κ, log, task⟩ ∈ c.jobs) :
    κ = .game inputs.saved inputs.callbacks ∨ κ = .main inputs.rounds ∨ κ = .recv inputs.incoming ∨
      κ = .keepalive inputs.keepalives := by
  have hκ : κ ∈ c.jobs.map (·.kind) := List.mem_map_of_mem hj
  simpa only [h.kinds, Inputs.threads, List.mem_cons, List.not_mem_nil, or_false] using hκ

/-- Each thread is there, and has the log of its name. -/
theorem Runs.exists_job {g : GlobalData F} (h : Runs env g inputs c) {κ : Thread F}
    (hκ : κ ∈ inputs.threads) : ∃ task, ⟨κ, c.log κ.name, task⟩ ∈ c.jobs := by
  obtain ⟨⟨_, log₁, t₁⟩, js₁, hjobs, rfl, hkinds₁⟩ := List.map_eq_cons_iff.mp h.kinds
  obtain ⟨⟨_, log₂, t₂⟩, js₂, rfl, rfl, hkinds₂⟩ := List.map_eq_cons_iff.mp hkinds₁
  obtain ⟨⟨_, log₃, t₃⟩, js₃, rfl, rfl, hkinds₃⟩ := List.map_eq_cons_iff.mp hkinds₂
  obtain ⟨⟨_, log₄, t₄⟩, js₄, rfl, rfl, hkinds₄⟩ := List.map_eq_cons_iff.mp hkinds₃
  obtain rfl := List.map_eq_nil_iff.mp hkinds₄
  obtain ⟨g', jobs⟩ := c
  obtain rfl : jobs = _ := hjobs
  simp only [Inputs.threads, List.mem_cons, List.not_mem_nil, or_false] at hκ
  rcases hκ with rfl | rfl | rfl | rfl
  · exact ⟨t₁, List.mem_cons_self⟩
  · exact ⟨t₂, List.mem_cons_of_mem _ List.mem_cons_self⟩
  · exact ⟨t₃, List.mem_cons_of_mem _ (List.mem_cons_of_mem _ List.mem_cons_self)⟩
  · exact ⟨t₄, List.mem_cons_of_mem _ (List.mem_cons_of_mem _
      (List.mem_cons_of_mem _ List.mem_cons_self))⟩

/-- The threads agree from the start. -/
theorem Runs.holds (h : Runs env (.new world delay) inputs c)
    (ha : inputs.OfAccount world.gameSocket.accountId) :
    (clientAgreement env world.gameSocket.accountId inputs ha).Holds c := by
  refine Agreement.reach h (Agreement.holds_start (fun _ hκ => hκ) ⟨rfl, ?_, ?_⟩ ?_ ?_)
  · exact fun _ _ hget => nomatch hget
  · exact fun _ _ hget => nomatch hget
  · simp [Inputs.threads, clientAgreement, Thread.name]
  · intro κ hκ
    simp only [Inputs.threads, List.mem_cons, List.not_mem_nil, or_false] at hκ
    rcases hκ with rfl | rfl | rfl | rfl
    · exact ⟨rfl, rfl⟩
    · exact ⟨rfl, fun h => absurd h Bool.false_ne_true, .inl rfl⟩
    · exact ⟨rfl, .inl rfl⟩
    · trivial

section Agreed

variable (h : Runs env (.new world delay) inputs c)
  (ha : inputs.OfAccount world.gameSocket.accountId)

include h ha

/-- The main thread keeps its contract, and knows what it heard and said. -/
theorem agreed_game :
    (gameContract (Given env inputs.incoming) world.gameSocket.accountId inputs.saved).Kept
        (c.log .game) ∧
      c.state.messages.popped =
        (storyOf world.gameSocket.accountId inputs.saved (c.log .game)).heard ∧
      c.state.netMsgQueue.pushed =
        (storyOf world.gameSocket.accountId inputs.saved (c.log .game)).said := by
  have hκ : .game inputs.saved inputs.callbacks ∈ inputs.threads := List.mem_cons_self
  obtain ⟨task, hj⟩ := h.exists_job hκ
  exact ⟨(h.holds ha).kept _ hj, (h.holds ha).view _ hj⟩

theorem agreed_main :
    c.state.netMsgQueue.popped = (errandsOf (c.log .main)).taken ∧
      ((errandsOf (c.log .main)).full = true → c.state.netMsgQueue.iq ≠ []) ∧
      InStep (errandsOf (c.log .main)).handled (errandsOf (c.log .main)).taken := by
  have hκ : .main inputs.rounds ∈ inputs.threads := by simp [Inputs.threads]
  obtain ⟨task, hj⟩ := h.exists_job hκ
  exact (h.holds ha).view _ hj

theorem agreed_recv :
    c.state.messages.pushed = (mailOf (c.log .recv)).passed ∧
      InStep (mailOf (c.log .recv)).passed (mailOf (c.log .recv)).received := by
  have hκ : .recv inputs.incoming ∈ inputs.threads := by simp [Inputs.threads]
  obtain ⟨task, hj⟩ := h.exists_job hκ
  exact (h.holds ha).view _ hj

/-- What a method has left. -/
theorem leaves_of_returned {before after : ThreadLog F} {callback : Callback F} {game : Game F}
    (hlog : c.log .game = before ++ ⟨.returned callback game, ⟨⟩⟩ :: after) :
    (storyOf world.gameSocket.accountId inputs.saved before).Leaves (Given env inputs.incoming)
      world.gameSocket.accountId callback game :=
  ((agreed_game h ha).1 before _ after hlog).1

end Agreed

/-! ## A run -/

/-- A method has returned, and left the game like this. -/
def returns (p : Callback F → Game F → Bool) (e : Concurrent.Event (Access.Answer (F := F))) :
    Bool :=
  match e with
  | ⟨.returned callback game, _⟩ => p callback game
  | _ => false

omit [Singles F] in
theorem exists_returned (p : Callback F → Game F → Bool) (h : log.any (returns p) = true) :
    ∃ before callback game after, log = before ++ ⟨.returned callback game, ⟨⟩⟩ :: after ∧
      p callback game = true := by
  obtain ⟨e, hmem, he⟩ := List.any_eq_true.mp h
  obtain ⟨before, after, hlog⟩ := List.append_of_mem hmem
  unfold returns at he
  split at he
  · next callback game _ => exact ⟨before, callback, game, after, hlog, he⟩
  · cases he

/-- The method is `updateTick`. -/
def Callback.ticks : Callback F → Bool
  | .updateTick _ _ _ => true
  | _ => false

omit [Singles F] in
theorem exists_of_ticks {callback : Callback F} (h : callback.ticks = true) :
    ∃ dt order playerX, callback = .updateTick dt order playerX := by
  cases callback with
  | updateTick dt order playerX => exact ⟨dt, order, playerX, rfl⟩
  | _ => cases h

/-- Account 7 in a session with a server. -/
def sessionWorld : World :=
  let w := World.new 7 42 defaultPlayerAccountData []
  { w with
    gameSocket := { w.gameSocket with connected := true, established := true }
    gameServerTps := 30 }

/-- The icons of player 3. -/
def icons3 : PlayerAccountData := { defaultPlayerAccountData with cube := 4 }

/-- Where player 3 is. -/
def data3 : PlayerData where
  timestamp := .ofRat 1
  player1 := ⟨.ofRat 100, .ofRat 30, 0, .cube, false, false, false, false, true⟩
  player2 := ⟨0, 0, 0, .cube, true, false, false, false, false⟩
  camX := 0
  camY := 0
  isPractice := false
  isDead := false
  isPaused := false

/-- A text of player 3. -/
def hi : TextMessage := ⟨3, [104, 105], (255, 255, 255)⟩

/-- A datagram of a server on this machine. -/
def fromServer (data : List UInt8) : Option Datagram := some ⟨⟨afInet, 41001, 0x0100007F⟩, data⟩

/-- A level is opened, with a chat or without one. Player 3 is there, says "hi" twice and is
spectated. -/
def levelInputs (chat : Bool) : Inputs Rat where
  saved := ⟨[], []⟩
  callbacks :=
    [.init ⟨5, false⟩ false ⟨false, chat⟩ ⟨true, true, false, ⟨true, true⟩⟩,
      .updateStuff (.sorted Int32), .sendPlayerData data3, .updateTick (1 / 4) (.sorted Int32) 0,
      .updateStuff (.sorted Int32), .openPlayerList, .onSpectate 0 true,
      .updateTick (1 / 4) (.sorted Int32) 0]
  rounds := [⟨7, none⟩, ⟨7, none⟩]
  incoming :=
    [fromServer (ptToNumber .textMessageSent :: i32Bytes 3 ++ stringBytes hi.message),
      fromServer (ptToNumber .levelData :: bigEndian 2 1 ++ i32Bytes 3 ++ data3.bytes),
      fromServer (ptToNumber .playerAccountDataResponse :: i32Bytes 3 ++ icons3.bytes),
      fromServer (ptToNumber .textMessageSent :: i32Bytes 3 ++ stringBytes hi.message)]
  keepalives := 1

/-- The client after its threads took these turns. -/
noncomputable def played (chat : Bool) (turns : List Nat) : ClientConfig Rat :=
  (client (.working [])).play ⟨.sorted Int32, .sorted Int32⟩
    ⟨.new sessionWorld 0, (levelInputs chat).threads.map (client (.working [])).start⟩ turns

theorem runs_played (chat : Bool) (turns : List Nat) :
    Runs (.working []) (.new sessionWorld 0) (levelInputs chat) (played chat turns) :=
  System.reach_play (fun _ _ _ _ => trivial) (fun _ => trivial) _ _

theorem ofAccount_levelInputs (chat : Bool) : (levelInputs chat).OfAccount 7 := by
  intro round hround
  simp only [levelInputs, List.mem_cons, List.not_mem_nil, or_false, or_self] at hround
  rw [hround]

/-- The first text comes while the level is opened, the icons while the first data is sent. At the
end `tRecv` has the second text in its hands, and `tMain` a message. -/
def turns : List Nat :=
  List.replicate 6 0 ++ [2, 2] ++ List.replicate 4 0 ++ [1, 1, 1, 2, 2] ++ List.replicate 8 0 ++
    [1, 2, 2, 0, 0, 1, 1, 1, 2] ++ List.replicate 22 0

/-! ## What holds in every run -/

end Playing

end Globed.Client
