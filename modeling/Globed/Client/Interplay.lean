import Globed.Client.Methods
import Globed.Client.Upkeep

/-!
# The threads together

Every access is of one thread. `tMain` takes what the main thread has for it, one message after the
other, and `tRecv` hands over what it received; each has a contract of its own beside that of the
main thread. `clientAgreement` puts them together: what is in the globals is what the threads put
there, whatever the order in which they go on.
-/

namespace Globed.Client

open Calls Concurrent

section Interplay

variable {F : Type}

/-! ## The network thread -/

/-- What `tMain` did so far. -/
structure Errands where
  taken : List NetworkThreadMessage
  handled : List NetworkThreadMessage
  /-- The queue was not empty when it was looked at last. -/
  full : Bool
  thrown : Option Failure

namespace Errands

def next (t : Errands) (e : Concurrent.Event (Access.Answer (F := F))) : Errands :=
  match e with
  | ⟨.netMsgQueueEmpty, empty⟩ => { t with full := !empty }
  | ⟨.popNetMsg, message⟩ => { t with taken := t.taken ++ message.toList, full := false }
  | ⟨.handleMessage _ _ message, answer⟩ =>
    { t with
      handled := t.handled ++ [message]
      thrown := match answer with
        | .error e => some e
        | .ok _ => t.thrown }
  | _ => t

/-- A queue that is not empty has a first message. -/
def Told (t : Errands) : (x : Access F) → x.Answer → Prop
  | .popNetMsg, message => t.full = true → message.isSome = true
  | _, _ => True

/-- Nothing is taken before all that was taken is handled. -/
def Does (rounds : List Round) (t : Errands) : Access F → Prop
  | .waitForMessages | .netMsgQueueEmpty => t.taken = t.handled
  | .popNetMsg => t.taken = t.handled ∧ t.full = true
  | .handleMessage accountId answer message =>
    t.taken = t.handled ++ [message] ∧ ⟨accountId, answer⟩ ∈ rounds
  | _ => False

end Errands

def mainContract (rounds : List Round) :
    Contract (Access.Answer (F := F)) Failure Errands where
  start := ⟨[], [], false, none⟩
  next := Errands.next
  told := Errands.Told
  does := Errands.Does rounds
  throws t e := t.thrown = some e
  panics _ := False

theorem tMain_keeps {rounds rest : List Round} (hrest : ∀ round ∈ rest, round ∈ rounds)
    {t : Errands} (ht : t.taken = t.handled) :
    (tMain rest : GameTask F Unit).Keeps (mainContract rounds) (fun _ _ => True) t := by
  induction rest generalizing t with
  | nil => exact Proc.Keeps.pure trivial
  | cons round rest ih =>
    have hrest' : ∀ round ∈ rest, round ∈ rounds :=
      fun round' h => hrest round' (List.mem_cons_of_mem _ h)
    refine Proc.Keeps.act ht fun _ _ => Proc.Keeps.act ht fun empty _ => ?_
    cases empty with
    | true => exact ih hrest' ht
    | false =>
      refine Proc.Keeps.act ⟨ht, rfl⟩ fun popped hpopped => ?_
      cases popped with
      | none => exact absurd (hpopped rfl) Bool.false_ne_true
      | some message =>
        refine Proc.Keeps.act ⟨?_, hrest round List.mem_cons_self⟩ fun answer _ => ?_
        · exact congrArg (· ++ [message]) ht
        · cases answer with
          | error e => exact rfl
          | ok _ => exact ih hrest' (congrArg (· ++ [message]) ht)

/-! ## The receiving thread -/

/-- The text of a packet, as it goes to the main thread. -/
def RecvPacket.text : RecvPacket → Option TextMessage
  | .textMessage sender message => some ⟨sender, message, (255, 255, 255)⟩
  | .serverMessage message color => some ⟨-1, message, color⟩
  | _ => none

/-- One of the datagrams was read as this packet. -/
def Arrived (env : Env) (incoming : List (Option Datagram)) (packet : RecvPacket) : Prop :=
  ∃ datagram ∈ incoming, ∃ w, (GameSocket.recvPacket env datagram w).1 = .ok packet

/-- What `tRecv` did so far: the texts that it received, and those that it passed on. -/
structure Mail where
  received : List TextMessage
  passed : List TextMessage

namespace Mail

def next (t : Mail) (e : Concurrent.Event (Access.Answer (F := F))) : Mail :=
  match e with
  | ⟨.receive _, .ok packet⟩ => { t with received := t.received ++ packet.text.toList }
  | ⟨.pushMessage message, _⟩ => { t with passed := t.passed ++ [message] }
  | _ => t

/-- Packets are read from the datagram. -/
def Told (env : Env) : (x : Access F) → x.Answer → Prop
  | .receive incoming, answer => ∃ w, answer = (GameSocket.recvPacket env incoming w).1
  | _, _ => True

/-- Nothing is received before all texts are passed on, and nothing is passed on that did not
arrive. -/
def Does (env : Env) (incoming : List (Option Datagram)) (t : Mail) : Access F → Prop
  | .receive datagram => datagram ∈ incoming ∧ t.received = t.passed
  | .feedRealData players => Arrived env incoming (.levelData players)
  | .cacheAccData playerId data => Arrived env incoming (.accountDataResponse playerId data)
  | .pushMessage message => t.received = t.passed ++ [message]
  | .handlePacket packet => Arrived env incoming packet
  | _ => False

end Mail

def recvContract (env : Env) (incoming : List (Option Datagram)) :
    Contract (Access.Answer (F := F)) Failure Mail where
  start := ⟨[], []⟩
  next := Mail.next
  told _ := Mail.Told env
  does := Mail.Does env incoming
  throws _ _ := False
  panics _ := False

section Receiving

variable {env : Env} {incoming rest : List (Option Datagram)} {t : Mail}

theorem handOver_keeps {packet : RecvPacket} (harrived : Arrived env incoming packet)
    (ht : t.received = t.passed ++ packet.text.toList) :
    (handOver packet : GameTask F Unit).Keeps (recvContract env incoming)
      (fun _ t' => t'.received = t'.passed) t := by
  have hsame : packet.text = none → t.received = t.passed := by
    intro hnone
    rw [ht, hnone]
    exact List.append_nil _
  cases packet with
  | levelData players => exact Proc.Keeps.perform harrived fun _ _ => hsame rfl
  | accountDataResponse playerId data => exact Proc.Keeps.perform harrived fun _ _ => hsame rfl
  | textMessage sender message => exact Proc.Keeps.perform ht fun _ _ => ht
  | serverMessage message color => exact Proc.Keeps.perform ht fun _ _ => ht
  | checkedIn tps => exact Proc.Keeps.act harrived fun _ _ => Proc.Keeps.pure (hsame rfl)
  | keepaliveResponse playerCount ping =>
    exact Proc.Keeps.act harrived fun _ _ => Proc.Keeps.pure (hsame rfl)
  | serverDisconnect message =>
    exact Proc.Keeps.act harrived fun _ _ => Proc.Keeps.pure (hsame rfl)
  | levelListResponse levels =>
    exact Proc.Keeps.act harrived fun _ _ => Proc.Keeps.pure (hsame rfl)
  | pingResponse serverId playerCount ping =>
    exact Proc.Keeps.act harrived fun _ _ => Proc.Keeps.pure (hsame rfl)

theorem recvOnce_keeps {datagram : Option Datagram} (hdatagram : datagram ∈ incoming)
    (ht : t.received = t.passed) :
    (recvOnce datagram : GameTask F Unit).Keeps (recvContract env incoming)
      (fun _ t' => t'.received = t'.passed) t := by
  refine Proc.Keeps.act ⟨hdatagram, ht⟩ fun answer hanswer => ?_
  cases answer with
  | error e => exact Proc.Keeps.pure ht
  | ok packet =>
    obtain ⟨w, hw⟩ := hanswer
    exact handOver_keeps ⟨datagram, hdatagram, w, hw.symm⟩ (congrArg (· ++ packet.text.toList) ht)

theorem tRecv_keeps (hrest : ∀ datagram ∈ rest, datagram ∈ incoming)
    (ht : t.received = t.passed) :
    (tRecv rest : GameTask F Unit).Keeps (recvContract env incoming) (fun _ _ => True) t := by
  induction rest generalizing t with
  | nil => exact Proc.Keeps.pure trivial
  | cons datagram rest ih =>
    have hrest' : ∀ datagram ∈ rest, datagram ∈ incoming :=
      fun datagram' h => hrest datagram' (List.mem_cons_of_mem _ h)
    exact (recvOnce_keeps (hrest datagram List.mem_cons_self) ht).bind fun _ _ ht' => ih hrest' ht'

end Receiving

/-! ## The keepalive thread -/

/-- A round does not throw. -/
def KeptAlive : (x : Access F) → x.Answer → Prop
  | .keepaliveRound, answer => answer = .ok ⟨⟩
  | _, _ => True

def aliveContract : Contract (Access.Answer (F := F)) Failure Unit where
  start := ⟨⟩
  next _ _ := ⟨⟩
  told _ := KeptAlive
  does _ x := x.thread = .keepalive
  throws _ _ := False
  panics _ := False

theorem tKeepalive_keeps (rounds : Nat) (t : Unit) :
    (tKeepalive rounds : GameTask F Unit).Keeps aliveContract (fun _ _ => True) t := by
  induction rounds generalizing t with
  | zero => exact Proc.Keeps.pure trivial
  | succ rounds ih =>
    refine Proc.Keeps.act rfl fun answer hanswer => ?_
    obtain rfl : answer = .ok ⟨⟩ := hanswer
    exact ih _

/-! ## The globals -/

theorem Arrived.hasModes {env : Env} {incoming : List (Option Datagram)} {packet : RecvPacket}
    (h : Arrived env incoming packet) : packet.HasModes := by
  obtain ⟨datagram, -, w, hw⟩ := h
  exact recvPacket_gives datagram w trivial packet hw

/-- The icons that arrived for a player. -/
abbrev Given (env : Env) (incoming : List (Option Datagram)) (playerId : Int32)
    (data : PlayerAccountData) : Prop :=
  Arrived env incoming (.accountDataResponse playerId data)

/-- What holds of the globals all along. -/
structure Upheld (env : Env) (incoming : List (Option Datagram)) (a : Int32)
    (g : GlobalData F) : Prop where
  account : OfAccount a g.world
  cache : ∀ playerId data, g.accDataCache.get playerId = some data →
    Given env incoming playerId data
  modes : g.pCorrector.HasModes

section Globals

variable [Singles F] {env : Env} {incoming : List (Option Datagram)} {a : Int32}
  {g : GlobalData F} {o : Orders} {x : Access F}

omit [Singles F] in
/-- A call on the session. -/
theorem Upheld.call {α : Type} {c : Net α} (h : Upheld env incoming a g)
    (hc : Keeps (OfAccount a) c) : Upheld env incoming a (g.call c).2 :=
  ⟨hc g.world h.account, h.cache, h.modes⟩

/-- A player can be drawn. -/
theorem Upheld.step_interpolate (h : Upheld env incoming a g)
    (players : RemotePlayer F × RemotePlayer F) (dt : F) (playerId : Int32) :
    ∃ players' c', g.step env o (.interpolate players dt playerId) =
      (.ok players', { g with pCorrector := c' }) ∧ c'.HasModes := by
  obtain ⟨players', c', hok, hmodes⟩ := h.modes.interpolate players dt playerId
  refine ⟨players', c', ?_, hmodes⟩
  unfold GlobalData.step
  dsimp only
  rw [hok]

theorem Upheld.step (h : Upheld env incoming a g)
    (hhandled : ∀ accountId answer message, x = .handleMessage accountId answer message →
      accountId = a)
    (hfed : ∀ players, x = .feedRealData players → HaveModes players)
    (hcached : ∀ playerId data, x = .cacheAccData playerId data →
      Given env incoming playerId data) :
    Upheld env incoming a (g.step env o x).2 := by
  cases x with
  | connectToServer id => exact h.call (account_connectToServer id)
  | disconnect quiet save => exact h.call (account_disconnect quiet save)
  | handleMessage accountId answer message =>
    obtain rfl := hhandled _ _ _ rfl
    exact h.call (account_handleMessage answer message)
  | receive datagram => exact h.call (account_recvPacket datagram)
  | handlePacket packet => exact h.call (account_handlePacket packet)
  | keepaliveRound => exact h.call account_keepaliveRound
  | interpolate players dt playerId =>
    obtain ⟨players', c', hstep, hmodes⟩ := h.step_interpolate players dt playerId
    rw [hstep]
    exact ⟨h.account, h.cache, hmodes⟩
  | joinedLevel => exact ⟨h.account, h.cache, fun _ _ hget => nomatch hget⟩
  | feedRealData players =>
    refine ⟨h.account, h.cache, h.modes.feedRealData _ _ fun playerId frame hframe => ?_⟩
    rw [FiniteMap.get_map] at hframe
    obtain ⟨data, hdata, rfl⟩ := Option.map_eq_some_iff.mp hframe
    exact hfed players rfl playerId data hdata
  | cacheAccData playerId data =>
    refine ⟨h.account, fun id data' hget => ?_, h.modes⟩
    change (g.accDataCache.insert playerId data).get id = some data' at hget
    rw [FiniteMap.get_insert] at hget
    split at hget
    · next hid =>
      obtain rfl := Option.some.inj hget
      rw [hid]
      exact hcached playerId data rfl
    · exact h.cache id data' hget
  | _ => exact ⟨h.account, h.cache, h.modes⟩

/-- What the other threads leave to the main thread. -/
theorem queues_game (hx : x.thread ≠ .game) :
    (g.step env o x).2.messages.popped = g.messages.popped ∧
      (g.step env o x).2.netMsgQueue.pushed = g.netMsgQueue.pushed := by
  cases x with
  | popNetMsg => exact ⟨rfl, SmartMessageQueue.pushed_pop _⟩
  | _ => first | exact absurd rfl hx | exact ⟨rfl, rfl⟩

theorem queues_main (hx : x.thread ≠ .main) :
    (g.step env o x).2.netMsgQueue.popped = g.netMsgQueue.popped ∧
      (g.netMsgQueue.iq ≠ [] → (g.step env o x).2.netMsgQueue.iq ≠ []) := by
  cases x with
  | pushNetMsg message => exact ⟨rfl, fun _ => List.concat_ne_nil _ _⟩
  | interpolate players dt playerId =>
    unfold GlobalData.step
    dsimp only
    split <;> exact ⟨rfl, id⟩
  | _ => first | exact absurd rfl hx | exact ⟨rfl, id⟩

theorem queues_recv (hx : x.thread ≠ .recv) :
    (g.step env o x).2.messages.pushed = g.messages.pushed := by
  cases x with
  | popAllMessages => exact SmartMessageQueue.pushed_popAll _
  | interpolate players dt playerId =>
    unfold GlobalData.step
    dsimp only
    split <;> rfl
  | _ => first | exact absurd rfl hx | rfl

end Globals

/-! ## The agreement -/

/-- What a thread did so far, in the words of its contract. -/
def Thread.Summary : Thread F → Type
  | .game _ _ => Story F
  | .main _ => Errands
  | .recv _ => Mail
  | .keepalive _ => Unit

/-- All that was begun is done, but one at most. -/
def InStep {T : Type} (done begun : List T) : Prop := begun = done ∨ ∃ x, begun = done ++ [x]

section Agreement

variable (env : Env) (incoming : List (Option Datagram)) (a : Int32)

def Thread.contract : (κ : Thread F) → Contract (Access.Answer (F := F)) Failure κ.Summary
  | .game saved _ => gameContract (Given env incoming) a saved
  | .main rounds => mainContract rounds
  | .recv incoming => recvContract env incoming
  | .keepalive _ => aliveContract

/-- What a thread knows of the queues. -/
def Thread.view : (κ : Thread F) → κ.Summary → GlobalData F → Prop
  | .game _ _, (t : Story F), g => g.messages.popped = t.heard ∧ g.netMsgQueue.pushed = t.said
  | .main _, (t : Errands), g => g.netMsgQueue.popped = t.taken ∧
    (t.full = true → g.netMsgQueue.iq ≠ []) ∧ InStep t.handled t.taken
  | .recv _, (t : Mail), g => g.messages.pushed = t.passed ∧ InStep t.passed t.received
  | .keepalive _, _, _ => True

variable {env incoming a}

/-- Every thread keeps to its own accesses. -/
theorem Thread.does_thread {κ : Thread F} {t : κ.Summary} {x : Access F}
    (h : (κ.contract env incoming a).does t x) : x.thread = κ.name := by
  cases κ with
  | game saved callbacks => cases x <;> first | rfl | exact h
  | main rounds => cases x <;> first | rfl | exact h.elim
  | recv datagrams => cases x <;> first | rfl | exact h.elim
  | keepalive rounds => exact h

variable [Singles F] {g : GlobalData F} {o : Orders} {x : Access F}

/-! ### The main thread -/

theorem game_told {t : Story F} {saved : SavedLists} (h : Upheld env incoming a g)
    (hdoes : (gameContract (Given env incoming) a saved).does t x) :
    Story.Told (Given env incoming) a x (g.step env o x).1 := by
  cases x with
  | accountId => exact h.account
  | disconnect quiet save => exact disconnect_ok env quiet save g.world
  | interpolate players dt playerId =>
    obtain ⟨players', c', hstep, -⟩ := h.step_interpolate players dt playerId
    rw [hstep]
    exact ⟨players', rfl⟩
  | cached playerId => exact fun data hdata => h.cache playerId data hdata
  | dataCache => exact h.cache
  | _ => trivial

theorem game_view {t : Story F} {saved : SavedLists}
    (hdoes : (gameContract (Given env incoming) a saved).does t x)
    (hview : g.messages.popped = t.heard ∧ g.netMsgQueue.pushed = t.said) :
    (g.step env o x).2.messages.popped = (t.next a ⟨x, (g.step env o x).1⟩).heard ∧
      (g.step env o x).2.netMsgQueue.pushed = (t.next a ⟨x, (g.step env o x).1⟩).said := by
  obtain ⟨hheard, hsaid⟩ := hview
  cases x with
  | popAllMessages =>
    refine ⟨?_, hsaid⟩
    change g.messages.popped ++ g.messages.iq = t.heard ++ g.messages.popAll.1
    rw [hheard, SmartMessageQueue.popAll_fst]
  | pushNetMsg message =>
    refine ⟨hheard, ?_⟩
    change (g.netMsgQueue.push message).pushed = t.said ++ [message]
    rw [SmartMessageQueue.pushed_push, hsaid]
  | connectToServer id =>
    change g.messages.popped = (t.next a ⟨.connectToServer id, _⟩).heard ∧
      g.netMsgQueue.pushed = (t.next a ⟨.connectToServer id, _⟩).said
    generalize (g.step env o (.connectToServer id)).1 = answer
    cases answer <;> exact ⟨hheard, hsaid⟩
  | interpolate players dt playerId =>
    unfold GlobalData.step
    dsimp only
    split <;> exact ⟨hheard, hsaid⟩
  | _ => first | exact ⟨hheard, hsaid⟩ | cases hdoes

/-! ### The network thread -/

theorem main_told {rounds : List Round} {t : Errands} (hdoes : t.Does rounds x)
    (hfull : t.full = true → g.netMsgQueue.iq ≠ []) : t.Told x (g.step env o x).1 := by
  cases x with
  | popNetMsg =>
    intro h
    change g.netMsgQueue.pop.1.isSome = true
    unfold SmartMessageQueue.pop
    split
    · next hempty => exact absurd hempty (hfull h)
    · rfl
  | _ => trivial

theorem main_view {rounds : List Round} {t : Errands} (hdoes : t.Does rounds x)
    (hview : g.netMsgQueue.popped = t.taken ∧ (t.full = true → g.netMsgQueue.iq ≠ []) ∧
      InStep t.handled t.taken) :
    (g.step env o x).2.netMsgQueue.popped = (t.next ⟨x, (g.step env o x).1⟩).taken ∧
      ((t.next ⟨x, (g.step env o x).1⟩).full = true → (g.step env o x).2.netMsgQueue.iq ≠ []) ∧
      InStep (t.next ⟨x, (g.step env o x).1⟩).handled (t.next ⟨x, (g.step env o x).1⟩).taken := by
  obtain ⟨htaken, hfull, hstep⟩ := hview
  cases x with
  | waitForMessages => exact ⟨htaken, hfull, hstep⟩
  | netMsgQueueEmpty =>
    refine ⟨htaken, fun h => ?_, hstep⟩
    change (!g.netMsgQueue.iq.isEmpty) = true at h
    intro hempty
    change g.netMsgQueue.iq = [] at hempty
    rw [hempty] at h
    cases h
  | popNetMsg =>
    change g.netMsgQueue.pop.2.popped = t.taken ++ g.netMsgQueue.pop.1.toList ∧
      (false = true → _) ∧ InStep t.handled (t.taken ++ g.netMsgQueue.pop.1.toList)
    unfold SmartMessageQueue.pop
    split
    · next hempty => exact absurd hempty (hfull hdoes.2)
    · next message iq _ =>
      refine ⟨congrArg (· ++ [message]) htaken, fun h => absurd h Bool.false_ne_true, .inr ?_⟩
      exact ⟨message, congrArg (· ++ [message]) hdoes.1⟩
  | handleMessage accountId answer message => exact ⟨htaken, hfull, .inl hdoes.1⟩
  | _ => exact hdoes.elim

/-! ### The receiving thread -/

theorem recv_view {datagrams : List (Option Datagram)} {t : Mail}
    (hdoes : t.Does env datagrams x)
    (hview : g.messages.pushed = t.passed ∧ InStep t.passed t.received) :
    (g.step env o x).2.messages.pushed = (t.next ⟨x, (g.step env o x).1⟩).passed ∧
      InStep (t.next ⟨x, (g.step env o x).1⟩).passed
        (t.next ⟨x, (g.step env o x).1⟩).received := by
  obtain ⟨hpassed, hstep⟩ := hview
  cases x with
  | receive datagram =>
    change g.messages.pushed = (t.next ⟨.receive datagram, _⟩).passed ∧
      InStep (t.next ⟨.receive datagram, _⟩).passed (t.next ⟨.receive datagram, _⟩).received
    generalize (g.step env o (.receive datagram)).1 = answer
    cases answer with
    | error e => exact ⟨hpassed, hstep⟩
    | ok packet =>
      refine ⟨hpassed, ?_⟩
      change InStep t.passed (t.received ++ packet.text.toList)
      rw [hdoes.2]
      cases packet.text with
      | none => exact .inl (List.append_nil _)
      | some message => exact .inr ⟨message, rfl⟩
  | pushMessage message =>
    refine ⟨?_, .inl hdoes⟩
    change (g.messages.push message).pushed = t.passed ++ [message]
    rw [SmartMessageQueue.pushed_push, hpassed]
  | feedRealData players => exact ⟨hpassed, hstep⟩
  | cacheAccData playerId data => exact ⟨hpassed, hstep⟩
  | handlePacket packet => exact ⟨hpassed, hstep⟩
  | _ => exact hdoes.elim

/-- What is done keeps what holds of the globals, if `tMain` works for this account. -/
theorem upheld_does {κ : Thread F} {t : κ.Summary}
    (hrounds : ∀ rounds, κ = .main rounds → ∀ round ∈ rounds, round.accountId = a)
    (hdatagrams : ∀ datagrams, κ = .recv datagrams → datagrams = incoming)
    (hdoes : (κ.contract env incoming a).does t x) (h : Upheld env incoming a g) :
    Upheld env incoming a (g.step env o x).2 := by
  have hthread := Thread.does_thread hdoes
  refine h.step ?_ ?_ ?_
  · rintro accountId answer message rfl
    cases κ with
    | main rounds => exact hrounds rounds rfl _ hdoes.2
    | _ => cases hthread
  · rintro players rfl
    cases κ with
    | recv datagrams =>
      have harrived : Arrived env datagrams (.levelData players) := hdoes
      exact harrived.hasModes
    | _ => cases hthread
  · rintro playerId data rfl
    cases κ with
    | recv datagrams =>
      obtain rfl := hdatagrams datagrams rfl
      exact hdoes
    | _ => cases hthread

end Agreement

/-- `tMain` finds the account of the game in every round. -/
def Inputs.OfAccount (a : Int32) (inputs : Inputs F) : Prop :=
  ∀ round ∈ inputs.rounds, round.accountId = a

variable [Singles F]

/-- **The threads of the client** rely on each other. -/
def clientAgreement (env : Env) (a : Int32) (inputs : Inputs F) (h : inputs.OfAccount a) :
    Agreement (client env : System (Access F) _ _ _ _ _) .closed where
  Summary := Thread.Summary
  contract := Thread.contract env inputs.incoming a
  member κ := κ ∈ inputs.threads
  inv := Upheld env inputs.incoming a
  view := Thread.view
  apart κ κ' := κ.name ≠ κ'.name
  keeps := by
    intro κ _
    cases κ with
    | game saved callbacks =>
      refine gameThread_keeps env callbacks ⟨rfl, fun layer hlayer => ?_⟩ rfl
      cases hlayer
    | main rounds => exact tMain_keeps (fun _ h => h) rfl
    | recv datagrams => exact tRecv_keeps (fun _ h => h) rfl
    | keepalive rounds => exact tKeepalive_keeps rounds _
  inv_step := by
    intro κ t x o g hmember hdoes _ hinv
    refine upheld_does ?_ ?_ hdoes hinv
    · rintro rounds rfl
      obtain rfl : rounds = inputs.rounds := by simpa [Inputs.threads] using hmember
      exact h
    · rintro datagrams rfl
      simpa [Inputs.threads] using hmember
  told_step := by
    intro κ t x o g _ hdoes _ hinv hview
    cases κ with
    | game saved callbacks => exact game_told hinv hdoes
    | main rounds => exact main_told hdoes hview.2.1
    | recv datagrams =>
      cases x with
      | receive datagram => exact ⟨g.world, rfl⟩
      | _ => trivial
    | keepalive rounds =>
      cases x with
      | keepaliveRound => exact keepaliveRound_ok env g.world
      | _ => trivial
  view_step := by
    intro κ t x o g _ hdoes _ _ hview
    cases κ with
    | game saved callbacks => exact game_view hdoes hview
    | main rounds => exact main_view hdoes hview
    | recv datagrams => exact recv_view hdoes hview
    | keepalive rounds => trivial
  view_apart := by
    intro κ κ' t t' x o g hapart hdoes _ hview
    have hthread := Thread.does_thread hdoes
    cases κ' with
    | game saved callbacks =>
      have hqueues := @queues_game F _ env g o x (hthread ▸ hapart)
      exact ⟨hqueues.1.trans hview.1, hqueues.2.trans hview.2⟩
    | main rounds =>
      have hqueues := @queues_main F _ env g o x (hthread ▸ hapart)
      exact ⟨hqueues.1.trans hview.1, fun hfull => hqueues.2 (hview.2.1 hfull), hview.2.2⟩
    | recv datagrams => exact ⟨(queues_recv (hthread ▸ hapart)).trans hview.1, hview.2⟩
    | keepalive rounds => trivial
  started h := h.elim
  spawned _ h := nomatch h

end Interplay

end Globed.Client
