import Globed.Base.Sessions
import Globed.Client.Destination

/-!
# Heartbeats

`tKeepalive` disconnects from a server that is silent for 15 seconds. The time of the last
`KeepaliveResponse` is 0 until the first one comes, which the check takes for no silence at all, and
it is not put back when a session is established. `firesOnSilence_iff` says when the timeout is
right for all that.
-/

namespace Globed.Client

open Calls Sessions

/-! ## Milliseconds -/

/-- `g_gameServerLastHeartbeat` and `timestampMs` are subtracted as unsigned numbers. -/
theorem sub_stamp (a b : Int) :
    (Int64.ofInt a).toUInt64 - (Int64.ofInt b).toUInt64 = (Int64.ofInt (a - b)).toUInt64 := by
  rw [Int64.ofInt_sub]
  rfl

theorem stamp_gt_iff {d : Int} (h₀ : 0 ≤ d) (h₁ : d < 2 ^ 64) :
    (Int64.ofInt d).toUInt64 > 15000 ↔ d > 15000 := by
  rw [gt_iff_lt, UInt64.lt_iff_toNat_lt]
  change _ < (BitVec.ofInt 64 d).toNat ↔ _
  rw [BitVec.toNat_ofInt]
  simp
  omega

theorem stamp_eq_zero_iff {t : Int} (h₀ : -2 ^ 63 ≤ t) (h₁ : t < 2 ^ 63) :
    Int64.ofInt t = 0 ↔ t = 0 := by
  constructor
  · intro h
    have hint := congrArg Int64.toInt h
    rw [Int64.toInt_ofInt_of_le (by omega) (by omega)] at hint
    simpa using hint
  · rintro rfl
    rfl

/-- The count of a clock is a 64-bit number of nanoseconds. -/
def Time.InRange (t : Time) : Prop := -2 ^ 63 ≤ t ∧ t < 2 ^ 63

theorem Time.InRange.toMs {t : Time} (h : t.InRange) : -2 ^ 62 ≤ t.toMs ∧ t.toMs < 2 ^ 62 := by
  obtain ⟨hlow, hhigh⟩ := h
  have hlow' : Int.tdiv (-2 ^ 63) 1000000 ≤ t.toMs := Int.tdiv_le_tdiv (by decide) hlow
  have hhigh' : t.toMs ≤ Int.tdiv (2 ^ 63) 1000000 :=
    Int.tdiv_le_tdiv (by decide) (Int.le_of_lt hhigh)
  constructor
  · exact Int.le_trans (by decide) hlow'
  · exact Int.lt_of_le_of_lt hhigh' (by decide)

/-! ## What happens to a session -/

/-- What the threads do about a session. -/
inductive Beat
  | connectToServer (id : CString)
  | checkedIn (tps : UInt16)
  | keepaliveResponse (playerCount : UInt32) (ping : Int)
  | keepalive

/-- The clock stands at `t` while something is done. -/
def Env.standing (env : Env) (t : Time) : Env := { env with highResolutionClock := fun _ => t }

def Beat.after (env : Env) (w : World) : Beat → World
  | connectToServer id => (NetworkHandler.connectToServer env id w).2
  | checkedIn tps => (NetworkHandler.handlePacket env (.checkedIn tps) w).2
  | keepaliveResponse playerCount ping =>
    (NetworkHandler.handlePacket env (.keepaliveResponse playerCount ping) w).2
  | keepalive => (NetworkHandler.keepaliveRound env w).2

section Beats

variable {env : Env} {w : World} {established : Bool} {lastHb : Int64}

/-- What the timeout depends on. -/
structure Beating (established : Bool) (lastHb : Int64) (w : World) : Prop where
  established : w.gameSocket.established = established
  lastHb : w.gameServerLastHeartbeat = lastHb

theorem beating_modify {f : World → World}
    (hestablished : ∀ w, (f w).gameSocket.established = w.gameSocket.established := by
      intro _; rfl)
    (hlast : ∀ w, (f w).gameServerLastHeartbeat = w.gameServerLastHeartbeat := by
      intro _; rfl) :
    Keeps (Beating established lastHb) (modify f : Net Unit) :=
  fun w h => ⟨(hestablished w).trans h.established, (hlast w).trans h.lastHb⟩

theorem beating_sendBuf (buf : ByteBuffer) :
    Keeps (Beating established lastHb) (GameSocket.sendBuf env buf) := by
  intro w h
  rw [GameSocket.sendBuf, UdpSocket.sendAll_apply]
  exact ⟨h.established, h.lastHb⟩

theorem beating_readNext {α : Type} (readings : Nat → α) :
    Keeps (Beating established lastHb) (readNext readings) :=
  fun _ h => ⟨h.established, h.lastHb⟩

/-- A disconnect ends the session and forgets the last answer. -/
theorem beating_disconnect (env : Env) (quiet save : Bool) :
    Returns (Beating established lastHb) (NetworkHandler.disconnect env quiet save)
      fun _ => Beating false 0 := by
  apply returns_disconnect (fun _ => beating_sendBuf _)
  · exact fun w h => ⟨h.established, h.lastHb⟩
  · exact fun w _ h => ⟨h.established, h.lastHb⟩
  · intro w _
    exact ⟨⟨⟩, rfl, rfl, rfl⟩

theorem beating_connectToServer (id : CString) :
    Beating false 0 (NetworkHandler.connectToServer env id w).2 := by
  have hconnectTo : ∀ server, Keeps (Beating false 0) (NetworkHandler.connectTo env server) := by
    intro server
    refine (Keeps.lift _).bind fun ⟨address, port⟩ => ?_
    dsimp only
    generalize (if port = 0 then 41001 else port) = port
    have hconnect : Keeps (Beating false 0) (UdpSocket.connect env address port) := by
      intro w h
      rw [UdpSocket.connect_apply]
      exact ⟨h.established, h.lastHb⟩
    refine hconnect.bind fun valid => Keeps.ite ?_ (Keeps.pure _)
    refine Keeps.bind beating_modify fun _ => Keeps.bind beating_modify fun _ => ?_
    have hcheckIn : Keeps (Beating false 0) (GameSocket.sendCheckIn env) :=
      (Keeps.gets _).bind fun _ => (Keeps.gets _).bind fun _ => beating_sendBuf _
    exact hcheckIn.bind fun _ => Keeps.bind beating_modify fun _ => Keeps.pure _
  have hall : Triple (Beating w.gameSocket.established w.gameServerLastHeartbeat)
      (NetworkHandler.connectToServer env id) fun _ => Beating false 0 := by
    refine (beating_disconnect env false false).triple fun _ => ?_
    refine Keeps.bind (Keeps.gets _) fun gameServers => ?_
    split
    · exact hconnectTo _
    · exact Keeps.pure _
  exact hall w ⟨rfl, rfl⟩

theorem beating_checkedIn (tps : UInt16) :
    Beating true w.gameServerLastHeartbeat
      (NetworkHandler.handlePacket env (.checkedIn tps) w).2 := by
  let w₁ : World := { w with gameSocket := { w.gameSocket with established := true } }
  have hset : modifySocket (fun socket => { socket with established := true }) w = (.ok ⟨⟩, w₁) :=
    rfl
  rw [NetworkHandler.handlePacket, Call.bind_of_ok hset]
  refine Keeps.bind (beating_modify (fun w => ?_) fun w => ?_) (fun _ => beating_modify) w₁
    ⟨rfl, rfl⟩
  · split <;> rfl
  · split <;> rfl

theorem beating_keepaliveResponse (t : Time) (playerCount : UInt32) (ping : Int) :
    Beating w.gameSocket.established (Int64.ofInt t.toMs)
      (NetworkHandler.handlePacket (env.standing t) (.keepaliveResponse playerCount ping) w).2 :=
  ⟨rfl, rfl⟩

/-- The last part of a round reads the clock, unless there was no answer yet. -/
theorem beating_checkHeartbeat (env : Env) (t : Time) (h : Beating true lastHb w) :
    if lastHb ≠ 0 ∧ (Int64.ofInt t.toMs).toUInt64 - lastHb.toUInt64 > 15000 then
      Beating false 0 (NetworkHandler.checkHeartbeat (env.standing t) w).2
    else Beating true lastHb (NetworkHandler.checkHeartbeat (env.standing t) w).2 := by
  have hget : (Call.gets fun w => w.gameServerLastHeartbeat : Net _) w = (.ok lastHb, w) := by
    rw [Call.gets_apply, h.lastHb]
  rw [NetworkHandler.checkHeartbeat, Call.bind_of_ok hget]
  by_cases hzero : lastHb = 0
  · rw [if_neg (fun hboth => hboth.1 hzero), if_pos hzero]
    exact h
  · let w₁ : World := { w with ticks := w.ticks + 1 }
    have hnow : NetworkHandler.timestampMs (env.standing t) w =
        (.ok (Int64.ofInt t.toMs).toUInt64, w₁) := rfl
    rw [if_neg hzero, Call.bind_of_ok hnow]
    by_cases hsilent : (Int64.ofInt t.toMs).toUInt64 - lastHb.toUInt64 > 15000
    · obtain ⟨_, _, hleft⟩ := beating_disconnect (env.standing t) true true w₁
        ⟨h.established, h.lastHb⟩
      rw [if_pos ⟨hzero, hsilent⟩, if_pos hsilent]
      exact hleft
    · rw [if_neg (fun hboth => hsilent hboth.2), if_neg hsilent]
      exact ⟨h.established, h.lastHb⟩

/-- One round of `tKeepalive`. -/
theorem beating_keepaliveRound (env : Env) (t : Time) (h : Beating established lastHb w) :
    if established = true ∧ lastHb ≠ 0 ∧
        (Int64.ofInt t.toMs).toUInt64 - lastHb.toUInt64 > 15000 then
      Beating false 0 (NetworkHandler.keepaliveRound (env.standing t) w).2
    else Beating established lastHb (NetworkHandler.keepaliveRound (env.standing t) w).2 := by
  have hsocket : getSocket w = (.ok w.gameSocket, w) := rfl
  rw [NetworkHandler.keepaliveRound, Call.bind_of_ok hsocket, h.established]
  cases established with
  | false => exact h
  | true =>
    have hheartbeat : Keeps (Beating true lastHb) (GameSocket.sendHeartbeat (env.standing t)) :=
      keeps_sendHeartbeat beating_readNext (fun _ => beating_modify) fun _ => beating_sendBuf _
    obtain ⟨⟨⟩, hsent, h₁⟩ := Returns.caught hheartbeat w h
    have hround := Call.bind_of_ok (Prod.ext hsent rfl)
      fun _ => NetworkHandler.checkHeartbeat (env.standing t)
    have hcheck := beating_checkHeartbeat env t h₁
    simp only [true_and, ↓reduceIte]
    rw [hround]
    exact hcheck

end Beats

/-! ## Silence -/

/-- When the session was established, and when the last `KeepaliveResponse` came since the last time
that the client connected or disconnected, in milliseconds. -/
structure Contact where
  established : Option Int
  heard : Option Int

def Contact.after (contact : Contact) (lost : Bool) (t : Int) : Beat → Contact
  | .connectToServer _ => ⟨none, none⟩
  | .checkedIn _ => { contact with established := some (contact.established.getD t) }
  | .keepaliveResponse _ _ => { contact with heard := some t }
  | .keepalive => if lost then ⟨none, none⟩ else contact

/-- The time that something is done at. -/
structure TimedBeat where
  time : Time
  beat : Beat

/-- The client, with what it knows of its session. -/
structure Watched where
  world : World
  contact : Contact

def Watched.step (env : Env) (s : Watched) (b : TimedBeat) : Watched :=
  let w := b.beat.after (env.standing b.time) s.world
  ⟨w, s.contact.after (s.world.gameSocket.established && !w.gameSocket.established) b.time.toMs
    b.beat⟩

/-- How long the server was silent, in a session that was established at `est`. -/
def Contact.silence (contact : Contact) (est t : Int) : Int := t - max est (contact.heard.getD est)

/-- A round of `tKeepalive` disconnects exactly after 15 seconds of silence. -/
def FiresOnSilence (env : Env) (s : Watched) (b : TimedBeat) : Prop :=
  b.beat = .keepalive → s.world.gameSocket.established = true →
    ((s.step env b).world.gameSocket.established = false ↔
      ∃ est, s.contact.established = some est ∧ s.contact.silence est b.time.toMs > 15000)

/-- In a round of `tKeepalive`, a server that did not answer yet is not silent for long, and an
answer from before the session is not so old that it hides a new session. -/
def Answered (s : Watched) (b : TimedBeat) : Prop :=
  b.beat = .keepalive → ∀ est, s.contact.established = some est →
    (s.contact.heard.getD 0 = 0 → s.contact.silence est b.time.toMs ≤ 15000) ∧
    (s.contact.heard.getD 0 ≠ 0 → b.time.toMs - s.contact.heard.getD 0 > 15000 →
      b.time.toMs - est > 15000)

/-- Time goes on. -/
def Later (last : Time) (b : TimedBeat) : Prop := last ≤ b.time ∧ b.time.InRange

/-- What the client stores is what it knows, and all of it is from before `last`. -/
structure Watched.Sound (s : Watched) (last : Time) : Prop where
  beating : Beating s.contact.established.isSome (Int64.ofInt (s.contact.heard.getD 0)) s.world
  established : ∀ est, s.contact.established = some est → est ≤ last.toMs
  heard : ∀ h, s.contact.heard = some h → -2 ^ 62 ≤ h ∧ h < 2 ^ 62 ∧ h ≤ last.toMs

section Silence

variable {env : Env} {s : Watched} {last : Time} {b : TimedBeat}

/-- The comparison that a round makes. -/
theorem Watched.Sound.timeout_iff (h : s.Sound last) (hb : Later last b) :
    Int64.ofInt (s.contact.heard.getD 0) ≠ 0 ∧ (Int64.ofInt b.time.toMs).toUInt64 -
        (Int64.ofInt (s.contact.heard.getD 0)).toUInt64 > 15000 ↔
      s.contact.heard.getD 0 ≠ 0 ∧ b.time.toMs - s.contact.heard.getD 0 > 15000 := by
  have hnow := hb.2.toMs
  have hlast : last.toMs ≤ b.time.toMs := Int.tdiv_le_tdiv (by decide) hb.1
  cases hheard : s.contact.heard with
  | none => simp
  | some stamp =>
    obtain ⟨hlow, hhigh, hle⟩ := h.heard stamp hheard
    rw [Option.getD_some, sub_stamp, stamp_gt_iff (by omega) (by omega), ne_eq,
      stamp_eq_zero_iff (by omega) (by omega)]

theorem Watched.Sound.later (h : s.Sound last) (hb : last ≤ b.time) : s.Sound b.time := by
  have hlast : last.toMs ≤ b.time.toMs := Int.tdiv_le_tdiv (by decide) hb
  refine ⟨h.beating, fun est hest => ?_, fun stamp hstamp => ?_⟩
  · exact Int.le_trans (h.established est hest) hlast
  · obtain ⟨hlow, hhigh, hle⟩ := h.heard stamp hstamp
    exact ⟨hlow, hhigh, Int.le_trans hle hlast⟩

/-- The step lemma of what is known. -/
theorem Watched.Sound.step (h : s.Sound last) (hb : Later last b) :
    (s.step env b).Sound b.time := by
  have hlater := h.later hb.1
  have hnow := hb.2.toMs
  obtain ⟨time, beat⟩ := b
  cases beat with
  | connectToServer id =>
    exact ⟨beating_connectToServer id, fun _ hnone => (nomatch hnone), fun _ hnone =>
      (nomatch hnone)⟩
  | checkedIn tps =>
    have hchecked := @beating_checkedIn (env.standing time) s.world tps
    rw [h.beating.lastHb] at hchecked
    refine ⟨hchecked, fun est hest => ?_, hlater.heard⟩
    obtain rfl := Option.some.inj hest
    cases hest : s.contact.established with
    | none => exact Int.le_refl _
    | some est => exact hlater.established est hest
  | keepaliveResponse playerCount ping =>
    have hheard := @beating_keepaliveResponse env s.world time playerCount ping
    rw [h.beating.established] at hheard
    refine ⟨hheard, hlater.established, fun stamp hstamp => ?_⟩
    obtain rfl := Option.some.inj hstamp
    exact ⟨hnow.1, hnow.2, Int.le_refl _⟩
  | keepalive =>
    have hround := beating_keepaliveRound env time h.beating
    have hbefore := h.beating.established
    unfold Watched.step
    dsimp only [Beat.after, Contact.after]
    split at hround
    · next htimeout =>
      rw [hround.established, hbefore, htimeout.1]
      exact ⟨hround, fun _ hnone => (nomatch hnone), fun _ hnone => (nomatch hnone)⟩
    · rw [hround.established, hbefore, Bool.and_not_self]
      exact ⟨hround, hlater.established, hlater.heard⟩

/-- The step lemma of the timeout. -/
theorem firesOnSilence_iff_answered (h : s.Sound last) (hb : Later last b) :
    FiresOnSilence env s b ↔ Answered s b := by
  obtain ⟨time, beat⟩ := b
  refine forall_congr' fun hbeat => ?_
  obtain rfl : beat = .keepalive := hbeat
  have hround := beating_keepaliveRound env time h.beating
  have htimeout := h.timeout_iff hb
  rw [h.beating.established]
  cases hest : s.contact.established with
  | none => simp
  | some est =>
    have hfires : (s.step env ⟨time, .keepalive⟩).world.gameSocket.established = false ↔
        s.contact.heard.getD 0 ≠ 0 ∧ time.toMs - s.contact.heard.getD 0 > 15000 := by
      rw [hest] at hround
      simp only [Option.isSome_some, true_and] at hround
      rw [← htimeout]
      split at hround
      · next hfired => exact ⟨fun _ => hfired, fun _ => hround.established⟩
      · next hnot =>
        refine ⟨fun hlost => ?_, fun hfired => absurd hfired hnot⟩
        exact (nomatch hround.established.symm.trans hlost)
    rw [hfires]
    unfold Contact.silence
    cases hheard : s.contact.heard with
    | none => simp
    | some stamp =>
      simp
      omega

/-- **Silence**: from the start of the client, a session times out exactly after 15 seconds of
silence, if and only if the server had answered by then and no answer is from long before the
session. -/
theorem firesOnSilence_iff (env : Env) (accountId secretKey : Int32)
    (accountData : PlayerAccountData) (gameServers : List GameServer) (beats : List TimedBeat)
    (hclock : Along (fun _ b => b.time) Later (-2 ^ 63) beats) :
    Along (Watched.step env) (FiresOnSilence env)
        ⟨.new accountId secretKey accountData gameServers, ⟨none, none⟩⟩ beats ↔
      Along (Watched.step env) Answered
        ⟨.new accountId secretKey accountData gameServers, ⟨none, none⟩⟩ beats := by
  refine along_congr_beside (I := Watched.Sound) ?_ ?_ ⟨⟨rfl, rfl⟩, ?_, ?_⟩ hclock
  · intro s last b h hb
    exact h.step hb
  · intro s last b h hb
    exact firesOnSilence_iff_answered h hb
  · intro est hnone
    cases hnone
  · intro stamp hnone
    cases hnone

/-- A client that connects to the server `s`, is checked in and does what follows. -/
def checkedIn (beats : List TimedBeat) : List TimedBeat :=
  ⟨1000000000, .connectToServer [115]⟩ :: ⟨1000000000, .checkedIn 30⟩ :: beats

/-- One second after an answer, and thirty seconds after it. -/
theorem firesOnSilence_iff_answering :
    Along (Watched.step loopbackEnv) (FiresOnSilence loopbackEnv)
      ⟨loopbackWorld, ⟨none, none⟩⟩
      (checkedIn [⟨2000000000, .keepaliveResponse 0 0⟩, ⟨3000000000, .keepalive⟩,
        ⟨32000000000, .keepalive⟩]) := by
  refine (firesOnSilence_iff loopbackEnv _ _ _ _ _ ?_).mpr ?_
  · simp only [checkedIn, Along, Later, Time.InRange]
    decide
  · refine ⟨fun hbeat => (nomatch hbeat), fun hbeat => (nomatch hbeat),
      fun hbeat => (nomatch hbeat), ?_, ?_, trivial⟩
    · rintro - est hest
      obtain rfl := Option.some.inj hest
      exact ⟨fun h => absurd h (by decide), fun _ h => absurd h (by decide)⟩
    · rintro - est hest
      obtain rfl := Option.some.inj hest
      exact ⟨fun h => absurd h (by decide), fun _ _ => by decide⟩

/-- A server that never answers a heartbeat is waited for forever. -/
theorem silent_server_not_left :
    ¬Along (Watched.step loopbackEnv) (FiresOnSilence loopbackEnv)
      ⟨loopbackWorld, ⟨none, none⟩⟩ (checkedIn [⟨100000000000, .keepalive⟩]) := by
  rintro ⟨-, -, h, -⟩
  have hlost := (h rfl rfl).mpr ⟨1000, rfl, by decide⟩
  cases hlost

end Silence

end Globed.Client
