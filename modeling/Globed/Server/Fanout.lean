import Globed.Server.Chat

/-!
# Messages to many clients

`broadcast_user_message`, `broadcast_message` and `tick` each send to many clients in a loop. A tick
logs a send that fails and goes on; the two broadcasts end with it, and whoever comes later in the
order of the map is left out.
-/

namespace Globed.Server

open Concurrent Bytebuffer

/-! ## Attempts -/

/-- Whom the server tried to send to: an address, or nobody where the client of a `send_to` is not
registered. -/
def attempts (log : List (Event Action.Answer)) : List (Option SocketAddr) :=
  log.filterMap fun e =>
    match e with
    | ⟨.sendTo addr _, _⟩ => some (some addr)
    | ⟨.clientAddress _, none⟩ => some none
    | _ => none

@[simp] theorem attempts_nil : attempts [] = [] := rfl

@[simp] theorem attempts_append (log log' : List (Event Action.Answer)) :
    attempts (log ++ log') = attempts log ++ attempts log' :=
  List.filterMap_append

/-- No send but the last of `n` fails. -/
def AllButLast (n : Nat) (sent : Nat → Bool) : Prop := ∀ i, i + 1 < n → sent i = true

theorem allButLast_succ_succ {n : Nat} {sent : Nat → Bool} :
    AllButLast (n + 2) sent ↔ sent 0 = true ∧ AllButLast (n + 1) fun i => sent (i + 1) := by
  constructor
  · intro h
    exact ⟨h 0 (by omega), fun i hi => h (i + 1) (by omega)⟩
  · rintro ⟨hzero, h⟩ i hi
    cases i with
    | zero => exact hzero
    | succ i => exact h i (by omega)

def State.IsOn (st : State) (levelId clientId : Int32) : Prop :=
  ∃ cd, st.connectedClients.get clientId = some cd ∧ cd.levelId = levelId

/-! ## The loops -/

variable [Bytebuffer]

inductive Fanout
  | userMessage (senderClientId : Int32) (message : String)
  | levelMessage (message : String) (color : UInt8 × UInt8 × UInt8) (levelId : Option Int32)
  | tick

namespace Fanout

def task : Fanout → Task Unit
  | userMessage senderClientId message => broadcastUserMessage senderClientId message
  | levelMessage message color levelId => broadcastMessage message color levelId
  | tick => Server.tick

omit [Bytebuffer] in
/-- The loop is for the client `id`, for the sake of the level `l`. -/
def Intended (st : State) : Fanout → Int32 → Int32 → Prop
  | userMessage senderClientId _, l, id => st.IsOn l senderClientId ∧ st.IsOn l id
  | levelMessage _ _ levelId, l, id => (levelId = none ∨ levelId = some l) ∧ st.IsOn l id
  | tick, l, id => (∃ c, st.IsOn l c) ∧ (st.entry l id).isSome = true

/-- What is attempted when the loop runs alone, its sections and sends with the inputs `os`. -/
def attempts (settings : ServerSettings) (os : Nat → Input) (st : State) (f : Fanout) :
    List (Option SocketAddr) :=
  Server.attempts (f.task.run (server settings anyInput).machine os st).2.2

/-- There is exactly one attempt to send to each client that the loop is for, and no other one. -/
def ReachesAll (settings : ServerSettings) (os : Nat → Input) (st : State) (f : Fanout) : Prop :=
  ∃ targets : Targets, targets.Nodup ∧ (∀ l id, (l, id) ∈ targets ↔ f.Intended st l id) ∧
    f.attempts settings os st = targets.map fun t => addressOf st t.2

omit [Bytebuffer] in
/-- The sends of a broadcast do not end early: none but the last one fails. The first input is
that of the section that finds the recipients. A tick never ends early. -/
def Unbroken (os : Nat → Input) (st : State) : Fanout → Prop
  | userMessage senderClientId message =>
    ∀ clients, st.userRecipients (os 0).order senderClientId = some clients →
      (message.utf8ByteSize ≤ 80 ∨ String.Pos.Raw.IsValid message ⟨80⟩) ∧
        AllButLast clients.length fun i => (os (i + 1)).sent
  | levelMessage _ _ levelId =>
    AllButLast (st.recipients (os 0).order levelId).length fun i => (os (i + 1)).sent
  | tick => True

end Fanout

/-! ## Broadcasts -/

section Broadcasts

variable {settings : ServerSettings} {os : Nat → Input} {st : State}

theorem run_sendBufTo_bind (addr : SocketAddr) (buf : ByteBuffer) (f : Unit → Task Unit) :
    (sendBufTo addr buf >>= f).run (server settings anyInput).machine os st =
      let out :=
        if (os 0).sent then (f ()).run (server settings anyInput).machine (fun i => os (i + 1)) st
        else (.err .io, st, [])
      (out.1, out.2.1, ⟨.sendTo addr (asBytes buf), (os 0).sent⟩ :: out.2.2) := by
  cases hsent : (os 0).sent with
  | false =>
    have hstep : (server settings anyInput).machine.step (os 0) (.sendTo addr (asBytes buf)) st =
        (false, st) := congrArg (·, st) hsent
    exact Proc.run_act hstep rfl
  | true =>
    have hstep : (server settings anyInput).machine.step (os 0) (.sendTo addr (asBytes buf)) st =
        (true, st) := congrArg (·, st) hsent
    exact Proc.run_act hstep rfl

/-- A loop of sends that ends with the first one that fails: it attempts the first few, and all of
them exactly if none but the last fails. -/
theorem attempts_sendAll (settings : ServerSettings) (st : State) (addrs : List SocketAddr)
    (buf : ByteBuffer) (os : Nat → Input) :
    Server.attempts ((addrs.forM fun addr => sendBufTo addr buf).run
        (server settings anyInput).machine os st).2.2 <+: addrs.map some ∧
      (Server.attempts ((addrs.forM fun addr => sendBufTo addr buf).run
          (server settings anyInput).machine os st).2.2 = addrs.map some ↔
        AllButLast addrs.length fun i => (os i).sent) := by
  induction addrs generalizing os with
  | nil => exact ⟨List.prefix_rfl, iff_of_true rfl fun i hi => by simp at hi⟩
  | cons addr addrs ih =>
    rw [Proc.forM_cons, run_sendBufTo_bind]
    obtain ⟨hfirst, hall⟩ := ih fun i => os (i + 1)
    cases hsent : (os 0).sent with
    | true =>
      have hsplit : ∀ l, Server.attempts (⟨.sendTo addr (asBytes buf), true⟩ :: l) =
          some addr :: Server.attempts l := fun _ => rfl
      simp only [if_true, hsplit, List.map_cons, List.prefix_cons_inj, List.cons.injEq, true_and]
      refine ⟨hfirst, hall.trans ?_⟩
      cases addrs with
      | nil => exact iff_of_true (fun i hi => by simp at hi) fun i hi => by simp at hi
      | cons addr' addrs => simp [allButLast_succ_succ, hsent]
    | false =>
      have hone : Server.attempts [⟨.sendTo addr (asBytes buf), false⟩] = [some addr] := rfl
      simp only [Bool.false_eq_true, if_false, hone, List.map_cons, List.cons_prefix_cons,
        List.nil_prefix, true_and, List.cons.injEq]
      cases addrs with
      | nil => exact iff_of_true rfl fun i hi => by simp at hi
      | cons addr' addrs => simp [allButLast_succ_succ, hsent]

namespace Fanout

/-- If the first few clients that the loop is for are attempted, all of them are exactly if the loop
does not end early. -/
theorem reachesAll_iff_of_isPrefix {f : Fanout} {o : IterOrder Int32} {p : ClientData → Bool}
    {addrs : List SocketAddr}
    (hintended : ∀ l id, (l, id) ∈ st.targets o p ↔ f.Intended st l id)
    (haddrs : addrs.map some = (st.targets o p).map fun t => addressOf st t.2)
    (hfirst : f.attempts settings os st <+: addrs.map some) :
    f.ReachesAll settings os st ↔ f.attempts settings os st = addrs.map some := by
  constructor
  · rintro ⟨targets, hnodup, hmem, hattempts⟩
    have hperm : targets.Perm (st.targets o p) := by
      rw [List.perm_ext_iff_of_nodup hnodup (State.nodup_ids_targets.of_map Prod.snd)]
      rintro ⟨l, id⟩
      rw [hmem, hintended]
    apply hfirst.eq_of_length
    rw [hattempts, haddrs, List.length_map, List.length_map, hperm.length_eq]
  · intro hall
    exact ⟨st.targets o p, State.nodup_ids_targets.of_map Prod.snd, hintended, hall.trans haddrs⟩

theorem reachesAll_levelMessage_iff (message : String) (color : UInt8 × UInt8 × UInt8)
    (levelId : Option Int32) :
    (levelMessage message color levelId).ReachesAll settings os st ↔
      (levelMessage message color levelId).Unbroken os st := by
  let addrs := st.recipients (os 0).order levelId
  obtain ⟨hfirst, hall⟩ := attempts_sendAll settings st addrs (serverBroadcast message color)
    fun i => os (i + 1)
  have hintended : ∀ l id, (l, id) ∈ st.targets (os 0).order
      (fun client => levelId.isNone ∨ some client.levelId = levelId) ↔
        (levelMessage message color levelId).Intended st l id := by
    intro l id
    rw [State.mem_targets]
    cases levelId with
    | none => simp [Intended, State.IsOn]
    | some levelId =>
      simp only [Intended, State.IsOn, Option.isNone_some, Bool.false_eq_true, false_or,
        Option.some.injEq, decide_eq_true_eq, reduceCtorEq]
      constructor
      · rintro ⟨cd, hcd, rfl, rfl⟩
        exact ⟨rfl, cd, hcd, rfl⟩
      · rintro ⟨rfl, cd, hcd, rfl⟩
        exact ⟨cd, hcd, rfl, rfl⟩
  exact (reachesAll_iff_of_isPrefix hintended State.addresses_targets hfirst).trans hall

/-- A text message goes to the recipients that its first section finds. -/
theorem attempts_userMessage (settings : ServerSettings) (senderClientId : Int32)
    (message : String) {r : Option (List SocketAddr)}
    (hr : st.userRecipients (os 0).order senderClientId = r) :
    (userMessage senderClientId message).attempts settings os st =
      r.elim [] fun clients => Server.attempts ((clients.forM fun address => do
        let message ← cutMessage message
        sendBufTo address (textMessage senderClientId message)).run
          (server settings anyInput).machine (fun i => os (i + 1)) st).2.2 := by
  have hstep : (server settings anyInput).machine.step (os 0) (.userRecipients senderClientId) st =
      (r, st) := congrArg (·, st) hr
  change Server.attempts ((Proc.act (.userRecipients senderClientId) _).run _ os st).2.2 = _
  rw [Proc.run_act hstep rfl]
  cases r <;> rfl

theorem reachesAll_userMessage_iff (senderClientId : Int32) (message : String) :
    (userMessage senderClientId message).ReachesAll settings os st ↔
      (userMessage senderClientId message).Unbroken os st := by
  cases hsender : st.connectedClients.get senderClientId with
  | none =>
    have hnone : st.userRecipients (os 0).order senderClientId = none := by
      rw [State.userRecipients, hsender, Option.map_none]
    refine iff_of_true ⟨[], List.nodup_nil, fun l id => ?_, ?_⟩ fun clients hclients => ?_
    · simp [Intended, State.IsOn, hsender]
    · exact attempts_userMessage settings senderClientId message hnone
    · rw [hnone] at hclients
      cases hclients
  | some cd =>
    let p : ClientData → Bool := fun client => client.levelId = cd.levelId
    let addrs := ((st.connectedClients.entries (os 0).order).filter (p ·.2)).map (·.2.address)
    have hsome : st.userRecipients (os 0).order senderClientId = some addrs := by
      rw [State.userRecipients, hsender, Option.map_some]
    have hintended : ∀ l id, (l, id) ∈ st.targets (os 0).order p ↔
        (userMessage senderClientId message).Intended st l id := by
      intro l id
      simp only [State.mem_targets, Intended, State.IsOn, hsender, Option.some.injEq, p,
        decide_eq_true_eq, exists_eq_left']
      constructor
      · rintro ⟨cd', hcd', rfl, hlevel⟩
        exact ⟨hlevel.symm, cd', hcd', rfl⟩
      · rintro ⟨rfl, cd', hcd', hlevel⟩
        exact ⟨cd', hcd', hlevel, hlevel⟩
    have hattempts := attempts_userMessage settings senderClientId message hsome
    simp only [Unbroken, hsome, Option.some.injEq, forall_eq']
    by_cases hcut : message.utf8ByteSize ≤ 80 ∨ String.Pos.Raw.IsValid message ⟨80⟩
    · simp only [Option.elim_some, cutMessage_of_boundary hcut, Proc.ret_bind] at hattempts
      obtain ⟨hfirst, hall⟩ := attempts_sendAll settings st addrs
        (textMessage senderClientId (cutText message hcut)) fun i => os (i + 1)
      rw [← hattempts] at hfirst hall
      rw [reachesAll_iff_of_isPrefix hintended State.addresses_targets hfirst, and_iff_right hcut]
      exact hall
    · -- the cut panics before the first send, and the sender itself is one of the recipients
      have hmem : cd.address ∈ addrs := by
        refine List.mem_map.mpr ⟨(senderClientId, cd), List.mem_filter.mpr ⟨?_, ?_⟩, rfl⟩
        · exact FiniteMap.mem_entries.mpr hsender
        · simp [p]
      obtain ⟨addr, rest, hcons⟩ := List.exists_cons_of_ne_nil (List.ne_nil_of_mem hmem)
      simp only [Option.elim_some, hcons, Proc.forM_cons, cutMessage_of_not_boundary hcut,
        Proc.panic_bind] at hattempts
      have hnil : (userMessage senderClientId message).attempts settings os st = [] := hattempts
      have hfirst : (userMessage senderClientId message).attempts settings os st <+:
          addrs.map some := by
        rw [hnil]
        exact List.nil_prefix
      have hne : addrs.map some ≠ [] := fun h => by simp [List.map_eq_nil_iff.mp h] at hcons
      rw [reachesAll_iff_of_isPrefix hintended State.addresses_targets hfirst, hnil]
      exact iff_of_false hne.symm fun h => hcut h.1

end Fanout

end Broadcasts

/-! ## Ticks -/

section Ticks

variable {settings : ServerSettings} {os : Nat → Input} {st st' : State}

omit [Bytebuffer] in
/-- The levels, and the addresses of the clients, are the same. -/
def State.SameTargets (st st' : State) : Prop :=
  st'.levels = st.levels ∧ ∀ c, addressOf st' c = addressOf st c

omit [Bytebuffer] in
theorem State.SameTargets.tickLevel (h : st.SameTargets st') (o : IterOrder Int32) (levelId : Int32)
    (players : List Int32) : st.SameTargets (st'.tickLevel o levelId players).2 := by
  refine ⟨(st'.levels_tickLevel o levelId players).trans h.1, fun c => ?_⟩
  rw [← h.2 c]
  unfold State.tickLevel
  split
  · rw [addressOf, State.get_foldl_setLevelId, addressOf]
    split
    · cases st'.connectedClients.get c <;> rfl
    · rfl
  · rfl

/-- A send of a tick never ends the tick. -/
theorem attempt_sendTo (id : Int32) (buf : ByteBuffer) :
    ((sendTo id buf).attempt >>= fun (_ : Except Error Unit) => (.ret () : Task Unit)) =
      .act (.clientAddress id) fun address =>
        match address with
        | none => .ret ()
        | some addr => .act (.sendTo addr (asBytes buf)) fun _ => .ret () := by
  refine congrArg (Proc.act _) (funext fun address => ?_)
  cases address with
  | none => rfl
  | some addr => exact congrArg (Proc.act _) (funext fun sent => by cases sent <;> rfl)

/-- It goes to the address of the client, if the client is registered. -/
theorem run_attempt_sendTo (settings : ServerSettings) (os : Nat → Input) (st : State) (id : Int32)
    (buf : ByteBuffer) :
    ∃ log, ((sendTo id buf).attempt >>= fun (_ : Except Error Unit) => (.ret () : Task Unit)).run
        (server settings anyInput).machine os st = (.ret (), st, log) ∧
      Server.attempts log = [addressOf st id] := by
  have hstep : ∀ r, addressOf st id = r →
      (server settings anyInput).machine.step (os 0) (.clientAddress id) st = (r, st) :=
    fun _ hr => congrArg (·, st) hr
  rw [attempt_sendTo]
  cases haddr : addressOf st id with
  | none => exact ⟨_, Proc.run_act (hstep none haddr) rfl, rfl⟩
  | some addr => exact ⟨_, Proc.run_act (hstep (some addr) haddr) rfl, rfl⟩

/-- The players of one level. -/
theorem run_sendEach (settings : ServerSettings) (os : Nat → Input) (st : State)
    (players : List (Int32 × PlayerData)) (buf : ByteBuffer) :
    ∃ log, (players.forM fun (playerId, _) => do
        let _ ← ((sendTo playerId buf).attempt : Task (Except Error Unit))).run
        (server settings anyInput).machine os st = (.ret (), st, log) ∧
      Server.attempts log = players.map fun player => addressOf st player.1 := by
  induction players generalizing os with
  | nil => exact ⟨[], rfl, rfl⟩
  | cons player players ih =>
    obtain ⟨log, hrun, hlog⟩ := run_attempt_sendTo settings os st player.1 buf
    obtain ⟨log', hrun', hlog'⟩ := ih fun i => os (i + log.length)
    refine ⟨log ++ log', ?_, ?_⟩
    · exact (Proc.run_bind_of_ret hrun).trans (by rw [hrun'])
    · rw [attempts_append, hlog, hlog', List.map_cons, List.singleton_append]

/-- One level of a tick. -/
def tickGroup (group : Int32 × List Int32) : Task Unit := do
  match ← perform (.tickLevel group.1 group.2) with
  | none => pure ()
  | some level => level.forM fun (playerId, _) => do
    let _ ← ((sendTo playerId (levelDataPacket level)).attempt : Task (Except Error Unit))

theorem tick_eq : tick = .act .levelToPlayers fun groups => groups.forM tickGroup := by
  refine congrArg (Proc.act _) (funext fun groups => ?_)
  change List.forM groups _ = _
  congr 1
  refine funext fun group => congrArg (Proc.act _) (funext fun level => ?_)
  cases level <;> rfl

theorem run_tickGroup (settings : ServerSettings) (os : Nat → Input) (h : st.SameTargets st')
    (group : Int32 × List Int32) :
    ∃ (ids : List Int32) (st'' : State) (log : List (Event Action.Answer)),
      (tickGroup group).run (server settings anyInput).machine os st' = (.ret (), st'', log) ∧
      st.SameTargets st'' ∧ ids.Nodup ∧
      (∀ id, id ∈ ids ↔ (st.entry group.1 id).isSome = true) ∧
      Server.attempts log = ids.map (addressOf st) := by
  have hsame := h.tickLevel (os 0).order group.1 group.2
  cases hlevel : st'.levels.get group.1 with
  | none =>
    have hstep : (server settings anyInput).machine.step (os 0) (.tickLevel group.1 group.2) st' =
        (none, (st'.tickLevel (os 0).order group.1 group.2).2) := by
      refine Prod.ext ?_ rfl
      change (st'.tickLevel _ _ _).1 = _
      rw [State.tickLevel, hlevel]
    refine ⟨[], _, _, Proc.run_act hstep rfl, hsame, List.nodup_nil, fun id => ?_, rfl⟩
    rw [State.entry, ← h.1, hlevel]
    simp
  | some level =>
    let players := level.entries (os 0).order
    have hstep : (server settings anyInput).machine.step (os 0) (.tickLevel group.1 group.2) st' =
        (some players, (st'.tickLevel (os 0).order group.1 group.2).2) := by
      refine Prod.ext ?_ rfl
      change (st'.tickLevel _ _ _).1 = _
      rw [State.tickLevel, hlevel]
    obtain ⟨log, hrun, hlog⟩ := run_sendEach settings (fun i => os (i + 1))
      (st'.tickLevel (os 0).order group.1 group.2).2 players (levelDataPacket players)
    refine ⟨players.map Prod.fst, _, ⟨.tickLevel group.1 group.2, some players⟩ :: log, ?_, hsame,
      level.nodup_keys_entries _, fun id => ?_, ?_⟩
    · exact (Proc.run_act hstep rfl).trans (congrArg
        (fun out => (out.1, out.2.1, ⟨Action.tickLevel group.1 group.2, some players⟩ :: out.2.2))
        hrun)
    · rw [State.entry, ← h.1, hlevel, Option.bind_some, Option.isSome_iff_exists]
      simp [players]
    · change Server.attempts log = _
      rw [hlog, List.map_map]
      exact List.map_congr_left fun player _ => hsame.2 player.1

/-- The loop of a tick. -/
theorem run_tickGroups (settings : ServerSettings) (os : Nat → Input) (h : st.SameTargets st')
    {groups : List (Int32 × List Int32)} (hkeys : (groups.map Prod.fst).Nodup) :
    ∃ (targets : Targets) (st'' : State) (log : List (Event Action.Answer)),
      (groups.forM tickGroup).run (server settings anyInput).machine os st' = (.ret (), st'', log) ∧
      targets.Nodup ∧
      (∀ l id, (l, id) ∈ targets ↔ l ∈ groups.map Prod.fst ∧ (st.entry l id).isSome = true) ∧
      Server.attempts log = targets.map fun t => addressOf st t.2 := by
  induction groups generalizing os st' with
  | nil => exact ⟨[], st', [], rfl, List.nodup_nil, by simp, rfl⟩
  | cons group groups ih =>
    rw [List.map_cons, List.nodup_cons] at hkeys
    obtain ⟨hnew, hkeys⟩ := hkeys
    obtain ⟨ids, st₁, log, hrun, hsame, hids, hmem, hlog⟩ := run_tickGroup settings os h group
    obtain ⟨targets, st₂, log', hrun', htargets, hmem', hlog'⟩ :=
      ih (fun i => os (i + log.length)) hsame hkeys
    refine ⟨ids.map (group.1, ·) ++ targets, st₂, log ++ log', ?_, ?_, fun l id => ?_, ?_⟩
    · exact (Proc.run_bind_of_ret hrun).trans (by rw [hrun'])
    · rw [List.nodup_append']
      refine ⟨hids.map (Prod.mk_right_injective _), htargets, ?_⟩
      -- the level of this group is the level of no later one
      rintro ⟨l, id⟩ hfirst hlater
      obtain ⟨_, -, heq⟩ := List.mem_map.mp hfirst
      cases heq
      exact hnew ((hmem' _ _).mp hlater).1
    · rw [List.mem_append, hmem', List.map_cons, List.mem_cons, or_and_right]
      refine or_congr_left ?_
      simp only [List.mem_map, Prod.mk.injEq, exists_eq_right_right]
      constructor
      · rintro ⟨hid, rfl⟩
        exact ⟨rfl, (hmem id).mp hid⟩
      · rintro ⟨rfl, hid⟩
        exact ⟨(hmem id).mpr hid, rfl⟩
    · rw [attempts_append, hlog, hlog', List.map_append, List.map_map]
      rfl

omit [Bytebuffer] in
/-- The first loop of a tick, from the groups `m` on. -/
theorem isSome_get_groups (l : Int32) (es : List (Int32 × ClientData))
    (m : FiniteMap Int32 (List Int32)) :
    ((es.foldl (fun m e =>
        if e.2.levelId ≠ -1 then m.insert e.2.levelId ((m.get e.2.levelId).getD [] ++ [e.1])
        else m) m).get l).isSome = true ↔
      (m.get l).isSome = true ∨ l ≠ -1 ∧ ∃ e ∈ es, e.2.levelId = l := by
  induction es generalizing m with
  | nil => simp
  | cons e es ih =>
    rw [List.foldl_cons, ih]
    simp only [List.mem_cons, exists_eq_or_imp]
    by_cases hl : e.2.levelId = l
    · subst hl
      by_cases hone : e.2.levelId = -1 <;> simp [hone]
    · have hget : ((if e.2.levelId ≠ -1 then
          m.insert e.2.levelId ((m.get e.2.levelId).getD [] ++ [e.1]) else m).get l) =
            m.get l := by
        split
        · exact m.get_insert_of_ne _ (Ne.symm hl)
        · rfl
      simp only [hget, hl, false_or]

omit [Bytebuffer] in
/-- There is a group for each level that somebody is on. -/
theorem mem_keys_levelToPlayers (st : State) (o : IterOrder Int32) (l : Int32) :
    ((st.levelToPlayers o).get l).isSome = true ↔ l ≠ -1 ∧ ∃ c, st.IsOn l c := by
  refine (isSome_get_groups l (st.connectedClients.entries o) .empty).trans ?_
  simp [State.IsOn]

theorem Fanout.reachesAll_tick (settings : ServerSettings) (os : Nat → Input)
    (h : WireFree st.levels) : Fanout.tick.ReachesAll settings os st := by
  let groups := (st.levelToPlayers (os 0).order).entries (os 0).levelOrder
  have hkeys : (groups.map Prod.fst).Nodup := FiniteMap.nodup_keys_entries _ _
  obtain ⟨targets, st', log, hrun, hnodup, hmem, hlog⟩ :=
    run_tickGroups settings (fun i => os (i + 1)) (⟨rfl, fun _ => rfl⟩ : st.SameTargets st) hkeys
  refine ⟨targets, hnodup, fun l id => ?_, ?_⟩
  · rw [hmem, Fanout.Intended]
    refine and_congr_left fun hentry => ?_
    have hl : l ≠ -1 := by
      rintro rfl
      rw [State.entry, h.1] at hentry
      cases hentry
    rw [FiniteMap.map_fst_entries, IterOrder.mem, FiniteMap.mem_keys, mem_keys_levelToPlayers,
      and_iff_right hl]
  · have hstep : (server settings anyInput).machine.step (os 0) .levelToPlayers st =
        (groups, st) := rfl
    rw [Fanout.attempts, Fanout.task, tick_eq, Proc.run_act hstep hrun]
    exact hlog

end Ticks

/-! ## All loops -/

/-- **One client and the others**: in every state of every run, whatever the orders of the maps and
whichever sends fail, each of the three loops attempts exactly one send to every client that it is
for, if and only if it is not ended early: a tick never is, a broadcast is by a send that fails
before the last one, and a text message also by the cut of a message inside a character. -/
theorem fanout_reachesAll_iff {settings : ServerSettings} {inputs : Input → Prop}
    {sched : Schedule Action Action.Answer Error State Request}
    {conf : Config Action Action.Answer Error State Request}
    (h : (server settings inputs).Reach sched ⟨.new, []⟩ conf) (f : Fanout) (os : Nat → Input) :
    f.ReachesAll settings os conf.state ↔ f.Unbroken os conf.state := by
  cases f with
  | userMessage senderClientId message =>
    exact Fanout.reachesAll_userMessage_iff senderClientId message
  | levelMessage message color levelId =>
    exact Fanout.reachesAll_levelMessage_iff message color levelId
  | tick => exact iff_of_true (Fanout.reachesAll_tick settings os (wireFree_of_reach h)) trivial

/-- What is attempted on a stream of inputs, a tick of the server attempts in some run. -/
theorem exists_tick_attempts {settings : ServerSettings} {arrives : Request → Prop}
    (harrives : arrives .tick) (conf : Config Action Action.Answer Error State Request)
    (os : Nat → Input) :
    ∃ conf' j, (server settings anyInput).Reach (.anyOrder arrives) conf conf' ∧
      j ∈ conf'.jobs ∧ j.kind = .tick ∧ j.task.Ended ∧
      Server.attempts j.log = Fanout.tick.attempts settings os conf.state := by
  obtain ⟨st, jobs⟩ := conf
  obtain ⟨hruns, hended⟩ := @Proc.runs_run _ _ _ _ _ _ (server settings anyInput).machine os st
    (fun _ _ => trivial) tick
  have hstart : (server settings anyInput).Step (.anyOrder arrives) ⟨st, jobs⟩
      ⟨st, jobs ++ [(server settings anyInput).start .tick]⟩ := .start harrives
  have hrun : (server settings anyInput).Reach (.anyOrder arrives) _ _ :=
    System.reach_of_runs (fun _ _ _ _ => trivial) hruns .tick [] jobs []
  let out := tick.run (server settings anyInput).machine os st
  refine ⟨_, ⟨.tick, [] ++ out.2.2, out.1⟩, .head hstart hrun, ?_, rfl, hended, rfl⟩
  rw [List.append_assoc]
  exact List.mem_append_right _ List.mem_cons_self

section Clients7And8

omit [Bytebuffer]

/-- Clients 7 and 8 get on level 5. -/
theorem exists_clients_7_8_on_level_5 :
    letI := Bytebuffer.reference
    ∃ (conf : Config Action Action.Answer Error State Request) (cd₇ cd₈ : ClientData),
      (server ⟨30, 0, false, 60⟩ sendsSucceed).Reach (.serial Request.External) ⟨.new, []⟩ conf ∧
      conf.state.connectedClients = (FiniteMap.empty.insert 7 cd₇).insert 8 cd₈ ∧
      cd₇.levelId = 5 ∧ cd₈.levelId = 5 := by
  let := Bytebuffer.reference
  obtain ⟨st₁, cd₇, hreach₁, hclients₁, -, hlevel₇, -⟩ := exists_client_7_on_level_5
    (fun _ h => h) (external_packet checkIn7 peer7) (external_packet (entry7 5) peer7)
  obtain ⟨-, hdata, hvalid⟩ := decode_checkIn7
  have hfree : st₁.connectedClients.get 8 = none := by
    rw [hclients₁]
    rfl
  have hfull : ¬st₁.Full ⟨30, 0, false, 60⟩ := fun h => h.1 rfl
  obtain ⟨st₂, now, hreach₂, hclients₂⟩ := hreach₁.exists_checkedIn peer7
    (external_packet checkIn8 peer7) hfree hfull (by decide) decode_checkIn8 hdata hvalid
  have hget : st₂.connectedClients.get 8 = some (.checkedIn peer7 42 now data7) := by
    rw [hclients₂, FiniteMap.get_insert_self]
  have hx : Bytebuffer.readI32 (⟨[0, 0, 0, 5], 0⟩ : Bytes.BitReader) =
      some (5, (⟨[], 0⟩ : Bytes.BitReader)) := rfl
  obtain ⟨conf, hconf⟩ :=
    server_handles exists_sendsSucceed ⟨30, 0, false, 60⟩ st₂ (.packet (entry8 5) peer7)
  obtain ⟨hclients, -⟩ := handle_entry hreach₂ hget (decode_entry8 5) hx hconf
  obtain ⟨jobs, hreach, -⟩ := hreach₂.handle (external_packet (entry8 5) peer7) hconf
  refine ⟨⟨conf.state, jobs⟩, cd₇, { ClientData.checkedIn peer7 42 now data7 with levelId := 5 },
    hreach, ?_, hlevel₇, rfl⟩
  rw [hclients, hclients₂, hclients₁, FiniteMap.insert_insert_self]
  rfl

/-- A tick while clients 7 and 8 are on level 5. -/
theorem fanout_reachesAll_iff_tick :
    letI := Bytebuffer.reference
    ∃ (conf : Config Action Action.Answer Error State Request) (cd₇ cd₈ : ClientData),
      (server ⟨30, 0, false, 60⟩ sendsSucceed).Reach (.serial Request.External) ⟨.new, []⟩ conf ∧
      conf.state.connectedClients = (FiniteMap.empty.insert 7 cd₇).insert 8 cd₈ ∧
      ∀ os, Fanout.tick.ReachesAll ⟨30, 0, false, 60⟩ os conf.state ↔
        Fanout.tick.Unbroken os conf.state := by
  let := Bytebuffer.reference
  obtain ⟨conf, cd₇, cd₈, hreach, hclients, -, -⟩ := exists_clients_7_8_on_level_5
  exact ⟨conf, cd₇, cd₈, hreach, hclients, fun os => fanout_reachesAll_iff hreach .tick os⟩

/-- Client 7 says "hi" while clients 7 and 8 are on level 5, and the first of the two sends fails:
the message does not reach them both, whichever of them comes first. -/
theorem chat_ends_at_unreachable_client :
    letI := Bytebuffer.reference
    ∃ (conf : Config Action Action.Answer Error State Request) (cd₇ cd₈ : ClientData),
      (server ⟨30, 0, false, 60⟩ sendsSucceed).Reach (.serial Request.External) ⟨.new, []⟩ conf ∧
      conf.state.connectedClients.get 7 = some cd₇ ∧ cd₇.levelId = 5 ∧
      conf.state.connectedClients.get 8 = some cd₈ ∧ cd₈.levelId = 5 ∧
      ∀ os : Nat → Input, (∀ i, (os i).sent = true ↔ i ≠ 1) →
        ¬(Fanout.userMessage 7 "hi").ReachesAll ⟨30, 0, false, 60⟩ os conf.state := by
  let := Bytebuffer.reference
  obtain ⟨conf, cd₇, cd₈, hreach, hclients, hlevel₇, hlevel₈⟩ := exists_clients_7_8_on_level_5
  have hget₇ : conf.state.connectedClients.get 7 = some cd₇ := by
    rw [hclients]
    rfl
  have hget₈ : conf.state.connectedClients.get 8 = some cd₈ := by
    rw [hclients]
    rfl
  refine ⟨conf, cd₇, cd₈, hreach, hget₇, hlevel₇, hget₈, hlevel₈, fun os hos => ?_⟩
  rw [Fanout.reachesAll_userMessage_iff]
  intro hunbroken
  have hall : ∀ e ∈ conf.state.connectedClients.entries (os 0).order, e.2.levelId = 5 := by
    rintro ⟨id, cd⟩ he
    rw [FiniteMap.mem_entries, hclients, FiniteMap.get_insert, FiniteMap.get_insert] at he
    split at he
    · cases he
      exact hlevel₈
    · split at he
      · cases he
        exact hlevel₇
      · cases he
  have hlength : (conf.state.connectedClients.entries (os 0).order).length = 2 := by
    rw [FiniteMap.length_entries, hclients]
    rfl
  have hrecipients : conf.state.userRecipients (os 0).order 7 =
      some ((conf.state.connectedClients.entries (os 0).order).map (·.2.address)) := by
    rw [State.userRecipients, hget₇, Option.map_some, List.filter_eq_self.mpr]
    intro e he
    simp [hall e he, hlevel₇]
  obtain ⟨-, hlast⟩ := hunbroken _ hrecipients
  rw [List.length_map, hlength] at hlast
  exact (hos 1).mp (hlast 0 (by decide)) rfl

end Clients7And8

end Globed.Server
