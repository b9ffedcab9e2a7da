import Globed.Server.CheckIn

/-!
# The server as one table

What the server is for, without locks, tasks and the second map: a table of the clients that are
checked in, in which each client has at most one set of data that the others on its level see. A
level is the clients that are seen on it. Each request is one step of the table.
-/

namespace Globed.Server

open Bytebuffer

/-- A client that is checked in, and the data that is seen of it on the level of its record. -/
structure Session where
  client : ClientData
  seen : Option PlayerData

abbrev Table := FiniteMap Int32 Session

namespace Table

variable (t : Table)

/-- Somebody is seen on the level. -/
def Occupied (levelId : Int32) : Prop :=
  ∃ c ∈ t.keys, (t.get c).any (fun s => s.client.levelId = levelId ∧ s.seen.isSome) = true

instance (levelId : Int32) : Decidable (t.Occupied levelId) := by
  unfold Occupied
  infer_instance

theorem occupied_iff {t : Table} {levelId : Int32} : t.Occupied levelId ↔
    ∃ c s, t.get c = some s ∧ s.client.levelId = levelId ∧ s.seen.isSome = true := by
  unfold Occupied
  constructor
  · rintro ⟨c, -, h⟩
    cases hs : t.get c with
    | none =>
      rw [hs] at h
      cases h
    | some s =>
      rw [hs, Option.any_some, decide_eq_true_eq] at h
      exact ⟨c, s, hs, h⟩
  · rintro ⟨c, s, hs, hl, hseen⟩
    refine ⟨c, (t.mem_keys c).mpr (by rw [hs]; rfl), ?_⟩
    simp [hs, hl, hseen]

/-- The level, as the clients that are seen on it. -/
def level (levelId : Int32) : LevelData :=
  t.filterMap fun _ s => if s.client.levelId = levelId then s.seen else none

/-- The levels on which somebody is seen. -/
def levels : FiniteMap Int32 LevelData where
  get levelId := if t.Occupied levelId then some (t.level levelId) else none
  keys := (t.keys.image fun c => ((t.get c).map (·.client.levelId)).getD (-1)).filter t.Occupied
  mem_keys levelId := by
    rw [Finset.mem_filter]
    constructor
    · rintro ⟨-, h⟩
      rw [if_pos h]
      rfl
    · intro h
      have hoccupied : t.Occupied levelId := by
        by_contra hnot
        rw [if_neg hnot] at h
        cases h
      obtain ⟨c, s, hs, hl, -⟩ := occupied_iff.mp hoccupied
      refine ⟨Finset.mem_image.mpr ⟨c, (t.mem_keys c).mpr (by rw [hs]; rfl), ?_⟩, hoccupied⟩
      rw [hs]
      exact hl

/-- There is no room for another client. -/
def Full (settings : ServerSettings) : Prop :=
  settings.maxClients ≠ 0 ∧ Int32.ofNat t.size ≥ settings.maxClients

instance (settings : ServerSettings) : Decidable (t.Full settings) := by
  unfold Full
  infer_instance

/-- The client was last heard of too long ago. -/
def Dead (settings : ServerSettings) (now : SystemTime) (client : ClientData) : Prop :=
  (now.durationSince client.lastKeepaliveTime).getD (settings.kickDuration + .fromSecs 1) >
    settings.kickDuration

instance (settings : ServerSettings) (now : SystemTime) (client : ClientData) :
    Decidable (Dead settings now client) := by
  unfold Dead
  infer_instance

/-! ## Steps -/

def sweep (settings : ServerSettings) (now : SystemTime) : Table :=
  t.retain fun _ s => !decide (Dead settings now s.client)

/-- A client that a level is lost to is on no level any more. -/
def tick : Table :=
  t.map fun _ s =>
    if s.client.levelId ≠ -1 ∧ ¬t.Occupied s.client.levelId then
      { s with client := { s.client with levelId := -1 } }
    else s

variable [Bytebuffer]

/-- A CheckIn with an id that is not 0. What cannot be decoded leaves the client with empty data. -/
def checkIn (settings : ServerSettings) (now : SystemTime) (c key : Int32) (peer : SocketAddr)
    (bbuf : ByteReader) : Table :=
  if t.contains c = true ∨ t.Full settings then t
  else
    match PlayerAccountData.decode bbuf with
    | none => t.insert c ⟨.checkedIn peer key now .empty, none⟩
    | some (data, _) =>
      if data.isValid then t.insert c ⟨.checkedIn peer key now data, none⟩ else t

/-- A packet of the client `c`, whose session is `s`. -/
def obey (now : SystemTime) (c : Int32) (s : Session) (bbuf : ByteReader) :
    ClientPacketKind → Table
  | .keepalive => t.insert c { s with client := { s.client with lastKeepaliveTime := now } }
  | .disconnect => t.erase c
  | .userLevelEntry =>
    match readI32 bbuf with
    | some (x, _) => t.insert c ⟨{ s.client with levelId := levelIdOfPacket x }, some .empty⟩
    -- the client has left its level by the time the level id is read
    | none => t.insert c { s with seen := none }
  | .userLevelExit => t.insert c ⟨{ s.client with levelId := -1 }, none⟩
  | .userLevelData =>
    match PlayerData.decode bbuf with
    | some (data, _) =>
      if t.Occupied s.client.levelId then t.insert c { s with seen := some data } else t
    | none => t
  | _ => t

def packet (settings : ServerSettings) (now : SystemTime) (buf : List UInt8) (peer : SocketAddr) :
    Table :=
  match header buf with
  | none => t
  | some (ptype, c, key, bbuf) =>
    if c = 0 then t
    else if ptype = .checkIn then t.checkIn settings now c key peer bbuf
    else
      match t.get c with
      | some s => if s.client.secretKey = key then t.obey now c s bbuf ptype else t
      | none => t

/-- The table after a request that is handled at the time `now`. -/
def serve (settings : ServerSettings) (now : SystemTime) : Request → Table
  | .packet buf peer => t.packet settings now buf peer
  | .sweep => t.sweep settings now
  | .tick => t.tick
  | .removeEmptyLevels => t

/-- The table after requests, each of which comes with the time when it is handled. -/
def run (settings : ServerSettings) (ks : List (Request × SystemTime)) : Table :=
  ks.foldl (fun t k => t.serve settings k.2 k.1) t

@[simp] theorem run_nil (settings : ServerSettings) : t.run settings [] = t := rfl

theorem run_append (settings : ServerSettings) (ks ks' : List (Request × SystemTime)) :
    t.run settings (ks ++ ks') = (t.run settings ks).run settings ks' :=
  List.foldl_append

end Table

/-! ## The table of a state -/

/-- What the two maps say of a client, as a session. -/
def Session.ofView (v : Option ClientData × (Int32 → Option PlayerData)) : Option Session :=
  v.1.map fun client => ⟨client, v.2 client.levelId⟩

@[simp] theorem Session.ofView_none (entries : Int32 → Option PlayerData) :
    Session.ofView (none, entries) = none := rfl

@[simp] theorem Session.ofView_some (client : ClientData) (entries : Int32 → Option PlayerData) :
    Session.ofView (some client, entries) = some ⟨client, entries client.levelId⟩ := rfl

def State.table (st : State) : Table :=
  st.connectedClients.map fun c client => ⟨client, st.entry client.levelId c⟩

theorem State.get_table (st : State) (c : Int32) :
    st.table.get c = Session.ofView (st.view c) := rfl

/-- The two maps that a table stands for. -/
def Table.state (t : Table) : State := ⟨t.levels, t.map fun _ s => s.client⟩

@[simp] theorem State.table_new : State.new.table = .empty :=
  FiniteMap.ext fun _ => rfl

end Globed.Server
