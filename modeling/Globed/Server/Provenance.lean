import Globed.Base.Assured
import Globed.Server.Chat
import Globed.Server.Registry

/-!
# Where the data of players comes from

Whatever the order of the sections and whatever sends fail, the server makes nothing up: the data of
a player, wherever it is kept or sent, was decoded from a datagram that carried the player's id and
a key with which that id was checked in, and datagrams go only to addresses that datagrams came
from.
-/

namespace Globed.Server

open Concurrent Bytebuffer

variable [Bytebuffer]

/-! ## What has arrived -/

section Arrived

variable (arrives : Request → Prop)

/-- A datagram came from the address. -/
def Heard (addr : SocketAddr) : Prop := ∃ buf, arrives (.packet buf addr)

/-- A CheckIn came from the address, with this id and this key. -/
def CheckedInFrom (c : Int32) (addr : SocketAddr) (key : Int32) : Prop :=
  ∃ buf r, arrives (.packet buf addr) ∧ header buf = some (.checkIn, c, key, r)

/-- A packet came that has the id `c` and a key of a CheckIn with that id; `r` is what follows. -/
def Signed (ptype : ClientPacketKind) (c : Int32) (r : ByteReader) : Prop :=
  ∃ buf peer key addr, arrives (.packet buf peer) ∧ header buf = some (ptype, c, key, r) ∧
    CheckedInFrom arrives c addr key

/-- Account data of `c`: none yet, or that of a CheckIn of `c`, which was valid. -/
def AccountOf (c : Int32) (data : PlayerAccountData) : Prop :=
  data = .empty ∨ ∃ buf peer key r r', arrives (.packet buf peer) ∧
    header buf = some (.checkIn, c, key, r) ∧ PlayerAccountData.decode r = some (data, r') ∧
    data.isValid = true

/-- Data of `c`: none yet, or that of a signed packet of `c`. -/
def DataOf (c : Int32) (data : PlayerData) : Prop :=
  data = .empty ∨ ∃ r r', Signed arrives .userLevelData c r ∧
    PlayerData.decode r = some (data, r')

/-- A datagram that the server may send. -/
inductive Genuine : List UInt8 → Prop
  | checkedIn (settings : ServerSettings) : Genuine (asBytes (checkedIn settings))
  | serverDisconnect (message : String) : Genuine (asBytes (serverDisconnect message))
  | keepaliveResponse (clients : Nat) : Genuine (asBytes (keepaliveResponse clients))
  | levelListResponse (levels : List (Int32 × Nat)) : Genuine (asBytes (levelListResponse levels))
  | pingResponse {buf : List UInt8} {peer : SocketAddr} {number : UInt8} {r r' : ByteReader}
      {pingId : Int32} (h : arrives (.packet buf peer))
      (hnumber : readU8 (fromBytes buf) = some (number, r))
      (hping : ClientPacketKind.tryFrom number = some .ping) (hid : readI32 r = some (pingId, r'))
      (clients : Nat) : Genuine (asBytes (pingResponse pingId clients))
  | levelData {level : List (Int32 × PlayerData)} (h : ∀ e ∈ level, DataOf arrives e.1 e.2) :
      Genuine (asBytes (levelDataPacket level))
  | accountData {c : Int32} {data : PlayerAccountData} (h : AccountOf arrives c data) :
      Genuine (asBytes (playerAccountDataResponse c data))
  | textMessage {c : Int32} {r r' : ByteReader} {message text : String}
      (h : Signed arrives .sendTextMessage c r) (hm : readString r = some (message, r'))
      (hcut : cutMessage message = .ret text) : Genuine (asBytes (textMessage c text))
  | joined {c : Int32} {r : ByteReader} {data : PlayerAccountData}
      (h : Signed arrives .userLevelEntry c r) (hdata : AccountOf arrives c data) :
      Genuine (asBytes (serverBroadcast s!"{data.name} joined" (30, 200, 30)))
  | left {c : Int32} {r : ByteReader} {data : PlayerAccountData}
      (h : Signed arrives .userLevelExit c r) (hdata : AccountOf arrives c data) :
      Genuine (asBytes (serverBroadcast s!"{data.name} left" (200, 30, 30)))

/-- What an action brings with it, or sends, is genuine. -/
def Action.Genuine : Action → Prop
  | sendTo addr buf => Heard arrives addr ∧ Server.Genuine arrives buf
  | addClient c addr key => CheckedInFrom arrives c addr key
  | setPlayerData c data => AccountOf arrives c data
  | storePlayerData c _ data => DataOf arrives c data
  | _ => True

/-- What the server keeps is genuine. -/
structure State.Genuine (st : State) : Prop where
  session : ∀ c cd, st.connectedClients.get c = some cd →
    CheckedInFrom arrives c cd.address cd.secretKey ∧ AccountOf arrives c cd.playerData
  data : ∀ l c data, st.entry l c = some data → DataOf arrives c data

end Arrived

variable {arrives : Request → Prop} {settings : ServerSettings} {inputs : Input → Prop}
  {st : State} {c : Int32}

/-! ## Sections -/

omit [Bytebuffer] in
theorem playerData_of_modify {m : FiniteMap Int32 ClientData} {id : Int32}
    {f : ClientData → ClientData} {cd' : ClientData} (h : (m.modify id f).get c = some cd')
    (hf : ∀ cd, (f cd).playerData = cd.playerData) :
    ∃ cd, m.get c = some cd ∧ cd'.playerData = cd.playerData := by
  rw [FiniteMap.get_modify] at h
  split at h
  · obtain ⟨cd, hcd, rfl⟩ := Option.map_eq_some_iff.mp h
    exact ⟨cd, hcd, hf cd⟩
  · exact ⟨cd', h, rfl⟩

omit [Bytebuffer] in
/-- What a section leaves as the account data of a client. -/
theorem playerData_step (settings : ServerSettings) (o : Input) (a : Action) {cd' : ClientData}
    (h : (step settings o a st).2.connectedClients.get c = some cd') :
    (∃ cd, st.connectedClients.get c = some cd ∧ cd'.playerData = cd.playerData) ∨
      a = .setPlayerData c cd'.playerData ∨ cd'.playerData = .empty := by
  have hkept : (step settings o a st).2.connectedClients = st.connectedClients →
      ∃ cd, st.connectedClients.get c = some cd ∧ cd'.playerData = cd.playerData := by
    intro heq
    rw [heq] at h
    exact ⟨cd', h, rfl⟩
  cases a with
  | addClient id address key =>
    by_cases hno : st.connectedClients.contains id = true ∨ st.Full settings
    · obtain ⟨e, he⟩ := st.addClient_refused hno o.now address key
      rw [step, he] at h
      exact .inl ⟨cd', h, rfl⟩
    · rw [not_or] at hno
      rw [step, st.addClient_accepted hno.1 hno.2 o.now address key, FiniteMap.get_insert] at h
      split at h
      · cases h
        exact .inr (.inr rfl)
      · exact .inl ⟨cd', h, rfl⟩
  | takeClient id =>
    have hget : (st.connectedClients.erase id).get c = some cd' := h
    rw [FiniteMap.get_erase] at hget
    split at hget
    · cases hget
    · exact .inl ⟨cd', hget, rfl⟩
  | setPlayerData id data =>
    have hget : (st.connectedClients.modify id fun client => { client with playerData := data }).get
        c = some cd' := h
    rw [FiniteMap.get_modify] at hget
    split at hget
    · next hc =>
      obtain ⟨cd, -, rfl⟩ := Option.map_eq_some_iff.mp hget
      rw [hc]
      exact .inr (.inl rfl)
    · exact .inl ⟨cd', hget, rfl⟩
  | setLevelId id level => exact .inl (playerData_of_modify h fun _ => rfl)
  | exitLevel id => exact .inl (playerData_of_modify h fun _ => rfl)
  | keepalive id => exact .inl (playerData_of_modify h fun _ => rfl)
  | tickLevel level players =>
    have hget : (st.tickLevel o.order level players).2.connectedClients.get c = some cd' := h
    rw [State.get_tickLevel] at hget
    split at hget
    · obtain ⟨cd, hcd, rfl⟩ := Option.map_eq_some_iff.mp hget
      exact .inl ⟨cd, hcd, rfl⟩
    · exact .inl ⟨cd', hget, rfl⟩
  | insertIntoLevel id level => exact .inl (hkept (st.connectedClients_insertIntoLevel id level))
  | removeFromLevel id level => exact .inl (hkept (st.connectedClients_removeFromLevel id level))
  | storePlayerData id level data =>
    exact .inl (hkept (st.connectedClients_storePlayerData id level data))
  | _ => exact .inl (hkept rfl)

omit [Bytebuffer] in
/-- What a section leaves as the data of a client. -/
theorem data_step (settings : ServerSettings) (o : Input) (a : Action) {l : Int32}
    {data : PlayerData} (h : (step settings o a st).2.entry l c = some data) :
    st.entry l c = some data ∨ a = .storePlayerData c l data ∨ data = .empty := by
  cases a with
  | addClient id address key =>
    have hlevels := st.levels_addClient settings o.now id key address
    exact .inl ((State.entry_eq_of_levels hlevels l c).symm.trans h)
  | tickLevel level players =>
    have hlevels := st.levels_tickLevel o.order level players
    exact .inl ((State.entry_eq_of_levels hlevels l c).symm.trans h)
  | retainLevels => exact .inl ((st.entry_retainLevels l c).symm.trans h)
  | insertIntoLevel id level =>
    have hget := (st.entry_insertIntoLevel id level l c).symm.trans h
    split at hget
    · cases hget
      exact .inr (.inr rfl)
    · exact .inl hget
  | removeFromLevel id level =>
    have hget := (st.entry_removeFromLevel id level l c).symm.trans h
    split at hget
    · cases hget
    · exact .inl hget
  | storePlayerData id level data' =>
    have hget := (st.entry_storePlayerData id level data' l c).symm.trans h
    split at hget
    · next hc =>
      cases hget
      rw [hc.1.1, hc.1.2]
      exact .inr (.inl rfl)
    · exact .inl hget
  | _ => exact .inl h

/-- A genuine action leaves a genuine state. -/
theorem genuine_step (settings : ServerSettings) (o : Input) {a : Action}
    (ha : a.Genuine arrives) (h : st.Genuine arrives) :
    (step settings o a st).2.Genuine arrives where
  session c cd' hcd' := by
    constructor
    · rcases get_step settings o a hcd' with ⟨cd, hcd, hidentity⟩ | ⟨rfl, -⟩
      · rw [show cd'.address = cd.address from congrArg Prod.fst hidentity,
          show cd'.secretKey = cd.secretKey from congrArg Prod.snd hidentity]
        exact (h.session c cd hcd).1
      · exact ha
    · rcases playerData_step settings o a hcd' with ⟨cd, hcd, hdata⟩ | rfl | hempty
      · rw [hdata]
        exact (h.session c cd hcd).2
      · exact ha
      · exact .inl hempty
  data l c data hdata := by
    rcases data_step settings o a hdata with hentry | rfl | hempty
    · exact h.data l c data hentry
    · exact ha
    · exact .inl hempty

/-! ## Tasks -/

section Tasks

/-- The task only does what is genuine, as long as the state is. -/
abbrev Honest (arrives : Request → Prop) (settings : ServerSettings) (inputs : Input → Prop)
    {α : Type} (Q : α → Prop) (t : Task α) : Prop :=
  t.Assures (server settings inputs).machine (State.Genuine arrives) (Action.Genuine arrives) Q

theorem honest_sendBufTo {addr : SocketAddr} {buf : ByteBuffer} (haddr : Heard arrives addr)
    (hbuf : Genuine arrives (asBytes buf)) :
    Honest arrives settings inputs (fun _ => True) (sendBufTo addr buf) := by
  refine ⟨⟨haddr, hbuf⟩, fun o st _ _ => ?_⟩
  cases h : o.sent <;> simp only [server, step, h] <;> trivial

theorem CheckedInFrom.heard {addr : SocketAddr} {key : Int32}
    (h : CheckedInFrom arrives c addr key) : Heard arrives addr := by
  obtain ⟨buf, r, hbuf, -⟩ := h
  exact ⟨buf, hbuf⟩

/-- The address of a client is one that a datagram came from. -/
theorem State.Genuine.heard (h : st.Genuine arrives) {cd : ClientData}
    (hcd : st.connectedClients.get c = some cd) : Heard arrives cd.address :=
  (h.session c cd hcd).1.heard

theorem honest_sendTo {buf : ByteBuffer} (hbuf : Genuine arrives (asBytes buf)) :
    Honest arrives settings inputs (fun _ => True) (sendTo c buf) := by
  refine ⟨trivial, fun o st _ hst => ?_⟩
  simp only [server, step]
  cases hcd : st.connectedClients.get c with
  | none => trivial
  | some cd => exact honest_sendBufTo (hst.heard hcd) hbuf

theorem honest_read {α : Type} (d : Decoder ByteReader α) (r : ByteReader) :
    Honest arrives settings inputs (fun p => d r = some p) (read d r) := by
  unfold read
  cases hd : d r with
  | none => trivial
  | some p => rfl

omit [Bytebuffer] in
theorem Action.Sweeps.genuine [Bytebuffer] {a : Action} (h : a.Sweeps) : a.Genuine arrives := by
  cases a <;> first | exact h.elim | trivial

theorem honest_of_sweeps {α : Type} {t : Task α} (ht : t.Only Action.Sweeps) :
    Honest arrives settings inputs (fun _ => True) t :=
  .of_only ht fun _ => Action.Sweeps.genuine

theorem honest_sendAll {addrs : List SocketAddr} {buf : ByteBuffer}
    (haddrs : ∀ addr ∈ addrs, Heard arrives addr) (hbuf : Genuine arrives (asBytes buf)) :
    Honest arrives settings inputs (fun _ => True)
      (addrs.forM fun addr => sendBufTo addr buf) :=
  .forM fun addr haddr => honest_sendBufTo (haddrs addr haddr) hbuf

theorem State.Genuine.heard_of_mem (h : st.Genuine arrives) {o : IterOrder Int32}
    {p : Int32 × ClientData → Bool} :
    ∀ addr ∈ ((st.connectedClients.entries o).filter p).map (·.2.address),
      Heard arrives addr := by
  intro addr haddr
  obtain ⟨⟨c, cd⟩, hmem, rfl⟩ := List.mem_map.mp haddr
  exact h.heard (FiniteMap.mem_entries.mp (List.mem_filter.mp hmem).1)

theorem honest_broadcastMessage {message : String} {color : UInt8 × UInt8 × UInt8}
    {level : Option Int32} (hbuf : Genuine arrives (asBytes (serverBroadcast message color))) :
    Honest arrives settings inputs (fun _ => True) (broadcastMessage message color level) :=
  ⟨trivial, fun _ _ _ hst => honest_sendAll hst.heard_of_mem hbuf⟩

theorem honest_addClientToLevel (l : Int32) :
    Honest arrives settings inputs (fun _ => True) (addClientToLevel c l) := by
  refine ⟨trivial, fun o st _ _ => ?_⟩
  cases h : (st.insertIntoLevel c l).1 <;> simp only [server, step, h]
  · trivial
  · exact ⟨trivial, fun _ _ _ _ => trivial⟩

/-- The name that is told of a client is that of its account data. -/
theorem State.Genuine.name (h : st.Genuine arrives) {name : String} {l : Int32}
    (hfound : st.nameAndLevel c = some (name, l)) :
    ∃ data, AccountOf arrives c data ∧ data.name = name := by
  obtain ⟨cd, hcd, heq⟩ := Option.map_eq_some_iff.mp hfound
  exact ⟨cd.playerData, (h.session c cd hcd).2, congrArg Prod.fst heq⟩

variable {bbuf : ByteReader}

theorem honest_onUserlevelentry (hsigned : Signed arrives .userLevelEntry c bbuf) :
    Honest arrives settings inputs (fun _ => True) (onUserlevelentry c bbuf) := by
  refine ⟨trivial, fun o st _ hst => ?_⟩
  simp only [server, step]
  cases hfound : st.nameAndLevel c with
  | none => trivial
  | some p =>
    obtain ⟨name, l⟩ := p
    obtain ⟨data, hdata, rfl⟩ := hst.name hfound
    refine (honest_of_sweeps (sweeps_leaveLevel c l)).bind fun _ _ => ?_
    refine (honest_read readI32 bbuf).bind fun q _ => ?_
    exact (honest_broadcastMessage (.joined hsigned hdata)).bind fun _ _ =>
      honest_addClientToLevel _

theorem honest_onUserlevelexit (hsigned : Signed arrives .userLevelExit c bbuf) :
    Honest arrives settings inputs (fun _ => True) (onUserlevelexit c) := by
  refine ⟨trivial, fun o st _ hst => ?_⟩
  simp only [server, step, State.exitLevel]
  cases hfound : st.nameAndLevel c with
  | none => trivial
  | some p =>
    obtain ⟨name, l⟩ := p
    obtain ⟨data, hdata, rfl⟩ := hst.name hfound
    refine (honest_broadcastMessage (.left hsigned hdata)).bind fun _ _ => ?_
    have hleft : (removeClientFromLevel c l).Only Action.Sweeps := by
      refine ⟨trivial, fun found => ?_⟩
      cases found
      · trivial
      · exact ⟨trivial, fun _ => trivial⟩
    exact honest_of_sweeps hleft

/-- What is read of a level. -/
theorem State.Genuine.level (h : st.Genuine arrives) {l : Int32} {level : LevelData}
    (hl : st.levels.get l = some level) (o : IterOrder Int32) :
    ∀ e ∈ level.entries o, DataOf arrives e.1 e.2 := by
  intro e he
  apply h.data l
  rw [State.entry, hl, Option.bind_some]
  exact FiniteMap.mem_entries.mp he

theorem honest_answerLevel (l : Int32) :
    Honest arrives settings inputs (fun _ => True) (answerLevel settings c l) := by
  unfold answerLevel
  split
  · refine ⟨trivial, fun o st _ hst => ?_⟩
    simp only [server, step, State.levelEntries]
    cases hl : st.levels.get l with
    | none => trivial
    | some level => exact honest_sendTo (.levelData (hst.level hl o.order))
  · trivial

theorem honest_updateLevel {spectating : Bool} (l : Int32)
    (hsigned : spectating = false → Signed arrives .userLevelData c bbuf) :
    Honest arrives settings inputs (fun _ => True) (updateLevel c l spectating bbuf) := by
  cases spectating with
  | true => trivial
  | false =>
    refine (honest_read PlayerData.decode bbuf).bind fun p hdata => ?_
    dsimp only
    split
    · refine ⟨.inr ⟨bbuf, p.2, hsigned rfl, hdata⟩, fun o st _ _ => ?_⟩
      cases h : (st.storePlayerData c l p.1).1 <;> simp only [server, step, h] <;> trivial
    · trivial

theorem honest_onUpdatedata {spectating : Bool}
    (hsigned : spectating = false → Signed arrives .userLevelData c bbuf) :
    Honest arrives settings inputs (fun _ => True) (onUpdatedata settings c spectating bbuf) := by
  refine ⟨trivial, fun o st _ _ => ?_⟩
  simp only [server, step]
  cases st.connectedClients.get c with
  | none => trivial
  | some cd =>
    exact (honest_updateLevel cd.levelId hsigned).bind fun _ _ => honest_answerLevel cd.levelId

theorem honest_onPlayeraccountdatarequest :
    Honest arrives settings inputs (fun _ => True) (onPlayeraccountdatarequest c bbuf) := by
  refine (honest_read readI32 bbuf).bind fun p _ => ⟨trivial, fun o st _ hst => ?_⟩
  simp only [server, step]
  cases hcd : st.connectedClients.get p.1 with
  | none => trivial
  | some cd => exact honest_sendTo (.accountData (hst.session p.1 cd hcd).2)

theorem honest_onSendtextmessage (hsigned : Signed arrives .sendTextMessage c bbuf) :
    Honest arrives settings inputs (fun _ => True) (onSendtextmessage c bbuf) := by
  unfold onSendtextmessage
  cases hm : readString bbuf with
  | none => trivial
  | some p =>
    obtain ⟨message, rest⟩ := p
    refine ⟨trivial, fun _ _ _ _ => ⟨trivial, fun o st _ hst => ?_⟩⟩
    simp only [server, step, State.userRecipients]
    cases st.connectedClients.get c with
    | none => trivial
    | some cd =>
      refine Proc.Assures.forM fun addr haddr => ?_
      cases hcut : cutMessage message with
      | ret text =>
        exact honest_sendBufTo (hst.heard_of_mem addr haddr) (.textMessage hsigned hm hcut)
      | act a k =>
        -- the cut performs no action
        rw [cutMessage] at hcut
        split at hcut
        · rw [sliceTo] at hcut
          split at hcut <;> cases hcut
        · cases hcut
      | _ => trivial

theorem honest_handleCheckIn {buf : List UInt8} {peer : SocketAddr} {key : Int32}
    (har : arrives (.packet buf peer)) (hheader : header buf = some (.checkIn, c, key, bbuf)) :
    Honest arrives settings inputs (fun _ => True) (handleCheckIn settings c key peer bbuf) := by
  have hpeer : Heard arrives peer := ⟨buf, har⟩
  refine ⟨⟨buf, bbuf, har, hheader⟩, fun o st _ _ => ?_⟩
  cases hadded : (st.addClient settings o.now c peer key).1 <;>
    simp only [server, step, hadded]
  · exact honest_sendBufTo hpeer (.serverDisconnect _)
  · refine (honest_read PlayerAccountData.decode bbuf).bind fun p hdata => ?_
    cases hvalid : p.1.isValid with
    | false =>
      simp only [Bool.not_false, if_true]
      exact (honest_sendBufTo hpeer (.serverDisconnect _)).bind fun _ _ =>
        ⟨trivial, fun _ _ _ _ => trivial⟩
    | true =>
      simp only [Bool.not_true, Bool.false_eq_true, if_false]
      refine ⟨.inr ⟨buf, peer, key, bbuf, p.2, har, hheader, hdata, hvalid⟩, fun o₁ st₁ _ _ => ?_⟩
      cases hfound : (st₁.setPlayerData c p.1).1 <;> simp only [server, step, hfound]
      · trivial
      · exact honest_sendTo (.checkedIn settings)

theorem honest_dispatch {ptype : ClientPacketKind} (hsigned : Signed arrives ptype c bbuf) :
    Honest arrives settings inputs (fun _ => True) (dispatch settings ptype c bbuf) := by
  cases ptype with
  | keepalive => exact ⟨trivial, fun _ _ _ _ => honest_sendTo (.keepaliveResponse _)⟩
  | disconnect => exact honest_of_sweeps ((sweeps_removeClient c).bind fun _ => trivial)
  | userLevelEntry => exact honest_onUserlevelentry hsigned
  | userLevelExit => exact honest_onUserlevelexit hsigned
  | userLevelData => exact honest_onUpdatedata fun _ => hsigned
  | spectateNoData => exact honest_onUpdatedata fun h => nomatch h
  | playerAccountDataRequest => exact honest_onPlayeraccountdatarequest
  | levelListRequest => exact ⟨trivial, fun _ _ _ _ => honest_sendTo (.levelListResponse _)⟩
  | sendTextMessage => exact honest_onSendtextmessage hsigned
  | ping => trivial
  | checkIn => trivial

/-- A packet that passes the key check is signed. -/
theorem honest_serve {ptype : ClientPacketKind} {buf : List UInt8} {peer : SocketAddr} {key : Int32}
    (har : arrives (.packet buf peer)) (hheader : header buf = some (ptype, c, key, bbuf)) :
    Honest arrives settings inputs (fun _ => True) (serve settings ptype c key peer bbuf) := by
  have hpeer : Heard arrives peer := ⟨buf, har⟩
  by_cases hid : c = 0
  · rw [serve, if_pos hid]
    exact honest_sendBufTo hpeer (.serverDisconnect _)
  by_cases hp : ptype = .checkIn
  · subst hp
    rw [serve, if_neg hid, if_pos rfl]
    exact honest_handleCheckIn har hheader
  rw [serve_verified peer bbuf hid hp]
  refine ⟨trivial, fun o st _ hst => ?_⟩
  have haway : ∀ err, Honest arrives settings inputs (fun _ => True) (turnAway peer err) :=
    fun err => (honest_sendBufTo hpeer (.serverDisconnect _)).bind fun _ _ => trivial
  simp only [server, step, State.verifySecretKey]
  cases hcd : st.connectedClients.get c with
  | none => exact haway _
  | some cd =>
    by_cases hkey : cd.secretKey = key
    · simp only [hkey, ne_eq, not_true_eq_false, if_false]
      have hchecked : CheckedInFrom arrives c cd.address key := hkey ▸ (hst.session c cd hcd).1
      exact honest_dispatch ⟨buf, peer, key, cd.address, har, hheader, hchecked⟩
    · simp only [ne_eq, hkey, not_false_eq_true, if_true]
      exact haway _

theorem honest_handlePacket {buf : List UInt8} {peer : SocketAddr}
    (har : arrives (.packet buf peer)) :
    Honest arrives settings inputs (fun _ => True) (handlePacket settings buf peer) := by
  rcases header_cases buf with ⟨ptype, c, key, bbuf, hheader, -, hserve⟩ | ⟨hheader, -⟩
  · rw [hserve]
    exact honest_serve har hheader
  rcases headless_cases hheader settings peer with
    ⟨number, r, hnumber, hping, hhandle⟩ | ⟨hended, -⟩
  · rw [hhandle]
    refine (honest_read readI32 r).bind fun p hid => ⟨trivial, fun _ _ _ _ => ?_⟩
    exact honest_sendBufTo ⟨buf, har⟩ (.pingResponse har hnumber hping hid _)
  · revert hended
    cases handlePacket settings buf peer with
    | act a k => exact False.elim
    | _ => exact fun _ => trivial

theorem honest_tick : Honest arrives settings inputs (fun _ => True) tick := by
  refine ⟨trivial, fun o st _ _ => .forM fun group _ => ⟨trivial, fun o₁ st₁ _ hst₁ => ?_⟩⟩
  simp only [server, step, State.tickLevel]
  cases hl : st₁.levels.get group.1 with
  | none => trivial
  | some level =>
    have hbuf : Genuine arrives (asBytes (levelDataPacket (level.entries o₁.order))) :=
      .levelData (hst₁.level hl o₁.order)
    refine Proc.Assures.forM fun player _ => ?_
    exact (honest_sendTo hbuf).attempt.bind fun _ _ => trivial

end Tasks

/-! ## Runs -/

/-- **Provenance**: in every run, whatever the order of the sections, the datagrams that arrive and
the sends that fail, the server keeps nothing and sends nothing that is not genuine, and it sends
only to addresses that datagrams came from. -/
theorem run_genuine {conf : Config Action Action.Answer Error State Request}
    (h : (server settings inputs).Reach (.anyOrder arrives) ⟨.new, []⟩ conf) :
    conf.state.Genuine arrives ∧ ∀ j ∈ conf.jobs, ∀ addr buf sent,
      ⟨.sendTo addr buf, sent⟩ ∈ j.log → Heard arrives addr ∧ Genuine arrives buf := by
  have htask : ∀ k : Request, arrives k →
      Honest arrives settings inputs (fun _ => True) (k.task settings) := by
    intro k hk
    cases k with
    | packet buf peer => exact honest_handlePacket hk
    | sweep => exact honest_of_sweeps sweeps_removeDeadClients
    | tick => exact honest_tick
    | removeEmptyLevels => exact ⟨trivial, fun _ _ _ _ => trivial⟩
  have hspawned : ∀ e, ∀ k ∈ spawned e,
      Honest arrives settings inputs (fun _ => True) (k.task settings) := by
    intro e k hk
    obtain ⟨rfl, -⟩ := spawned_eq hk
    exact ⟨trivial, fun _ _ _ _ => trivial⟩
  have hnew : State.new.Genuine arrives :=
    ⟨fun _ _ hcd => (nomatch hcd), fun _ _ _ hdata => (nomatch hdata)⟩
  obtain ⟨hstate, hjobs⟩ := System.Reach.assured
    (fun a o st ha _ hst => genuine_step settings o ha hst) (fun _ _ k hk => htask k hk)
    hspawned h hnew
  exact ⟨hstate, fun j hj addr buf sent hsent => (hjobs j hj).2 _ hsent⟩

omit [Bytebuffer] in
/-- Where only client 7 sends, it is the only one that is sent to. -/
theorem run_genuine_client_7 :
    letI := Bytebuffer.reference
    let arrives : Request → Prop := fun k =>
      k = .packet checkIn7 peer7 ∨ k = .packet (entry7 5) peer7
    ∃ conf : Config Action Action.Answer Error State Request,
      (server ⟨30, 0, false, 60⟩ sendsSucceed).Reach (.anyOrder arrives) ⟨.new, []⟩ conf ∧
      conf.state.entry 5 7 = some .empty ∧ conf.state.Genuine arrives ∧
      ∀ j ∈ conf.jobs, ∀ addr buf sent, ⟨.sendTo addr buf, sent⟩ ∈ j.log → addr = peer7 := by
  let := Bytebuffer.reference
  intro arrives
  obtain ⟨st, cd, ⟨jobs, hserial, -⟩, -, -, -, hentry⟩ :=
    @exists_client_7_on_level_5 sendsSucceed arrives (fun _ h => h) (.inl rfl) (.inr rfl)
  have hreach := hserial.of_serial
  obtain ⟨hstate, hsends⟩ := run_genuine hreach
  refine ⟨_, hreach, hentry, hstate, fun j hj addr buf sent hsent => ?_⟩
  obtain ⟨⟨buf', hbuf'⟩, -⟩ := hsends j hj addr buf sent hsent
  rcases hbuf' with heq | heq <;> cases heq <;> rfl

end Globed.Server
