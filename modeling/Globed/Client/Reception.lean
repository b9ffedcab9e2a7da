import Globed.Client.GameSocket

/-!
# What the client reads off a packet

`Parses` says what a part of `recvPacket` does with bytes that it expects: which value it yields,
and how it changes the state of the client. There is one lemma for each kind of packet.
-/

namespace Globed.Client

open Bytes Calls

/-- From the bytes `bs`, wherever they stand in a buffer, `d` reads `x` and nothing more, and the
world `w` becomes `w'`. -/
def Parses {α : Type} (t : Target) (d : Parse α) (w : World) (bs : List UInt8) (x : α)
    (w' : World) : Prop :=
  ∀ data pre rest, data = pre ++ (bs ++ rest) → data.length < 2 ^ t.sizeBits →
    d ⟨data, pre.length⟩ w = (.ok (x, ⟨data, pre.length + bs.length⟩), w')

namespace Parses

variable {t : Target} {env : Env} {α β : Type} {w w' w'' : World}

theorem pure (x : α) : Parses t (Pure.pure x) w [] x w := fun _ _ _ _ _ => rfl

theorem bind {d : Parse α} {f : α → Parse β} {bs bs' : List UInt8} {x : α} {y : β}
    (hd : Parses t d w bs x w') (hf : Parses t (f x) w' bs' y w'') :
    Parses t (d >>= f) w (bs ++ bs') y w'' := by
  intro data pre rest hdata hlen
  have h₁ := hd data pre (bs' ++ rest) (by rw [hdata, List.append_assoc]) hlen
  have h₂ := hf data (pre ++ bs) rest (by rw [hdata, List.append_assoc, List.append_assoc]) hlen
  rw [List.length_append] at h₂
  rw [List.length_append, ← Nat.add_assoc]
  exact (Call.bind_of_ok h₁ _).trans h₂

/-- A step that only reads from the buffer. -/
theorem bindRead {d : Reader α} {f : α → Parse β} {bs bs' : List UInt8} {x : α} {y : β}
    (hd : Reads t d bs x) (hf : Parses t (f x) w bs' y w') :
    Parses t (liftM d >>= f) w (bs ++ bs') y w' := by
  have hread : Parses t (liftM d) w bs x w := by
    intro data pre rest hdata hlen
    have h : (liftM d : Parse α) ⟨data, pre.length⟩ w = (d ⟨data, pre.length⟩, w) := rfl
    rw [h, hd data pre rest hdata hlen]
  exact hread.bind hf

/-- A step that does not touch the buffer. -/
theorem bindCall {c : Net α} {f : α → Parse β} {bs : List UInt8} {x : α} {y : β}
    (hc : c w = (.ok x, w')) (hf : Parses t (f x) w' bs y w'') :
    Parses t (liftM c >>= f) w bs y w'' := by
  have hcall : Parses t (liftM c) w [] x w' :=
    fun _ _ _ _ _ => Call.bind_of_ok hc _
  exact hcall.bind hf

theorem bindOk {d : Except Failure α} {f : α → Parse β} {bs : List UInt8} {x : α} {y : β}
    (hd : d = .ok x) (hf : Parses t (f x) w bs y w') : Parses t (liftM d >>= f) w bs y w' := by
  subst hd
  exact hf

/-- The last step reads from the buffer. -/
theorem mapRead {d : Reader α} {bs : List UInt8} {x : α} (hd : Reads t d bs x) (f : α → β) :
    Parses t (liftM d >>= fun x => Pure.pure (f x)) w bs (f x) w := by
  have h := bindRead (f := fun x => Pure.pure (f x)) hd (pure (w := w) (f x))
  rwa [List.append_nil] at h

/-- A packet that is read to its last byte. -/
theorem whole {d : Parse α} {bs : List UInt8} {x : α} (h : Parses t d w bs x w')
    (hlen : bs.length < 2 ^ 32) : d (.ofBytes bs) w = (.ok (x, ⟨bs, bs.length⟩), w') := by
  have hrun := h bs [] [] (by simp) (t.lt_two_pow_sizeBits hlen)
  rwa [List.length_nil, Nat.zero_add] at hrun

end Parses

namespace GameSocket

variable {env : Env} {w w' : World}

theorem parses_packet {packetType : PacketType} {bs : List UInt8} {pkt : RecvPacket}
    (h : Parses env.target (parseBody env packetType) w bs pkt w') :
    Parses env.target (parsePacket env) w (ptToNumber packetType :: bs) pkt w' := by
  apply Parses.bindRead (Reads.readU8 _)
  apply Parses.bindOk (numberToPt_ptToNumber packetType)
  exact h

/-- The first byte is the number of the type. -/
theorem parsePacket_cons {b : UInt8} {bs : List UInt8} (hlen : (b :: bs).length ≤ 65536)
    (w : World) :
    parsePacket env (.ofBytes (b :: bs)) w =
      (liftM (numberToPt b) >>= parseBody env : Parse RecvPacket) ⟨b :: bs, 1⟩ w := by
  have hsize : (b :: bs).length < 2 ^ env.target.sizeBits :=
    env.target.lt_two_pow_sizeBits (by omega)
  have hread := Reads.readU8 (t := env.target) b (b :: bs) [] bs rfl hsize
  have hlift : (liftM (readU8 env.target) : Parse UInt8) (.ofBytes (b :: bs)) w =
      (.ok (b, ⟨b :: bs, 1⟩), w) := congrArg (fun r => (r, w)) hread
  exact Call.bind_of_ok hlift _

/-- What is received is parsed. -/
theorem recvPacket_eq {bs : List UInt8} (hne : bs ≠ []) (hlen : bs.length ≤ 65536)
    (source : SockAddr) (w : World) :
    recvPacket env (some ⟨source, bs⟩) w =
      (parsePacket env (.ofBytes bs) >>= fun p => pure p.1) (w.heardFrom source) := by
  have hreceive : UdpSocket.receive 65536 (some ⟨source, bs⟩) w =
      (.ok (some bs), w.heardFrom source) := by
    have htake : bs.take 65536 = bs := List.take_of_length_le hlen
    change (Except.ok (some (bs.take 65536)), w.heardFrom source) = _
    rw [htake]
  rw [recvPacket, Call.bind_of_ok hreceive]
  cases bs with
  | nil => exact absurd rfl hne
  | cons b bs => rfl

/-- Of a longer datagram, what fits the buffer is received. -/
theorem recvPacket_take (datagram : Datagram) :
    recvPacket env (some ⟨datagram.source, datagram.data.take 65536⟩) =
      recvPacket env (some datagram) := by
  have hreceive : UdpSocket.receive 65536 (some ⟨datagram.source, datagram.data.take 65536⟩) =
      UdpSocket.receive 65536 (some datagram) := by
    simp [UdpSocket.receive, List.take_take]
  rw [recvPacket, hreceive, recvPacket]

/-- The buffer holds the start of a datagram. -/
theorem take_cons {datagram : Datagram} {b : UInt8} (hhead : datagram.data.head? = some b) :
    ∃ bs, datagram.data.take 65536 = b :: bs ∧ (b :: bs).length ≤ 65536 := by
  have hlen : (datagram.data.take 65536).length ≤ 65536 := List.length_take_le _ _
  cases hdata : datagram.data with
  | nil => simp [hdata] at hhead
  | cons b' bs =>
    rw [hdata] at hhead hlen
    obtain rfl := Option.some.inj hhead
    exact ⟨bs.take 65535, rfl, hlen⟩

/-- A datagram is dropped if it is empty, and otherwise parsed from its second byte on, after its
first byte. -/
theorem recvPacket_head (env : Env) (datagram : Datagram) (w : World) :
    (datagram.data.head? = none ∧ recvPacket env (some datagram) w =
        (.error (.runtimeError "failed to receive()"), w.heardFrom datagram.source)) ∨
      ∃ b bs, datagram.data.head? = some b ∧ recvPacket env (some datagram) w =
        ((liftM (numberToPt b) >>= parseBody env : Parse RecvPacket) ⟨b :: bs, 1⟩ >>= fun p =>
          pure p.1) (w.heardFrom datagram.source) := by
  cases hhead : datagram.data.head? with
  | none =>
    refine .inl ⟨rfl, ?_⟩
    rw [← recvPacket_take, List.head?_eq_none_iff.mp hhead]
    rfl
  | some b =>
    obtain ⟨bs, htake, hlen⟩ := take_cons hhead
    refine .inr ⟨b, bs, rfl, ?_⟩
    rw [← recvPacket_take, htake, recvPacket_eq (List.cons_ne_nil b bs) hlen, Call.bind_apply,
      parsePacket_cons hlen]
    rfl

theorem recvPacket_of_parsePacket {bs : List UInt8} {pkt : RecvPacket} {buf : ByteBuffer}
    {source : SockAddr} (hne : bs ≠ []) (hlen : bs.length ≤ 65536)
    (h : parsePacket env (.ofBytes bs) (w.heardFrom source) = (.ok (pkt, buf), w')) :
    recvPacket env (some ⟨source, bs⟩) w = (.ok pkt, w') := by
  rw [recvPacket_eq hne hlen]
  exact Call.bind_of_ok h _

theorem parses_checkedIn (tps : UInt16) :
    Parses env.target (parseBody env .checkedIn) w (bigEndian 2 tps.toNat) (.checkedIn tps) w :=
  .mapRead (.readU16 tps) _

/-- The world after a clock was read. -/
def ticked (w : World) : World := { w with ticks := w.ticks + 1 }

theorem parses_keepaliveResponse (playerCount : UInt32) :
    Parses env.target (parseBody env .keepaliveResponse) w (bigEndian 4 playerCount.toNat)
      (.keepaliveResponse playerCount
        (env.highResolutionClock w.ticks - w.gameSocket.keepAliveTime).toMs) (ticked w) := by
  have hnow : readNext env.highResolutionClock w = (.ok _, ticked w) := rfl
  have hsocket : getSocket (ticked w) = (.ok w.gameSocket, ticked w) := rfl
  apply Parses.bindCall hnow
  apply Parses.bindCall hsocket
  exact .mapRead (.readU32 playerCount) _

theorem parses_serverDisconnect {message : CString} (h : env.target.Holds message) :
    Parses env.target (parseBody env .serverDisconnect) w (stringBytes message)
      (.serverDisconnect message) w :=
  .mapRead (.readString h) _

theorem parses_pingResponse {pingId : Int32} {serverId : CString} {sentAt : Time}
    (h : w.gameSocket.pingTimes.get pingId = some (serverId, sentAt)) (playerCount : UInt32) :
    Parses env.target (parseBody env .pingResponse) w
      (i32Bytes pingId ++ bigEndian 4 playerCount.toNat)
      (.pingResponse serverId playerCount (env.systemClock w.ticks - sentAt).toMs)
      { ticked w with
        gameSocket :=
          { w.gameSocket with pingTimes := w.gameSocket.pingTimes.erase pingId } } := by
  have hnow : readNext env.systemClock w = (.ok _, ticked w) := rfl
  have hsocket : getSocket (ticked w) = (.ok w.gameSocket, ticked w) := rfl
  have herase : modifySocket (fun socket =>
      { socket with pingTimes := socket.pingTimes.erase pingId }) (ticked w) = (.ok (), _) := rfl
  apply Parses.bindCall hnow
  apply Parses.bindRead (.readI32 pingId)
  apply Parses.bindCall hsocket
  rw [h]
  rw [← List.append_nil (bigEndian 4 playerCount.toNat)]
  apply Parses.bindRead (.readU32 playerCount)
  apply Parses.bindCall herase
  exact .pure _

theorem parses_playerAccountDataResponse (playerId : Int32) {data : PlayerAccountData}
    (h : env.target.Holds data.name) :
    Parses env.target (parseBody env .playerAccountDataResponse) w
      (i32Bytes playerId ++ data.bytes) (.accountDataResponse playerId data) w := by
  apply Parses.bindRead (.readI32 playerId)
  exact .mapRead (.decodeAccountData h) _

theorem parses_textMessageSent (sender : Int32) {message : CString}
    (h : env.target.Holds message) :
    Parses env.target (parseBody env .textMessageSent) w (i32Bytes sender ++ stringBytes message)
      (.textMessage sender (cutText message)) w := by
  apply Parses.bindRead (.readI32 sender)
  exact .mapRead (.readString h) _

theorem parses_serverBroadcast {message : CString} (h : env.target.Holds message)
    (r g b : UInt8) :
    Parses env.target (parseBody env .serverBroadcast) w (stringBytes message ++ [r, g, b])
      (.serverMessage (cutText message) (r, g, b)) w := by
  apply Parses.bindRead (.readString h)
  apply Parses.bindRead (.readU8 r)
  apply Parses.bindRead (.readU8 g)
  exact .mapRead (.readU8 b) _

theorem cutText_eq (message : CString) : cutText message = message.take 80 := by
  unfold cutText
  split
  · rfl
  · next h => exact (List.take_of_length_le (Nat.le_of_not_lt h)).symm

/-! ## Players and levels -/

/-- The players that the client keeps. -/
def kept (env : Env) (accountId : Int32) (players : List (Int32 × PlayerData)) :
    List (Int32 × PlayerData) :=
  players.filter fun p => env.debug || p.1 != accountId

def playerEntryBytes (p : Int32 × PlayerData) : List UInt8 := i32Bytes p.1 ++ p.2.bytes

theorem reads_readPlayers (accountId : Int32) {entries : List (Int32 × PlayerData)}
    (h : ∀ p ∈ entries, p.2.player1.gameMode ≠ .none ∧ p.2.player2.gameMode ≠ .none)
    (players : FiniteMap Int32 PlayerData) :
    Reads env.target (readPlayers env accountId entries.length players)
      (entries.flatMap playerEntryBytes) (players.insertAll (kept env accountId entries)) := by
  induction entries generalizing players with
  | nil => exact .pure _
  | cons p entries ih =>
    obtain ⟨playerId, playerData⟩ := p
    obtain ⟨h₁, h₂⟩ := h _ List.mem_cons_self
    have hrest := ih fun p hp => h p (List.mem_cons_of_mem _ hp)
    rw [List.flatMap_cons, playerEntryBytes, List.append_assoc]
    apply (Reads.readI32 playerId).bind
    apply (Reads.decodePlayerData h₁ h₂).bind
    have hnot : (env.debug || playerId != accountId) = !(!env.debug && playerId == accountId) := by
      simp [bne]
    rw [kept, List.filter_cons, hnot]
    cases !env.debug && playerId == accountId with
    | true => exact hrest _
    | false => exact hrest _

def levelEntryBytes (p : Int32 × UInt16) : List UInt8 := i32Bytes p.1 ++ bigEndian 2 p.2.toNat

theorem length_flatMap_levelEntryBytes (entries : List (Int32 × UInt16)) :
    (entries.flatMap levelEntryBytes).length = 6 * entries.length := by
  induction entries with
  | nil => rfl
  | cons p entries ih =>
    rw [List.flatMap_cons, List.length_append, ih, List.length_cons, levelEntryBytes]
    simp only [i32Bytes, List.length_append, length_bigEndian]
    omega

theorem reads_readLevels (entries : List (Int32 × UInt16)) (levels : FiniteMap Int32 UInt16) :
    Reads env.target (readLevels env entries.length levels) (entries.flatMap levelEntryBytes)
      (levels.insertAll entries) := by
  induction entries generalizing levels with
  | nil => exact .pure _
  | cons p entries ih =>
    obtain ⟨levelId, playerCount⟩ := p
    rw [List.flatMap_cons, levelEntryBytes, List.append_assoc]
    apply (Reads.readI32 levelId).bind
    apply (Reads.readU16 playerCount).bind
    exact ih _

theorem parses_levelData {entries : List (Int32 × PlayerData)} (hlen : entries.length < 2 ^ 16)
    (h : ∀ p ∈ entries, p.2.player1.gameMode ≠ .none ∧ p.2.player2.gameMode ≠ .none) :
    Parses env.target (parseBody env .levelData) w
      (bigEndian 2 entries.length ++ entries.flatMap playerEntryBytes)
      (.levelData (FiniteMap.empty.insertAll (kept env w.gameSocket.accountId entries))) w := by
  have hcount : (UInt16.ofNat entries.length).toNat = entries.length :=
    UInt16.toNat_ofNat_of_lt' hlen
  have hread := Reads.readU16 (t := env.target) (UInt16.ofNat entries.length)
  rw [hcount] at hread
  apply Parses.bindRead hread
  have hsocket : getSocket w = (.ok w.gameSocket, w) := rfl
  apply Parses.bindCall hsocket
  rw [hcount]
  exact .mapRead (reads_readPlayers _ h _) _

theorem parses_levelListResponse {entries : List (Int32 × UInt16)}
    (hlen : entries.length < 2 ^ 32) :
    Parses env.target (parseBody env .levelListResponse) w
      (bigEndian 4 entries.length ++ entries.flatMap levelEntryBytes)
      (.levelListResponse (FiniteMap.empty.insertAll entries)) w := by
  have hcount : (UInt32.ofNat entries.length).toNat = entries.length :=
    UInt32.toNat_ofNat_of_lt' hlen
  have hread := Reads.readU32 (t := env.target) (UInt32.ofNat entries.length)
  rw [hcount] at hread
  apply Parses.bindRead hread
  rw [hcount]
  exact .mapRead (reads_readLevels _ _) _

end GameSocket

end Globed.Client
