import Globed.Client.NetworkHandler

/-!
# The list of game servers

`updateGameServers` and `testCentralServer` of `util.cpp`. The list is cleared before its new
entries are converted, and an entry that cannot be converted ends the update in the middle: the
update is atomic exactly if every entry is good, or the list was the one that the entries before the
first bad one stand for (`updateGameServers_atomic_iff`).
-/

namespace Globed.Client

open Calls

/-! ## What calls get from outside -/

/-- An exception, with the text of its `what()`. -/
structure Exception where
  what : CString
  deriving DecidableEq

/-- The JSON library: every call may throw. -/
structure Json (V O : Type) where
  parse : CString → Except Exception V
  asArray : V → Except Exception (List V)
  asObject : V → Except Exception O
  get : O → CString → Except Exception V
  asString : V → Except Exception CString

/-- `web::fetch`: the text of the answer, or an error. -/
abbrev Fetch := CString → Except CString CString

/-- The globals that the update works on. -/
structure Globals where
  gameServers : List GameServer
  errMsgQueue : List CString

abbrev Update (α : Type) := Call Exception Globals α

/-- The bytes of a literal. -/
def literal (s : String) : CString := s.toByteArray.data.toList

def pushError (message : CString) : Update Unit :=
  modify fun g => { g with errMsgQueue := g.errMsgQueue ++ [message] }

section ServerList

variable {V O : Type} (json : Json V O) (fetch : Fetch)

/-! ## Updating -/

/-- The elements of the array that a text stands for. -/
def Json.elements (serverList : CString) : Except Exception (List V) := do
  let value ← json.parse serverList
  json.asArray value

def Json.getString (obj : O) (name : String) : Except Exception CString := do
  let value ← json.get obj (literal name)
  json.asString value

/-- The server that an element of the array stands for. -/
def Json.gameServer (server : V) : Except Exception GameServer := do
  let obj ← json.asObject server
  let name ← json.getString obj "name"
  let id ← json.getString obj "id"
  let region ← json.getString obj "region"
  let address ← json.getString obj "address"
  return { name, id, region, address }

def Globals.push (server : GameServer) (g : Globals) : Globals :=
  { g with gameServers := g.gameServers ++ [server] }

def updateGameServers (url : CString) : Update Bool :=
  match fetch url with
  | .error error => do
    pushError (literal "Globed failed to fetch game servers from the central server. This is either a problem with networking on your system, or a misconfiguration of the server. If you believe this is not a problem on your side, please contact the owner of the server.\n\nError: <cy>" ++ error ++ literal "</c>")
    return false
  | .ok serverList => do
    let servers ← json.elements serverList
    modify fun g => { g with gameServers := [] }
    servers.forM (convert json.gameServer Globals.push)
    return true

/-! ## Testing a central server -/

def isNumeric (str : CString) : Bool := str.all isDigit

/-- The url with a slash at its end. -/
def withSlash (url : CString) : CString :=
  if url.getLast? = some 47 then url else url ++ literal "/"

def testCentralServer (modVersion url : CString) : Update Unit :=
  if url = [] then pure ()
  else
    let versionURL := withSlash url ++ literal "version"
    let serversURL := withSlash url ++ literal "servers"
    match fetch versionURL with
    | .error error =>
      pushError (literal "Globed failed to reach the central server endpoint <cy>" ++ versionURL ++ literal "</c>, likely because the server is down, your internet is down, or an invalid URL was entered.\n\nError: <cy>" ++ error ++ literal "</c>")
    | .ok serverVersion =>
      if !isNumeric serverVersion then
        pushError (literal "The central server sent an <cr>invalid</c> response when requesting its <cy>version</c>. Please contact the server owner with the logs or use a different server.")
      else if modVersion ≠ serverVersion then
        pushError (literal "Version mismatch! Mod's protocol version is <cy>v" ++ modVersion ++ literal "</c>, while server's protocol version is <cy>v" ++ serverVersion ++ literal "</c>. To use this server, please update the mod and try connecting again.")
      else
        tryCatch
          (do
            let _ ← updateGameServers json fetch serversURL)
          fun e =>
            pushError (literal "Globed failed to parse server list sent by the central server. This is likely due to a misconfiguration on the server.\n\nError: <cy>" ++ e.what ++ literal "</c>")

/-! ## All or nothing -/

/-- The text of the answer is an array whose elements stand for `servers`. -/
def Lists (url : CString) (servers : List GameServer) : Prop :=
  ∃ serverList values, fetch url = .ok serverList ∧ json.elements serverList = .ok values ∧
    Converts json.gameServer values servers

/-- The update either sets the list to all servers of the answer and returns true, or it returns
false or throws and the list is what it was. -/
def Atomic (url : CString) (g : Globals) : Prop :=
  let (r, g') := updateGameServers json fetch url g
  (r = .ok true ∧ Lists json fetch url g'.gameServers) ∨
    (r ≠ .ok true ∧ g'.gameServers = g.gameServers)

/-- If the first bad element of the array comes after elements that stand for `servers`, the list
held these servers already. -/
def NothingToLose (url : CString) (g : Globals) : Prop :=
  ∀ serverList pre bad post servers e, fetch url = .ok serverList →
    json.elements serverList = .ok (pre ++ bad :: post) → Converts json.gameServer pre servers →
    json.gameServer bad = .error e → g.gameServers = servers

variable {json fetch} {url : CString} {g : Globals}

theorem foldl_push (servers : List GameServer) (g : Globals) :
    servers.foldl (fun g server => g.push server) g =
      { g with gameServers := g.gameServers ++ servers } := by
  induction servers generalizing g with
  | nil => simp
  | cons server servers ih =>
    rw [List.foldl_cons, ih, Globals.push, List.append_assoc, List.singleton_append]

theorem updateGameServers_of_fetch_error {error : CString} (h : fetch url = .error error) :
    ∃ g', updateGameServers json fetch url g = (.ok false, g') ∧
      g'.gameServers = g.gameServers := by
  unfold updateGameServers
  rw [h]
  exact ⟨_, rfl, rfl⟩

/-- A text that is not an array changes nothing. -/
theorem updateGameServers_of_elements_error {serverList : CString} {e : Exception}
    (h : fetch url = .ok serverList) (he : json.elements serverList = .error e) :
    updateGameServers json fetch url g = (.error e, g) := by
  unfold updateGameServers
  rw [h]
  exact Call.bind_of_error (congrArg (·, g) he) _

/-- An array is converted into a list that is empty at first. -/
theorem updateGameServers_of_elements {serverList : CString} {values : List V}
    (h : fetch url = .ok serverList) (hvalues : json.elements serverList = .ok values) :
    updateGameServers json fetch url g =
      (do
        values.forM (convert json.gameServer Globals.push)
        return true : Update Bool) { g with gameServers := [] } := by
  unfold updateGameServers
  rw [h]
  exact Call.bind_of_ok (congrArg (·, g) hvalues) _

theorem updateGameServers_of_converts {serverList : CString} {values : List V}
    {servers : List GameServer} (h : fetch url = .ok serverList)
    (hvalues : json.elements serverList = .ok values)
    (hservers : Converts json.gameServer values servers) :
    updateGameServers json fetch url g = (.ok true, { g with gameServers := servers }) := by
  have hloop : values.forM (convert json.gameServer Globals.push) { g with gameServers := [] } =
      (.ok ⟨⟩, { g with gameServers := servers }) := by
    rw [forM_convert_of_converts hservers, foldl_push, List.nil_append]
  rw [updateGameServers_of_elements h hvalues, Call.bind_of_ok hloop]
  rfl

/-- An element that cannot be converted ends the update with the servers before it in the list. -/
theorem updateGameServers_of_bad {serverList : CString} {pre post : List V} {bad : V}
    {servers : List GameServer} {e : Exception} (h : fetch url = .ok serverList)
    (hvalues : json.elements serverList = .ok (pre ++ bad :: post))
    (hservers : Converts json.gameServer pre servers) (he : json.gameServer bad = .error e) :
    updateGameServers json fetch url g = (.error e, { g with gameServers := servers }) := by
  have hloop : (pre ++ bad :: post).forM (convert json.gameServer Globals.push)
      { g with gameServers := [] } = (.error e, { g with gameServers := servers }) := by
    rw [forM_convert_of_error hservers he, foldl_push, List.nil_append]
  rw [updateGameServers_of_elements h hvalues, Call.bind_of_error hloop]

/-- **Updating the list of servers** is atomic if and only if it does not clear a list that differs
from the servers before the first bad element: every element is good, or the list held exactly the
servers before the first bad one, or there is no array at all. -/
theorem updateGameServers_atomic_iff (json : Json V O) (fetch : Fetch) (url : CString)
    (g : Globals) : Atomic json fetch url g ↔ NothingToLose json fetch url g := by
  constructor
  · intro hatomic serverList pre bad post servers e h hvalues hservers he
    rw [Atomic, updateGameServers_of_bad h hvalues hservers he] at hatomic
    obtain ⟨hok, -⟩ | ⟨-, hsame⟩ := hatomic
    · cases hok
    · exact hsame.symm
  · intro hlose
    cases h : fetch url with
    | error error =>
      obtain ⟨g', hrun, hsame⟩ := @updateGameServers_of_fetch_error _ _ json fetch url g _ h
      rw [Atomic, hrun]
      exact .inr ⟨by decide, hsame⟩
    | ok serverList =>
      cases hvalues : json.elements serverList with
      | error e =>
        rw [Atomic, updateGameServers_of_elements_error h hvalues]
        exact .inr ⟨nofun, rfl⟩
      | ok values =>
        rcases converts_or_first_error json.gameServer values with
          ⟨servers, hservers⟩ | ⟨pre, bad, post, servers, e, rfl, hservers, he⟩
        · rw [Atomic, updateGameServers_of_converts h hvalues hservers]
          exact .inl ⟨rfl, serverList, values, h, hvalues, hservers⟩
        · rw [Atomic, updateGameServers_of_bad h hvalues hservers he]
          exact .inr ⟨nofun, (hlose _ _ _ _ _ _ h hvalues hservers he).symm⟩

/-! ## What the main loop sees -/

/-- Whatever the central server answers, the list stays, or becomes that of the first few elements
of the answered array. -/
theorem gameServers_updateGameServers (json : Json V O) (fetch : Fetch) (url : CString)
    (g : Globals) :
    (updateGameServers json fetch url g).2.gameServers = g.gameServers ∨
      ∃ serverList pre rest, fetch url = .ok serverList ∧
        json.elements serverList = .ok (pre ++ rest) ∧
        Converts json.gameServer pre (updateGameServers json fetch url g).2.gameServers := by
  cases h : fetch url with
  | error error =>
    obtain ⟨g', hrun, hsame⟩ := @updateGameServers_of_fetch_error _ _ json fetch url g _ h
    rw [hrun]
    exact .inl hsame
  | ok serverList =>
    cases hvalues : json.elements serverList with
    | error e =>
      rw [updateGameServers_of_elements_error h hvalues]
      exact .inl rfl
    | ok values =>
      rcases converts_or_first_error json.gameServer values with
        ⟨servers, hservers⟩ | ⟨pre, bad, post, servers, e, rfl, hservers, he⟩
      · rw [updateGameServers_of_converts h hvalues hservers]
        exact .inr ⟨serverList, values, [], rfl, by rw [hvalues, List.append_nil], hservers⟩
      · rw [updateGameServers_of_bad h hvalues hservers he]
        exact .inr ⟨serverList, pre, bad :: post, rfl, hvalues, hservers⟩

/-- Testing a central server never throws, and changes the list as an update does, or not at all. -/
theorem testCentralServer_returns (json : Json V O) (fetch : Fetch) (modVersion url : CString)
    (g : Globals) :
    (testCentralServer json fetch modVersion url g).1 = .ok ⟨⟩ ∧
      ((testCentralServer json fetch modVersion url g).2.gameServers = g.gameServers ∨
        (testCentralServer json fetch modVersion url g).2.gameServers =
          (updateGameServers json fetch (withSlash url ++ literal "servers") g).2.gameServers) := by
  unfold testCentralServer
  split
  · exact ⟨rfl, .inl rfl⟩
  · dsimp only
    cases fetch (withSlash url ++ literal "version") with
    | error error => exact ⟨rfl, .inl rfl⟩
    | ok serverVersion =>
      dsimp only
      split
      · exact ⟨rfl, .inl rfl⟩
      · split
        · exact ⟨rfl, .inl rfl⟩
        · rw [Call.tryCatch_apply, Call.bind_apply]
          rcases updateGameServers json fetch (withSlash url ++ literal "servers") g with
            ⟨e | updated, g'⟩
          · exact ⟨rfl, .inr rfl⟩
          · exact ⟨rfl, .inr rfl⟩

/-- The main loop, for which the answer of the central server is a list of servers or none, does
what testing the central server does. -/
theorem testCentralServer_answer (json : Json V O) (fetch : Fetch) (modVersion url : CString)
    (w : World) (errMsgQueue : List CString) :
    ∃ answer, (NetworkHandler.testCentralServer answer w).2.gameServers =
        (testCentralServer json fetch modVersion url ⟨w.gameServers, errMsgQueue⟩).2.gameServers ∧
      ∀ servers ∈ answer, ∃ serverList pre rest,
        fetch (withSlash url ++ literal "servers") = .ok serverList ∧
        json.elements serverList = .ok (pre ++ rest) ∧ Converts json.gameServer pre servers := by
  let url' := withSlash url ++ literal "servers"
  let g : Globals := ⟨w.gameServers, errMsgQueue⟩
  obtain ⟨-, htest⟩ := testCentralServer_returns json fetch modVersion url g
  have hupdate := gameServers_updateGameServers json fetch url' g
  rcases htest with htest | htest
  · exact ⟨none, htest.symm, nofun⟩
  · rcases hupdate with hupdate | hupdate
    · exact ⟨none, (htest.trans hupdate).symm, nofun⟩
    · refine ⟨some (updateGameServers json fetch url' g).2.gameServers, htest.symm, ?_⟩
      rintro servers ⟨⟩
      exact hupdate

end ServerList

section Sample

/-! ### A list that is lost -/

/-- Values of JSON without numbers. -/
inductive SampleValue
  | string (s : CString)
  | array (values : List SampleValue)
  | object (fields : List (CString × SampleValue))

/-- An array of a server and of an object without fields. -/
def sampleText : CString :=
  literal "[\x7b\"name\":\"a\",\"id\":\"b\",\"region\":\"c\",\"address\":\"d\"\x7d,\x7b\x7d]"

/-- Its first element. -/
def sampleServer : SampleValue :=
  .object [(literal "name", .string (literal "a")), (literal "id", .string (literal "b")),
    (literal "region", .string (literal "c")), (literal "address", .string (literal "d"))]

/-- A library that reads the sample. -/
def sampleJson : Json SampleValue (List (CString × SampleValue)) where
  parse text :=
    if text = sampleText then .ok (.array [sampleServer, .object []])
    else .error ⟨literal "unexpected character"⟩
  asArray
    | .array values => .ok values
    | _ => .error ⟨literal "not an array"⟩
  asObject
    | .object fields => .ok fields
    | _ => .error ⟨literal "not an object"⟩
  get fields name :=
    match fields.lookup name with
    | some value => .ok value
    | none => .error ⟨literal "no such field"⟩
  asString
    | .string s => .ok s
    | _ => .error ⟨literal "not a string"⟩

/-- The list held a server x. The update throws at the second element of the sample, and the list
holds the server of the first one. -/
theorem bad_entry_loses_list :
    let x : GameServer := ⟨literal "x", literal "x", literal "x", literal "x"⟩
    let a : GameServer := ⟨literal "a", literal "b", literal "c", literal "d"⟩
    let fetch : Fetch := fun _ => .ok sampleText
    let url := literal "http://localhost/servers"
    updateGameServers sampleJson fetch url ⟨[x], []⟩ =
        (.error ⟨literal "no such field"⟩, ⟨[a], []⟩) ∧
      ¬Atomic sampleJson fetch url ⟨[x], []⟩ := by
  intro x a fetch url
  have hrun : updateGameServers sampleJson fetch url ⟨[x], []⟩ =
      (.error ⟨literal "no such field"⟩, ⟨[a], []⟩) := by
    have hparse : sampleJson.parse sampleText = .ok (.array [sampleServer, .object []]) := by
      simp [sampleJson]
    have hvalues : sampleJson.elements sampleText = .ok ([sampleServer] ++ .object [] :: []) := by
      rw [Json.elements, hparse]
      rfl
    exact updateGameServers_of_bad rfl hvalues (.cons rfl .nil) rfl
  refine ⟨hrun, ?_⟩
  rw [Atomic, hrun]
  rintro (⟨hok, -⟩ | ⟨-, hsame⟩)
  · cases hok
  · revert hsame
    decide

end Sample

end Globed.Client
