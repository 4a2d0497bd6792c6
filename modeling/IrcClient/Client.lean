import IrcClient.Session
import IrcClient.Settings

/-!
# The client

The client keeps at most one session for each network. Many things go on at once around
it: attempts to connect fail, succeed or are given up, sessions end by themselves or are
ended. So all that it does is split into steps that nothing can interrupt, and each of
them is a function on `Client`. What is in the registry decides who may do what: an
attempt marks its network as connecting for as long as it lasts, and a session stands
there from when it is installed until it is dismissed or has ended.

Attempts and sessions are numbered in the order in which they began, and stay on record.
-/

namespace IrcClient

/-- The number of a session. -/
abbrev SessionId := Nat

/-- The number of an attempt to connect. -/
abbrev AttemptId := Nat

/-- Why the client does not connect to a network. -/
inductive ConnectError where
  | alreadyConnecting (network : NetworkId)
  | alreadyConnected (network : NetworkId)
  | noEndpoints (network : NetworkId)
  | allEndpointsFailed (network : NetworkId) (last : LinkError)
deriving DecidableEq, Repr, Inhabited

/-- The words for it. -/
def ConnectError.message : ConnectError → String
  | .alreadyConnecting n => "Network " ++ toString n ++ " is already connecting"
  | .alreadyConnected n => "Network " ++ toString n ++ " is already connected"
  | .noEndpoints n => "Network " ++ toString n ++ " has no endpoints"
  | .allEndpointsFailed n last =>
    "Every endpoint of network " ++ toString n ++ " failed; last error: " ++ last.message

/-- Why the client does not disconnect from a network. -/
inductive DisconnectError where
  | notConnected (network : NetworkId)
  | stillConnecting (network : NetworkId)
deriving DecidableEq, Repr, Inhabited

/-- The words for it. -/
def DisconnectError.message : DisconnectError → String
  | .notConnected n => "Network " ++ toString n ++ " is not connected"
  | .stillConnecting n => "Network " ++ toString n ++ " is still connecting"

/-- What is in the registry for a network. -/
inductive Slot where
  | connecting
  | live (session : SessionId)
deriving DecidableEq, Repr

/-- How it stands with a network. -/
inductive Lifecycle where
  | disconnected | connecting | connected
deriving DecidableEq, Repr, Inhabited

/-- How far an attempt has come. -/
inductive Phase where
  /-- Endpoints are being tried. -/
  | trying
  /-- An endpoint has accepted, and the session on it is on its way into the registry. -/
  | binding (session : SessionId)
  /-- The attempt has led to a session. -/
  | bound (session : SessionId)
  /-- The attempt has ended without one. -/
  | ended
deriving DecidableEq, Repr

/-- Whether an attempt still marks its network as connecting. -/
def Phase.isOpen : Phase → Bool
  | trying | binding _ => true
  | bound _ | ended => false

/-- An attempt to connect: the endpoints that are still to be tried, and the last failure. -/
structure Attempt where
  identity : Identity
  remaining : List Endpoint
  lastError : Option LinkError := none
  phase : Phase := .trying
deriving DecidableEq, Repr

namespace Attempt

/-- An attempt that is about to try its first endpoint. -/
def new (identity : Identity) : Attempt :=
  { identity, remaining := identity.endpointsByPriority }

/-- The error of an attempt that no endpoint has accepted. -/
def error (a : Attempt) : ConnectError :=
  match a.lastError with
  | none => .noEndpoints a.identity.id
  | some last => .allEndpointsFailed a.identity.id last

end Attempt

/-- The client. Events are kept in the order in which they were published. -/
structure Client where
  settings : Settings
  /-- The date that the client gives to others. -/
  date : String
  /-- The nonce of its authentications. -/
  nonce : String
  store : Store
  published : List Event := []
  registry : Table NetworkId Slot := .empty
  attempts : List Attempt := []
  sessions : List Session := []

namespace Client

/-- A client that has done nothing yet. -/
def new (settings : Settings) (date nonce : String) (store : Store) : Client :=
  { settings, date, nonce, store }

/-- What the client says of itself. -/
def persona (c : Client) : Persona :=
  ⟨c.settings.version, c.date⟩

/-! ## Looking around -/

/-- The session of a number. -/
def session? (c : Client) (id : SessionId) : Option Session :=
  c.sessions[id]?

/-- The attempt of a number. -/
def attempt? (c : Client) (id : AttemptId) : Option Attempt :=
  c.attempts[id]?

/-- Whether a session counts as connected. -/
def isConnected (c : Client) (id : SessionId) : Bool :=
  (c.session? id).any (·.isConnected)

/-- The session that stands in the registry for a network. -/
def find? (c : Client) (network : NetworkId) : Option SessionId :=
  match c.registry.get? network with
  | some (.live id) => some id
  | _ => none

/-- The networks for which there is a session. -/
def liveNetworks (c : Client) : List NetworkId :=
  c.registry.keys.filter fun n => (c.find? n).isSome

/-- How it stands with a network. -/
def lifecycle (c : Client) (network : NetworkId) : Lifecycle :=
  match c.registry.get? network with
  | none => .disconnected
  | some .connecting => .connecting
  | some (.live id) => if c.isConnected id then .connected else .disconnected

/-! ## Effects -/

/-- Carries out what a session asks for. What the store refuses is lost. -/
def carryOut (c : Client) (network : NetworkId) (e : Effects) : Client :=
  { c with store := c.store.attemptAll network e.writes, published := c.published ++ e.events }

/-- Sets the record of a session. -/
def setSession (c : Client) (id : SessionId) (s : Session) : Client :=
  { c with sessions := c.sessions.set id s }

/-- Sets the record of an attempt. -/
def setAttempt (c : Client) (id : AttemptId) (a : Attempt) : Client :=
  { c with attempts := c.attempts.set id a }

/-- Changes a session, which may ask for something and have a result. -/
def withSession {α : Type} (c : Client) (id : SessionId)
    (f : Session → Session × Effects × α) : Client × Option α :=
  match c.session? id with
  | none => (c, none)
  | some s =>
    let (s, e, result) := f s
    ((c.setSession id s).carryOut s.identity.id e, some result)

/-- Changes a session that may ask for something. -/
def updateSession (c : Client) (id : SessionId) (f : Session → Session × Effects) : Client :=
  (c.withSession id fun s => ((f s).1, (f s).2, ())).1

/-! ## Attempts -/

/-- Why no attempt may begin, if so. A session that is not connected stands in nobody's way. -/
def obstacle? (c : Client) (network : NetworkId) : Option ConnectError :=
  match c.registry.get? network with
  | some .connecting => some (.alreadyConnecting network)
  | some (.live id) => if c.isConnected id then some (.alreadyConnected network) else none
  | none => none

/-- Begins an attempt, and marks the network as connecting. -/
def acquire (c : Client) (identity : Identity) : Client × Except ConnectError AttemptId :=
  match c.obstacle? identity.id with
  | some e => (c, .error e)
  | none =>
    ({ c with
        registry := c.registry.insert identity.id .connecting
        attempts := c.attempts ++ [.new identity] }, .ok c.attempts.length)

/-- The endpoint that an attempt tries. -/
def trying? (c : Client) (id : AttemptId) : Option Endpoint :=
  match c.attempt? id with
  | some { phase := .trying, remaining := e :: _, .. } => some e
  | _ => none

/-- The endpoint that is tried fails, and the turn of the next one has come. -/
def endpointFails (c : Client) (id : AttemptId) (error : LinkError) : Client :=
  match c.attempt? id with
  | some a@{ phase := .trying, remaining := e :: rest, .. } =>
    let text := "Could not connect to " ++ e.text ++ ": " ++ error.message
    (c.setAttempt id { a with remaining := rest, lastError := some error }).carryOut
      a.identity.id ⟨[.line (.status a.identity.id text)], []⟩
  | _ => c

/-- Takes the mark that a network is connecting away. -/
def unmark (c : Client) (network : NetworkId) : Client :=
  -- what an attempt has led to stays
  if c.registry.get? network = some .connecting then
    { c with registry := c.registry.erase network }
  else c

/--
An attempt ends without a session: it was given up, or nothing is left to try. Once an
endpoint has accepted it is too late for that.
-/
def dropAttempt (c : Client) (id : AttemptId) : Client :=
  match c.attempt? id with
  | some a@{ phase := .trying, .. } =>
    (c.setAttempt id { a with phase := .ended }).unmark a.identity.id
  | _ => c

/-- The endpoint that is tried accepts: a session is opened on it. -/
def openSession (c : Client) (id : AttemptId) : Client :=
  match c.attempt? id with
  | some a@{ phase := .trying, remaining := e :: _, .. } =>
    -- a store that fails costs the session what it would have remembered, and no more
    let records := match c.store.channels a.identity.id with
      | .ok records => records
      | .error _ => []
    { c.setAttempt id { a with phase := .binding c.sessions.length } with
      sessions := c.sessions ++ [.start a.identity e records c.nonce] }
  | _ => c

/-- The session of an attempt takes its place in the registry. -/
def install (c : Client) (id : AttemptId) : Client :=
  match c.attempt? id with
  | some a@{ phase := .binding sid, .. } =>
    let c := c.updateSession sid fun s => ({ s with stage := .installed }, .none)
    { c.setAttempt id { a with phase := .bound sid } with
      registry := c.registry.insert a.identity.id (.live sid) }
  | _ => c

/-- A session that was installed is announced, and begins to read its lines. -/
def announce (c : Client) (sid : SessionId) : Client :=
  c.updateSession sid fun s =>
    if s.stage = .installed then ({ s with stage := .reading }, s.announcement) else (s, .none)

/-- The endpoint that is tried accepts, and all that follows from it. -/
def accept (c : Client) (id : AttemptId) : Client :=
  let c := (c.openSession id).install id
  match c.attempt? id with
  | some { phase := .bound sid, .. } => c.announce sid
  | _ => c

/-- An endpoint answers. Where it was the last one, and fails, the attempt is over. -/
def answered (c : Client) (id : AttemptId) : Except LinkError Unit → Client
  | .ok () => c.accept id
  | .error e =>
    let c := c.endpointFails id e
    if (c.trying? id).isSome then c else c.dropAttempt id

/-- What has come of an attempt, once nothing more can. -/
def result? (c : Client) (id : AttemptId) : Option (Except ConnectError SessionId) :=
  match c.attempt? id with
  | some { phase := .bound sid, .. } => some (.ok sid)
  | some a@{ phase := .ended, .. } => some (.error a.error)
  | _ => none

/-! ## The lines of a session -/

/-- A session handles all lines that have come in. -/
def handleInbox (c : Client) (sid : SessionId) : Client :=
  c.updateSession sid fun s =>
    if s.stage = .reading then s.handleInbox c.persona else (s, .none)

/-- A session that has read its last line is no longer connected. -/
def endReading (c : Client) (sid : SessionId) : Client :=
  c.updateSession sid fun s =>
    if s.stage = .reading then ({ s with stage := .lost, link := s.link.close }, .none)
    else (s, .none)

/-- The end of a session is reported. -/
def reportLoss (c : Client) (sid : SessionId) : Client :=
  c.updateSession sid fun s =>
    if s.stage = .lost then ({ s with stage := .reported }, s.lossReport) else (s, .none)

/-- A session that has ended leaves the registry, if it still stands there. -/
def release (c : Client) (sid : SessionId) : Client :=
  match c.session? sid with
  | some s@{ stage := .reported, .. } =>
    let c := c.setSession sid { s with stage := .gone }
    -- another session may have taken the place in the meantime
    if c.find? s.identity.id = some sid then
      { c with registry := c.registry.erase s.identity.id }
    else c
  | _ => c

/-- A session has read its last line, and all that follows from it. -/
def finishSession (c : Client) (sid : SessionId) : Client :=
  ((c.endReading sid).reportLoss sid).release sid

/-! ## Leaving -/

/-- Takes the session of a network from the registry. -/
def dismiss (c : Client) (network : NetworkId) : Client × Except DisconnectError SessionId :=
  match c.registry.get? network with
  | none => (c, .error (.notConnected network))
  | some .connecting => (c, .error (.stillConnecting network))
  | some (.live sid) =>
    let c := c.updateSession sid fun s => ({ s with dismissed := true }, .none)
    ({ c with registry := c.registry.erase network }, .ok sid)

/-- Tears a session down. -/
def tearDown (c : Client) (sid : SessionId) (reason : Option String) : Client :=
  c.updateSession sid fun s => (s.tearDown reason, .none)

/-- Leaves a network. The session comes to its end when its link does. -/
def disconnect (c : Client) (network : NetworkId) (reason : Option String) :
    Client × Except DisconnectError Unit :=
  match c.dismiss network with
  | (c, .error e) => (c, .error e)
  | (c, .ok sid) => (c.tearDown sid reason, .ok ())

/-- Leaves every network for which there is a session. -/
def disconnectAll (c : Client) (reason : Option String) : Client :=
  c.liveNetworks.foldl (fun c network => (c.disconnect network reason).1) c

end Client

end IrcClient
