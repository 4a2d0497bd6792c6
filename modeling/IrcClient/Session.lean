import IrcClient.Handling
import IrcClient.Identity
import IrcClient.Negotiator
import IrcClient.Wire.Link

/-!
# Sessions

A session is a link that was opened for an identity, with all that it has taught the
client so far. It reads its lines one after another, and carries out the outcome of each
before it turns to the next.

A session neither writes nor publishes: it says what is to be written and published
(`Effects`). So nothing that it does can hang on how a write goes.
-/

namespace IrcClient

/-- What a session asks for beside sending lines, each kind in order. -/
structure Effects where
  writes : List Write := []
  events : List Event := []
deriving BEq, Repr, Inhabited

namespace Effects

/-- Nothing is asked for. -/
def none : Effects := {}

/-- First the one, then the other. -/
def append (a b : Effects) : Effects :=
  ⟨a.writes ++ b.writes, a.events ++ b.events⟩

instance : Append Effects := ⟨append⟩

@[simp] theorem writes_append (a b : Effects) : (a ++ b).writes = a.writes ++ b.writes := rfl

@[simp] theorem events_append (a b : Effects) : (a ++ b).events = a.events ++ b.events := rfl

end Effects

/-- The life of a session, step by step. -/
inductive Stage where
  /-- The link is open, and nobody can find the session yet. -/
  | opening
  /-- The session can be found. -/
  | installed
  /-- The session was announced, and reads its lines. -/
  | reading
  /-- The lines have come to an end. -/
  | lost
  /-- The end was reported. -/
  | reported
  /-- The session cannot be found any more. -/
  | gone
deriving DecidableEq, Repr, Inhabited

/-- Whether a session counts as connected. -/
def Stage.isConnected : Stage → Bool
  | opening | installed | reading => true
  | lost | reported | gone => false

/--
A session. A disconnect first takes it from where it can be found (`dismissed`), and then
tears it down.
-/
structure Session where
  identity : Identity
  endpoint : Endpoint
  link : Link
  network : Network
  negotiator : Negotiator Mechanism
  inbox : List String := []
  stage : Stage := .opening
  dismissed : Bool := false
  tornDown : Bool := false

namespace Session

/-- Whether the session counts as connected. -/
def isConnected (s : Session) : Bool :=
  s.stage.isConnected

/-- Queues a line, which is dropped where the link refuses it. -/
def sendLine (s : Session) (line : String) : Session :=
  { s with link := (s.link.sendLine line).1 }

/-- Queues lines one after another. -/
def sendLines (s : Session) (lines : List String) : Session :=
  lines.foldl sendLine s

/-- Queues a request, unless the link refuses it. -/
def send (s : Session) (r : Request) : Session × Except LinkError Unit :=
  let (link, result) := s.link.send r
  ({ s with link }, result)

/-- A line of history of the session's network. -/
def status (s : Session) (text : String) : Write :=
  .line (.status s.identity.id text)

/-! ## The beginning -/

/--
A session on a link that has just been opened. The channels that earlier sessions left
are known from the start. A negotiation opens before anything else is sent.
-/
def start (identity : Identity) (endpoint : Endpoint) (records : List ChannelRecord)
    (nonce : String) : Session :=
  let (negotiator, o) := (Negotiator.new (identity.mechanism? nonce)).start
  let s : Session := {
    identity, endpoint, negotiator, link := .new
    network := (Network.new identity.id endpoint.address identity.nickname).seed records }
  s.sendLines (o.lines ++ identity.registration)

/-- What is told of a session that was made. -/
def announcement (s : Session) : Effects where
  writes := [s.status ("Connected to " ++ s.endpoint.text)]
  events := [s.network.event "connection.established"]

/-! ## Lines from the server -/

/-- The lines that enter the channels marked for it. -/
def joins (s : Session) : List String :=
  s.network.autoJoinChannels.map fun c => (Request.join c none).line

/-- Carries out an outcome. After a registration the client enters its channels. -/
def carryOut (s : Session) (o : Outcome) : Session × Effects :=
  (s.sendLines (o.lines ++ if o.registered then s.joins else []), ⟨o.writes, o.events⟩)

/-- What is to be done about a message: the negotiation comes first, and may keep it. -/
def respond (p : Persona) (s : Session) (msg : Message) : Session × Outcome :=
  let step := s.negotiator.handle s.network msg
  let (network, o) := if step.consumed then (step.network, Outcome.empty)
    else process p step.network msg
  -- a challenge that the line has left behind is answered at once
  let (negotiator, answer) := step.negotiator.runStep network
  ({ s with network, negotiator }, step.outcome ++ o ++ answer)

/-- Handles a line. One that is no message is passed over. -/
def handleLine (p : Persona) (s : Session) (line : String) : Session × Effects :=
  match Message.parse? line with
  | none => (s, .none)
  | some msg =>
    let (s, o) := s.respond p msg
    s.carryOut o

/-- Handles lines one after another. -/
def handleLines (p : Persona) : Session → List String → Session × Effects
  | s, [] => (s, .none)
  | s, line :: rest =>
    let (s, e) := s.handleLine p line
    let (s, e') := handleLines p s rest
    (s, e ++ e')

/-- Handles all lines that have come in. -/
def handleInbox (p : Persona) (s : Session) : Session × Effects :=
  handleLines p { s with inbox := [] } s.inbox

/-! ## What people say -/

/-- What people can say to a channel or to each other. -/
inductive Utterance where
  | message | action | notice
deriving DecidableEq, Repr

/-- The kind of line that keeps it. -/
def Utterance.kind : Utterance → LineKind
  | message => .message
  | action => .action
  | notice => .notice

/-- The request that sends it. -/
def Utterance.request (u : Utterance) (target text : String) : Request :=
  match u with
  | message => .privmsg target text
  | action => .ctcp target "ACTION" text
  | notice => .notice target text

/-- The event that tells of something that was said. -/
def saidEvent (s : Session) (u : Utterance) (target text : String) : Event :=
  (((s.network.event "message.sent").setText "target" target).setText "message" text).setText
    "kind" u.kind.name

/--
Says something. It goes to history before it is sent, so it is there when the server
echoes it; text that is not one line is refused before that.
-/
def say (s : Session) (u : Utterance) (target text : String) :
    Session × Effects × Except LinkError Unit :=
  if hasLineBreak text then (s, .none, .error .invalidLine)
  else
    let record := s.network.line u.kind text (some target) (some s.network.nickname)
    match s.send (u.request target text) with
    -- history keeps what was said, also where the link has closed meanwhile
    | (s, .error e) => (s, ⟨[record], []⟩, .error e)
    | (s, .ok ()) => (s, ⟨[record], [s.saidEvent u target text]⟩, .ok ())

/-! ## Other calls -/

/-- Marks a channel to be entered in every session from now on, or takes the mark away. -/
def setAutoJoin (s : Session) (channel : String) (autoJoin : Bool) : Session × Effects :=
  let c := s.network.channelOrNew channel
  let creation := if s.network.hasChannel channel then [] else [Write.upsertChannel c.name]
  ({ s with network := s.network.setChannel channel { c with autoJoin } },
    ⟨creation ++ [.autoJoin c.name autoJoin], []⟩)

/-- Takes leave of the server and closes the link. Only the first time counts. -/
def tearDown (s : Session) (reason : Option String) : Session :=
  if s.tornDown then s
  else
    let s := (s.send (.quit reason)).1
    { s with link := s.link.close, tornDown := true }

/-! ## The link -/

/-- Bytes arrive. -/
def receive (s : Session) (bytes : Bytes) : Session :=
  let (link, lines) := s.link.receive bytes
  { s with link, inbox := s.inbox ++ lines }

/-- The server ends its side. -/
def endOfInput (s : Session) : Session :=
  let (link, lines) := s.link.endOfInput
  { s with link, inbox := s.inbox ++ lines }

/-- The link writes what is queued. -/
def flush (s : Session) : Session × List String :=
  let (link, lines) := s.link.flush
  ({ s with link }, lines)

/-- What is told of a session that has come to its end. -/
def lossReport (s : Session) : Effects where
  writes := [s.status ("Disconnected from " ++ s.endpoint.text)]
  events := [s.network.event "connection.lost"]

end Session

end IrcClient
