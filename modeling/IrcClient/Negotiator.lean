import IrcClient.Message
import IrcClient.Outcome
import IrcClient.Sasl.Mechanism

/-!
# Negotiation before registration

Where an authentication is configured, the client asks the server for its
capabilities before it registers. It asks for the one that stands for
authentication, goes through the exchange of its mechanism, and ends the negotiation,
however it went: the server does not complete the registration before that.

A challenge is not answered where it comes in. It is left as a pending step, which can
be taken out, run at leisure, and handed back (`take`, `PendingStep.run`, `complete`).
-/

namespace IrcClient

/-- How far the negotiation has come, and how it ended. -/
inductive CapState where
  | idle | capRequested | capAcked | capNaked | capNotSupported
  | authInProgress | authSucceeded | authFailed | authAborted | capEnded
deriving DecidableEq, Repr, Inhabited

/-- The name of a state. -/
def CapState.name : CapState → String
  | idle => "Idle"
  | capRequested => "CapRequested"
  | capAcked => "CapAcked"
  | capNaked => "CapNaked"
  | capNotSupported => "CapNotSupported"
  | authInProgress => "AuthInProgress"
  | authSucceeded => "AuthSucceeded"
  | authFailed => "AuthFailed"
  | authAborted => "AuthAborted"
  | capEnded => "CapEnded"

/-- A capability that the server offers. -/
structure Offer where
  name : String
  value : Option String
deriving DecidableEq, Repr, Inhabited

/--
A negotiation. `fresh` is the mechanism to use, as it is before any challenge, or none
where no authentication is configured; `mechanism` is the one in use.
-/
structure Negotiator (m : Type) where
  fresh : Option m
  state : CapState := .idle
  result : Option CapState := none
  offers : List Offer := []
  mechanism : Option m := none
  challenge : String := ""
  pending : Option Bytes := none
  capEndSent : Bool := false

/-- A challenge and the mechanism that is to answer it. -/
structure PendingStep (m : Type) where
  mechanism : m
  challenge : Bytes

/-- The answer to a challenge and the mechanism that gave it. -/
structure CompletedStep (m : Type) where
  mechanism : m
  response : Except SaslError Bytes

/-- Has the mechanism answer. -/
def PendingStep.run {m : Type} [SaslMechanism m] (s : PendingStep m) : CompletedStep m :=
  let (mechanism, response) := SaslMechanism.step s.mechanism s.challenge
  ⟨mechanism, response⟩

/-! ## Lines of an authentication -/

/-- The most characters of Base64 that one line holds. A line that is full is not the last. -/
def chunkLength : Nat := 400

/--
A response as lines: Base64 in chunks. A lone `+` stands for an empty response, and for
the end of one whose last chunk is full.
-/
def authenticateLines (payload : Bytes) : List String :=
  let encoded := Base64.symbols payload
  (blocks chunkLength encoded).map (fun c => "AUTHENTICATE " ++ String.ofList c) ++
    if encoded.length % chunkLength = 0 then ["AUTHENTICATE +"] else []

namespace Negotiator

variable {m : Type}

/-- A negotiation that has not begun. -/
def new (fresh : Option m) : Negotiator m :=
  { fresh }

/-- Whether the negotiation holds up the registration. -/
def isActive (n : Negotiator m) : Bool :=
  n.state ≠ .idle && n.state ≠ .capEnded

/-- Begins the negotiation, if an authentication is configured. -/
def start (n : Negotiator m) : Negotiator m × Outcome :=
  if n.fresh.isSome then ({ n with state := .capRequested }, .send "CAP LS 302")
  else (n, .empty)

/-- Ends the negotiation, and tells the server unless it has been told. -/
def finish (n : Negotiator m) (result : CapState) : Negotiator m × Outcome :=
  ({ n with
      result := some result, state := .capEnded, mechanism := none, challenge := ""
      pending := none, offers := [], capEndSent := true },
    .only (!n.capEndSent) (.send "CAP END"))

/-- Ends the negotiation after something else has been done. -/
def finishAfter (n : Negotiator m) (o : Outcome) (result : CapState) : Negotiator m × Outcome :=
  let (n, o') := n.finish result
  (n, o ++ o')

variable [SaslMechanism m]

/-- The name of the mechanism in use. -/
def mechanismName (n : Negotiator m) : String :=
  (n.mechanism.map SaslMechanism.name).getD ""

/-- An event of the authentication, with the name of the mechanism. -/
def event (n : Negotiator m) (net : Network) (type : String) : Event :=
  (net.event type).setText "mechanism" n.mechanismName

/-! ## Capabilities -/

/-- A capability as it stands in a list. -/
def readOffer (s : List Char) : Offer :=
  match cut? '=' s with
  | some (name, value) => ⟨String.ofList name, some (String.ofList value)⟩
  | none => ⟨String.ofList s, none⟩

/-- The capabilities of a list. -/
def readOffers (s : String) : List Offer :=
  (asciiWords s.toList).map readOffer

/--
Whether the server offers authentication by a mechanism. Where it does not say by which
ones, it may be any.
-/
def isUsable (offers : List Offer) (wanted : String) : Bool :=
  match offers.find? (·.name = "sasl") with
  | none => false
  | some ⟨_, none⟩ => true
  | some ⟨_, some names⟩ =>
    names.isEmpty || (pieces ',' names.toList).any fun s => sameLetters (String.ofList s) wanted

/-- The list of capabilities is complete: asks for authentication, or does without. -/
def requestSasl (n : Negotiator m) : Negotiator m × Outcome :=
  if isUsable n.offers ((n.fresh.map SaslMechanism.name).getD "") then (n, .send "CAP REQ :sasl")
  else n.finish .capNotSupported

/-- A list of capabilities comes in. A `*` in front of it means that there is more to come. -/
def listed (n : Negotiator m) (msg : Message) : Negotiator m × Outcome :=
  let (more, caps) := match msg.arg 2, msg.arg 3 with
    | some "*", some caps => (true, caps)
    | some caps, _ => (false, caps)
    | none, _ => (false, "")
  let n := { n with offers := n.offers ++ readOffers caps }
  if more then (n, .empty) else n.requestSasl

/-- The server grants the capability: the authentication begins. -/
def beginAuthentication (n : Negotiator m) (net : Network) : Negotiator m × Outcome :=
  let n := { n with mechanism := n.fresh, state := .authInProgress }
  (n, .send ("AUTHENTICATE " ++ n.mechanismName) ++ .emit (n.event net "sasl.started"))

/-- The server grants capabilities. -/
def acknowledged (n : Negotiator m) (net : Network) (msg : Message) : Negotiator m × Outcome :=
  if (asciiWords (msg.lastArg.getD "").toList).any (String.ofList · = "sasl") then
    n.beginAuthentication net
  else n.finish .capNaked

/-- A line about capabilities. Only answers to what was asked count. -/
def handleCap (n : Negotiator m) (net : Network) (msg : Message) : Negotiator m × Outcome :=
  if n.state ≠ .capRequested then (n, .empty)
  else match upper ((msg.arg 1).getD "") with
    | "LS" => n.listed msg
    | "ACK" => n.acknowledged net msg
    | "NAK" => n.finish .capNaked
    | _ => (n, .empty)

/-! ## Challenges -/

/-- Gives up the authentication. -/
def fail (n : Negotiator m) (net : Network) (e : SaslError) : Negotiator m × Outcome :=
  n.finishAfter (.send "AUTHENTICATE *" ++
    .emit ((n.event net "sasl.failed").setText "reason" e.message)) .authFailed

/-- Sends the mechanism's response, or gives up. -/
def answer (n : Negotiator m) (net : Network) :
    Except SaslError Bytes → Negotiator m × Outcome
  | .ok payload => (n, { lines := authenticateLines payload })
  | .error e => n.fail net e

/-- All chunks of a challenge are in: what they spell is left for the mechanism. -/
def challenged (n : Negotiator m) (net : Network) : Negotiator m × Outcome :=
  let encoded := n.challenge
  -- whatever becomes of it, the next challenge begins anew
  let n := { n with challenge := "" }
  match Base64.decode encoded with
  | .ok challenge => ({ n with pending := some challenge }, .empty)
  | .error e => n.answer net (.error (.base64 e))

/-- A chunk of a challenge comes in. After one that is full there is more to come. -/
def handleAuthenticate (n : Negotiator m) (net : Network) (msg : Message) :
    Negotiator m × Outcome :=
  let chunk := (msg.arg 0).getD "+"
  if chunk = "+" then n.challenged net
  else
    let n := { n with challenge := n.challenge ++ chunk }
    if chunk.utf8ByteSize = chunkLength then (n, .empty) else n.challenged net

/-- Takes out the pending step, if there is a mechanism to run it. -/
def take (n : Negotiator m) : Negotiator m × Option (PendingStep m) :=
  match n.pending with
  | none => (n, none)
  | some challenge =>
    ({ n with pending := none, mechanism := none }, n.mechanism.map fun mech => ⟨mech, challenge⟩)

/-- Takes back a step that was run, and sends its response or gives up. -/
def complete (n : Negotiator m) (net : Network) (s : CompletedStep m) :
    Negotiator m × Outcome :=
  { n with mechanism := some s.mechanism }.answer net s.response

/-- Gives up a step that was not run. -/
def abandon (n : Negotiator m) (net : Network) (reason : String) : Negotiator m × Outcome :=
  n.answer net (.error (.internal reason))

/-- Runs the pending step, if there is one. -/
def runStep (n : Negotiator m) (net : Network) : Negotiator m × Outcome :=
  match n.take with
  | (n, none) => (n, .empty)
  | (n, some s) => n.complete net s.run

/-! ## Lines -/

/-- The negotiation's part in a line. A line that is not `consumed` goes on to the handlers. -/
structure Step (m : Type) where
  negotiator : Negotiator m
  network : Network
  outcome : Outcome
  consumed : Bool

/-- A line is consumed, and does something to the negotiation. -/
def consumes (net : Network) (r : Negotiator m × Outcome) : Step m :=
  ⟨r.1, net, r.2, true⟩

/-- A line is passed on. -/
def passes (n : Negotiator m) (net : Network) : Step m :=
  ⟨n, net, .empty, false⟩

/-- The server rejects the authentication. -/
def rejected (n : Negotiator m) (net : Network) (msg : Message) : Negotiator m × Outcome :=
  n.finishAfter (.emit (((n.event net "sasl.failed").setText "code" msg.command).setText
    "reason" (msg.lastArg.getD ""))) .authFailed

/-- Handles a line. -/
def handle (n : Negotiator m) (net : Network) (msg : Message) : Step m :=
  let inProgress := n.state = .authInProgress
  match msg.command with
  | "CAP" => consumes net (n.handleCap net msg)
  | "AUTHENTICATE" =>
    if inProgress then consumes net (n.handleAuthenticate net msg) else n.passes net
  | "900" => consumes { net with account := msg.arg 2 } (n, .empty)
  | "901" => consumes { net with account := none } (n, .empty)
  | "908" => consumes net (n, .empty)
  | "903" | "907" =>
    if inProgress then
      consumes net (n.finishAfter (.emit (n.event net "sasl.success")) .authSucceeded)
    else n.passes net
  | "902" | "904" | "905" =>
    if inProgress then consumes net (n.rejected net msg) else n.passes net
  | "906" =>
    if inProgress then
      consumes net (n.finishAfter (.emit (n.event net "sasl.aborted")) .authAborted)
    else n.passes net
  | "421" =>
    if n.isActive && msg.arg 1 = some "CAP" then consumes net (n.finish .capNotSupported)
    else n.passes net
  | "001" =>
    -- the welcome ends the negotiation, and still has to be handled
    if n.isActive then { consumes net (n.finish .capNotSupported) with consumed := false }
    else n.passes net
  | _ => n.passes net

end Negotiator

end IrcClient
