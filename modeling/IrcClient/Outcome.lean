import IrcClient.Store

/-!
# Outcomes

Handling a line changes what is known of the network, and nothing else. All further
effects are collected in an `Outcome` and carried out afterwards, each kind in order:
the lines to send, the writes, then the events.
-/

namespace IrcClient

/-- What is to be done about a line. `registered` says that it completed the registration. -/
structure Outcome where
  lines : List String := []
  writes : List Write := []
  events : List Event := []
  registered : Bool := false
deriving BEq, Repr, Inhabited

namespace Outcome

/-- Nothing to be done. -/
def empty : Outcome := {}

/-- First the one, then the other. -/
def append (a b : Outcome) : Outcome where
  lines := a.lines ++ b.lines
  writes := a.writes ++ b.writes
  events := a.events ++ b.events
  registered := a.registered || b.registered

instance : Append Outcome := ⟨append⟩

/-- Whether nothing is to be done. -/
def isEmpty (o : Outcome) : Bool :=
  o.events.isEmpty && o.lines.isEmpty && o.writes.isEmpty && !o.registered

/-- A line to send. -/
def send (line : String) : Outcome :=
  { lines := [line] }

/-- A write. -/
def write (w : Write) : Outcome :=
  { writes := [w] }

/-- Several writes. -/
def writing (ws : List Write) : Outcome :=
  { writes := ws }

/-- An event. -/
def emit (e : Event) : Outcome :=
  { events := [e] }

/-- One thing or nothing. -/
def only (p : Bool) (o : Outcome) : Outcome :=
  if p then o else empty

@[simp] theorem append_empty (a : Outcome) : a ++ empty = a := by
  show append a empty = a
  simp [append, empty]

@[simp] theorem empty_append (a : Outcome) : empty ++ a = a := by
  show append empty a = a
  simp [append, empty]

theorem append_assoc (a b c : Outcome) : a ++ b ++ c = a ++ (b ++ c) := by
  show append (append a b) c = append a (append b c)
  simp [append, List.append_assoc, Bool.or_assoc]

@[simp] theorem lines_append (a b : Outcome) : (a ++ b).lines = a.lines ++ b.lines := rfl

@[simp] theorem writes_append (a b : Outcome) : (a ++ b).writes = a.writes ++ b.writes := rfl

@[simp] theorem events_append (a b : Outcome) : (a ++ b).events = a.events ++ b.events := rfl

@[simp] theorem registered_append (a b : Outcome) :
    (a ++ b).registered = (a.registered || b.registered) := rfl

end Outcome

/-- What the client's own events give as their source. -/
def eventSource : String := "engine"

/-- An event about a network: its label and its number come first. -/
def Network.event (net : Network) (type : String) : Event :=
  ((Event.new type eventSource).setText "network" net.label).set "networkId" (.int net.id)

/-- A line of history of a network. -/
def Network.line (net : Network) (kind : LineKind) (text : String)
    (channel user : Option String) : Write :=
  .line { network := net.id, channel, user, text, kind }

end IrcClient
