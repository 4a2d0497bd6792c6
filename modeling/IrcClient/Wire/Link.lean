import IrcClient.Wire.Framing
import IrcClient.Wire.Request

/-!
# Links

A link to a server has a task that writes what is queued and frames what arrives.
Requests are queued, never waited for. A request that is not one line is refused, so
nobody can slip in a second one; and what is queued before the link is told to close is
still written, while nothing is after it.
-/

namespace IrcClient

/-- What can go wrong with a link. -/
inductive LinkError where
  | io (reason : String)
  | invalidServerName (name : String)
  | timeout
  | closed
  | invalidLine
deriving DecidableEq, Repr, Inhabited

/-- The words for it. -/
def LinkError.message : LinkError → String
  | .io reason => "I/O error: " ++ reason
  | .invalidServerName name => "Invalid TLS server name " ++ name
  | .timeout => "Connection attempt timed out"
  | .closed => "Connection closed"
  | .invalidLine => "Line contains a line break"

/-- What the task of a link is told to do. -/
inductive Control where
  | send (line : String)
  | close
deriving DecidableEq, Repr

/-- A link: what its task still has to do, what it has read of a line, and whether it runs. -/
structure Link where
  queue : List Control
  framer : Framer
  alive : Bool
deriving DecidableEq, Repr

/-- The lines to write, up to the first order to close, and whether there is such an order. -/
def linesToWrite : List Control → List String × Bool
  | [] => ([], false)
  | .close :: _ => ([], true)
  | .send line :: rest =>
    let (lines, closes) := linesToWrite rest
    (line :: lines, closes)

namespace Link

/-- A link on which nothing has happened. -/
def new : Link := ⟨[], .empty, true⟩

instance : Inhabited Link := ⟨new⟩

/-- Why a line cannot be queued, if it cannot. -/
def refusal? (l : Link) (line : String) : Option LinkError :=
  if hasLineBreak line then some .invalidLine
  else if l.alive then none
  else some .closed

/-- Queues a line. -/
def sendLine (l : Link) (line : String) : Link × Except LinkError Unit :=
  match l.refusal? line with
  | some e => (l, .error e)
  | none => ({ l with queue := l.queue ++ [.send line] }, .ok ())

/-- Queues a request. -/
def send (l : Link) (r : Request) : Link × Except LinkError Unit :=
  l.sendLine r.line

/-- Tells the link to close once what is queued is written. -/
def close (l : Link) : Link :=
  if l.alive then { l with queue := l.queue ++ [.close] } else l

/-- The task writes what is queued, and ends if it is told to close. -/
def flush (l : Link) : Link × List String :=
  if l.alive then
    let (lines, closes) := linesToWrite l.queue
    ({ l with queue := [], alive := !closes }, lines)
  else (l, [])

/-- Bytes arrive, and complete some lines. -/
def receive (l : Link) (bytes : Bytes) : Link × List String :=
  if l.alive then
    let (framer, lines) := l.framer.read bytes
    ({ l with framer }, lines.filterMap lineText?)
  else (l, [])

/-- The server ends its side: what it has sent of a line counts as one, and the task ends. -/
def endOfInput (l : Link) : Link × List String :=
  if l.alive then
    ({ l with framer := .empty, alive := false }, (l.framer.rest?.bind lineText?).toList)
  else (l, [])

end Link

/-- A line as it is written to the server. -/
def wireText (line : String) : String :=
  line ++ "\r\n"

end IrcClient
