import IrcClient.File
import IrcClient.Table
import IrcClient.Text.Split

/-!
# Logging

A log message has a level, the module it comes from and a target, by which the levels are
set. It is written to each output that lets it through, if it is let through at all.
-/

namespace IrcClient

/-- The levels, from the most talkative one to silence. -/
inductive LogLevel where
  | trace | debug | info | warn | error | off
deriving DecidableEq, Repr, Inhabited

namespace LogLevel

/-- Every level. -/
def all : List LogLevel :=
  [trace, debug, info, warn, error, off]

/-- The name of a level. -/
def name : LogLevel → String
  | trace => "trace"
  | debug => "debug"
  | info => "info"
  | warn => "warn"
  | error => "error"
  | off => "off"

/-- The name of a level, as it stands in front of a message. -/
def label : LogLevel → String
  | trace => "TRACE"
  | debug => "DEBUG"
  | info => "INFO"
  | warn => "WARN"
  | error => "ERROR"
  | off => "OFF"

/-- How grave a message has to be. -/
def rank : LogLevel → Nat
  | trace => 0
  | debug => 1
  | info => 2
  | warn => 3
  | error => 4
  | off => 5

/-- The level of a name. -/
def ofName? (s : String) : Option LogLevel :=
  all.find? (·.name = s)

theorem ofName?_name (l : LogLevel) : ofName? l.name = some l := by
  cases l <;> decide

/-- Whether a limit lets a message through. -/
def permits (limit level : LogLevel) : Bool :=
  limit.rank ≤ level.rank

end LogLevel

/-- Where messages are written. -/
inductive LogTarget where
  | stdout | stderr
  | file (name : String)
deriving DecidableEq, Repr, Inhabited

/-- An output: where it goes, the modules it is for (all, if none is named) and its limit. -/
structure LogOutput where
  target : LogTarget
  modules : List String := []
  level : Option LogLevel := none
deriving DecidableEq, Repr, Inhabited

/-- How messages are logged. -/
structure Logging where
  dir : String := "log"
  defaultLevel : Option LogLevel := none
  levels : Table String LogLevel := .empty
  outputs : List LogOutput := []
deriving DecidableEq

/-- How messages are logged where nothing is said about it. -/
def Logging.standard : Logging :=
  { defaultLevel := some .info, outputs := [{ target := .stderr }] }

instance : Inhabited Logging := ⟨.standard⟩

/-- A message: its level, the module it comes from, its target and its text. -/
structure LogMessage where
  level : LogLevel
  source : String
  target : String
  text : String
deriving DecidableEq, Repr, Inhabited

/-- A message as it is written. -/
def LogMessage.line (m : LogMessage) : String :=
  m.level.label ++ " " ++ m.target ++ ": " ++ m.text

/-- Whether a name begins as another one. -/
def beginsWith (s beginning : String) : Bool :=
  (rest? beginning.toList s.toList).isSome

/-- Whether an output lets a message through. -/
def LogOutput.accepts (o : LogOutput) (m : LogMessage) : Bool :=
  (o.level.getD .trace).permits m.level &&
    (o.modules.isEmpty || o.modules.any (beginsWith m.source))

namespace Logging

/-- The limit for a target: that of the longest name that it begins as, or else the default. -/
def limit (l : Logging) (target : String) : LogLevel :=
  let matching := l.levels.entries.filter fun e => beginsWith target e.1
  let best := matching.foldl (fun best e =>
    match best with
    | none => some e
    -- names of one length cannot both be the beginning of one target
    | some b => if b.1.utf8ByteSize < e.1.utf8ByteSize then some e else best) none
  match best with
  | some (_, level) => level
  | none => l.defaultLevel.getD .trace

/-- Whether a message is let through to an output. -/
def reaches (l : Logging) (m : LogMessage) (o : LogOutput) : Bool :=
  (l.limit m.target).permits m.level && o.accepts m

/-- The names of the files that are written, each one once. -/
def files (l : Logging) : List String :=
  (l.outputs.filterMap fun o => match o.target with
    | .file name => some name
    | _ => none).eraseDups

/-- Why the files cannot be written, if so; `blocked` is as for `pathError?`. -/
def obstruction? (l : Logging) (blocked : Bool) : Option FileError :=
  if l.files.isEmpty then none else pathError? blocked l.dir

/-- What is written to a file. -/
def written (l : Logging) (ms : List LogMessage) (file : String) : List String :=
  ms.flatMap fun m =>
    (l.outputs.filter fun o => o.target = .file file && l.reaches m o).map fun _ => m.line

end Logging

end IrcClient
