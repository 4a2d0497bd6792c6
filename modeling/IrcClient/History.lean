import IrcClient.Network

/-!
# History

What people say and do is kept as lines of history. A line belongs to the buffer of
a channel or of a person, or, without a channel, to the status buffer of its network.
-/

namespace IrcClient

/-- What a line of history is about. -/
inductive LineKind where
  | message | action | notice | join | part | quit | kick | nick | topic | mode | status | error
deriving DecidableEq, Repr, Inhabited

namespace LineKind

/-- Every kind of line. -/
def all : List LineKind :=
  [message, action, notice, join, part, quit, kick, nick, topic, mode, status, error]

/-- The name of a kind. -/
def name : LineKind → String
  | message => "message"
  | action => "action"
  | notice => "notice"
  | join => "join"
  | part => "part"
  | quit => "quit"
  | kick => "kick"
  | nick => "nick"
  | topic => "topic"
  | mode => "mode"
  | status => "status"
  | error => "error"

/-- The kind of a name. -/
def ofName? (s : String) : Option LineKind :=
  all.find? (·.name = s)

theorem ofName?_name (k : LineKind) : ofName? k.name = some k := by
  cases k <;> decide

end LineKind

/-- One line of history. -/
structure HistoryLine where
  network : NetworkId
  channel : Option String := none
  user : Option String := none
  text : String
  kind : LineKind
deriving DecidableEq, Repr, Inhabited

/-- A line of the status buffer. -/
def HistoryLine.status (network : NetworkId) (text : String) : HistoryLine :=
  { network, text, kind := .status }

end IrcClient
