import IrcClient.Event

/-!
# What is known of a user

The answer to a WHOIS query comes in several replies. They are gathered in a
`Whois`, which is announced once the last reply is in.
-/

namespace IrcClient

/-- What the replies so far say of a user. -/
structure Whois where
  nick : String
  username : Option String := none
  host : Option String := none
  realname : Option String := none
  server : Option String := none
  serverInfo : Option String := none
  operator : Bool := false
  idleSecs : Option Nat := none
  signon : Option Int := none
  channels : List String := []
  account : Option String := none
  secure : Bool := false
  away : Option String := none
deriving DecidableEq, Repr, Inhabited

namespace Whois

/-- Nothing but the nickname. -/
def new (nick : String) : Whois :=
  { nick }

/-- The collection as data of an event; what no reply has said is null. -/
def toDatum (w : Whois) : Datum :=
  .record [
    ("nick", .text w.nick),
    ("username", .ofText? w.username),
    ("host", .ofText? w.host),
    ("realname", .ofText? w.realname),
    ("server", .ofText? w.server),
    ("server_info", .ofText? w.serverInfo),
    ("operator", .bool w.operator),
    ("idle_secs", w.idleSecs.elim .null fun n => .int n),
    ("signon", w.signon.elim .null .int),
    ("channels", .list (w.channels.map .text)),
    ("account", .ofText? w.account),
    ("secure", .bool w.secure),
    ("away", .ofText? w.away)]

end Whois

end IrcClient
