import IrcClient.Handling.Registration
import IrcClient.Text.Numeral

/-!
# Answers to WHOIS

Each reply names the user it is about and adds to that user's collection. The last
one announces the collection and closes it.
-/

namespace IrcClient.Handling

/-- A reply that adds to the collection of the user it names. -/
def collect (f : Message → Whois → Whois) : Handler := fun net msg =>
  match msg.arg 1 with
  | none => (net, .empty)
  | some nick => (net.updateWhois nick (f msg), .empty)

/-- Who it is: `311 <me> <nick> <user> <host> * :<real name>`. -/
def whoisUser : Handler := collect fun msg w =>
  { w with username := msg.arg 2, host := msg.arg 3, realname := msg.arg 5 }

/-- The server: `312 <me> <nick> <server> :<about the server>`. -/
def whoisServer : Handler := collect fun msg w =>
  { w with server := msg.arg 2, serverInfo := msg.arg 3 }

/-- An operator: `313 <me> <nick> :<text>`. -/
def whoisOperator : Handler := collect fun _ w =>
  { w with operator := true }

/-- A count of seconds. -/
def parseSeconds (s : String) : Option Nat :=
  parseCount (Nat.pow 2 64) s.toList

/-- A moment, in seconds from the epoch. -/
def parseMoment (s : String) : Option Int :=
  parseSigned (Nat.pow 2 63) s.toList

/-- Times: `317 <me> <nick> <idle seconds> <sign-on time> :<text>`. -/
def whoisIdle : Handler := collect fun msg w =>
  { w with idleSecs := (msg.arg 2).bind parseSeconds, signon := (msg.arg 3).bind parseMoment }

/-- Channels: `319 <me> <nick> :<channels>`, which may come more than once. -/
def whoisChannels : Handler := collect fun msg w =>
  { w with
    channels := w.channels ++ (asciiWords ((msg.arg 2).getD "").toList).map String.ofList }

/-- The account: `330 <me> <nick> <account> :<text>`. -/
def whoisAccount : Handler := collect fun msg w =>
  { w with account := msg.arg 2 }

/-- A connection that is encrypted: `671 <me> <nick> :<text>`. -/
def whoisSecure : Handler := collect fun _ w =>
  { w with secure := true }

/--
Someone is away: `301 <me> <nick> :<text>`. The same reply answers a message to someone who
is away, so it counts only where a collection is open.
-/
def away : Handler := fun net msg =>
  match msg.arg 1 with
  | none => (net, .empty)
  | some nick =>
    if (net.whois? nick).isSome then
      (net.updateWhois nick fun w => { w with away := msg.arg 2 }, .empty)
    else (net, .empty)

/-- The end of the replies: `318 <me> <nick> :<text>`. -/
def endOfWhois : Handler := fun net msg =>
  match msg.arg 1 with
  | none => (net, .empty)
  | some nick =>
    match net.whois? nick with
    | none => (net, .empty)
    | some w =>
      (net.closeWhois nick, .emit ((net.event "whois.received").set "whois" w.toDatum))

end IrcClient.Handling
