import IrcClient.Ctcp
import IrcClient.Handling.Registration

/-!
# What people say

Messages and notices go to a buffer of the history. A query in a message is answered
by a notice, and a notice is never answered, so two clients cannot keep each other
talking.
-/

namespace IrcClient

/-- What the client says of itself when asked. -/
structure Persona where
  version : String
  clock : String
deriving DecidableEq, Repr, Inhabited

namespace Handling

/--
The buffer of a message: that of the channel or of the person it is addressed to, or
else, where it came to the client alone, that of its sender.
-/
def bufferFor (net : Network) (sender target : String) : String :=
  if net.support.isChannel target || net.isMe sender then target else sender

/-- Whether the client's own message to itself has come back; it is history already. -/
def isEcho (net : Network) (sender target : String) : Bool :=
  net.isMe sender && net.isMe target

/-- A message goes to its buffer and is announced. -/
def receive (net : Network) (kind : LineKind) (sender target text : String) : Outcome :=
  let buffer := bufferFor net sender target
  .write (net.line kind text (some buffer) (some sender)) ++
    .emit (((((net.event "message.received").setText "channel" buffer).setText
      "user" sender).setText "message" text).setText "kind" kind.name)

/-- The answer to a query, if the client knows one. -/
def answer? (p : Persona) (query : Ctcp) : Option String :=
  match query.command with
  | "VERSION" => some p.version
  | "TIME" => some p.clock
  | "PING" => some query.params
  | "CLIENTINFO" => some (" ".intercalate Ctcp.supported)
  | _ => none

/-- Answers a query to the one who sent it. There is no answering nobody. -/
def answerQuery (p : Persona) (sender : String) (query : Ctcp) : Outcome :=
  match answer? p query with
  | some reply =>
    .only (!sender.isEmpty)
      (.send ("NOTICE " ++ sender ++ " :" ++ Ctcp.encode query.command reply))
  | none => .empty

/-- A message or a query: `:sender PRIVMSG <target> :<text>`. -/
def privmsg (p : Persona) : Handler := fun net msg =>
  match msg.arg 0, msg.arg 1 with
  | some target, some text =>
    let sender := msg.sourceNick.getD ""
    let echo := isEcho net sender target
    (net, match Ctcp.parse? text with
      | some query =>
        if query.command = "ACTION" then
          .only (!echo) (receive net .action sender target query.params)
        else answerQuery p sender query
      | none => .only (!echo) (receive net .message sender target text))
  | _, _ => (net, .empty)

/-- The text of a notice as it is shown: an answer to a query without its wrapping. -/
def shownNotice (text : String) : String :=
  match Ctcp.parse? text with
  | some reply => String.ofList (dropEndBlanks (reply.command ++ " " ++ reply.params).toList)
  | none => text

/-- A notice: `:sender NOTICE <target> :<text>`. What a server says goes to the status buffer. -/
def notice : Handler := fun net msg =>
  match msg.arg 0, msg.arg 1 with
  | some target, some text =>
    let sender := msg.sourceNick.getD ""
    (net,
      if msg.isFromServer then
        .write (net.line .notice text none (some sender)) ++
          .emit ((((net.event "message.received").setText "user" sender).setText
            "message" text).setText "kind" LineKind.notice.name)
      else .only (!isEcho net sender target)
        (receive net .notice sender target (shownNotice text)))
  | _, _ => (net, .empty)

end Handling

end IrcClient
