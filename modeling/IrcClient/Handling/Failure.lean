import IrcClient.Handling.Registration
import IrcClient.Numeric

/-!
# Failures that the server reports

`<code> <me> [<subject>...] :<text>`, where the subjects are channels, nicknames or
commands. The failure is told in the buffer of the first channel among the subjects.
-/

namespace IrcClient.Handling

/-- What a failure is about: the arguments between the nickname and the text. -/
def subjects (msg : Message) : List String :=
  (msg.args.drop 1).dropLast

/-- The server's words for a failure, or else those of the list of failures. -/
def failureText (msg : Message) : String :=
  let fallback := (Numeric.description? msg.command).getD "Unknown error"
  match msg.lastArg with
  | some text => if msg.args.length > 1 && !text.isEmpty then text else fallback
  | none => fallback

/-- The name of a channel as it is known, or as it is given if it is not. -/
def knownName (net : Network) (name : String) : String :=
  ((net.channel? name).map (·.name)).getD name

/-- A failure is reported; it is told with its first subject, unless that is a channel. -/
def failure : Handler := fun net msg =>
  let text := failureText msg
  let channel := ((subjects msg).find? net.support.isChannel).map (knownName net)
  let error := match (subjects msg).head? with
    | some subject => if net.support.isChannel subject then text else subject ++ ": " ++ text
    | none => text
  (net,
    .write (net.line .error error channel none) ++
    .emit ((((net.event "error").setText? "channel" channel).setText "error" error).setText
      "code" msg.command))

end IrcClient.Handling
