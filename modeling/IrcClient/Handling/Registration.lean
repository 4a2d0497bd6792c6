import IrcClient.Message
import IrcClient.Outcome

/-!
# Registration

The server welcomes the client under the nickname that it has registered. Until then
a nickname it refuses is tried again with one character more. Which nickname that was is
for the refusal to say, so a server that cuts it short is asked for the same one again.
-/

namespace IrcClient

/-- What a line does: to what is known of the network, and beyond. -/
abbrev Handler := Network → Message → Network × Outcome

namespace Handling

/-- The welcome gives the nickname in force, and completes the registration if it is the first. -/
def welcome : Handler := fun net msg =>
  ({ net with nickname := (msg.arg 0).getD net.nickname, registered := true },
    { registered := !net.registered })

/-- A failure, told in the status buffer and in an event. -/
def reportFailure (net : Network) (text code : String) : Outcome :=
  .write (net.line .error text none none) ++
    .emit (((net.event "error").setText "error" text).setText "code" code)

/--
A nickname is refused. Before the registration is complete the client asks for a
longer one; later on the refusal is of a change that the user asked for.
-/
def nickRejected : Handler := fun net msg =>
  let rejected := (msg.arg 1).getD net.nickname
  if net.registered then
    (net, reportFailure net (rejected ++ ": " ++ (msg.lastArg).getD "") msg.command)
  else
    let next := rejected ++ "_"
    ({ net with nickname := next }, .send ("NICK " ++ next))

/-- The server asks for a sign of life, and gets its token back. -/
def ping : Handler := fun net msg =>
  (net, .send (msg.lastArg.elim "PONG" ("PONG :" ++ ·)))

/-- The server is about to close the link. -/
def serverError : Handler := fun net msg =>
  (net, .write (.line (.status net.id ("Server error: " ++ msg.lastArg.getD ""))))

end Handling

end IrcClient
