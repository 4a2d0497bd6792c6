import IrcClient.Handling.Announcement
import IrcClient.Handling.Failure
import IrcClient.Handling.Inquiry
import IrcClient.Handling.Modes
import IrcClient.Handling.Presence
import IrcClient.Handling.Roster
import IrcClient.Handling.Talk
import IrcClient.Handling.Topic

/-!
# Handling a line

Every command that the client understands is a `Verb`. A line with another command
does nothing (`process`).
-/

namespace IrcClient

/-- The commands and replies that the client acts on. -/
inductive Verb where
  | welcome | nickRejected | ping | error | announcement
  | namesReply | endOfNames
  | join | part | kick | quit | nick
  | topic | topicReply | noTopic
  | mode | channelModeIs
  | whoisUser | whoisServer | whoisOperator | whoisIdle | whoisChannels | whoisAccount
  | whoisSecure | away | endOfWhois
  | privmsg | notice
  | failure
deriving DecidableEq, Repr

namespace Verb

/-- The verb of a command, if it has one. -/
def ofCommand? : String → Option Verb
  | "001" => some welcome
  | "432" => some nickRejected
  | "433" => some nickRejected
  | "PING" => some ping
  | "ERROR" => some error
  | "005" => some announcement
  | "353" => some namesReply
  | "366" => some endOfNames
  | "JOIN" => some join
  | "PART" => some part
  | "KICK" => some kick
  | "QUIT" => some quit
  | "NICK" => some nick
  | "TOPIC" => some topic
  | "332" => some topicReply
  | "331" => some noTopic
  | "MODE" => some mode
  | "324" => some channelModeIs
  | "311" => some whoisUser
  | "312" => some whoisServer
  | "313" => some whoisOperator
  | "317" => some whoisIdle
  | "319" => some whoisChannels
  | "330" => some whoisAccount
  | "671" => some whoisSecure
  | "301" => some away
  | "318" => some endOfWhois
  | "PRIVMSG" => some privmsg
  | "NOTICE" => some notice
  | code => if Numeric.isFailure code then some failure else none

/-- What a verb does. -/
def handler (p : Persona) : Verb → Handler
  | welcome => Handling.welcome
  | nickRejected => Handling.nickRejected
  | ping => Handling.ping
  | error => Handling.serverError
  | announcement => Handling.announcement
  | namesReply => Handling.namesReply
  | endOfNames => Handling.endOfNames
  | join => Handling.join
  | part => Handling.part
  | kick => Handling.kick
  | quit => Handling.quit
  | nick => Handling.nick
  | topic => Handling.topic
  | topicReply => Handling.topicReply
  | noTopic => Handling.noTopic
  | mode => Handling.mode
  | channelModeIs => Handling.channelModeIs
  | whoisUser => Handling.whoisUser
  | whoisServer => Handling.whoisServer
  | whoisOperator => Handling.whoisOperator
  | whoisIdle => Handling.whoisIdle
  | whoisChannels => Handling.whoisChannels
  | whoisAccount => Handling.whoisAccount
  | whoisSecure => Handling.whoisSecure
  | away => Handling.away
  | endOfWhois => Handling.endOfWhois
  | privmsg => Handling.privmsg p
  | notice => Handling.notice
  | failure => Handling.failure

end Verb

/-- Whether the client acts on a command. -/
def handles (command : String) : Bool :=
  (Verb.ofCommand? command).isSome

/-- Handles a line: what becomes of the network, and what else is to be done. -/
def process (p : Persona) : Handler := fun net msg =>
  match Verb.ofCommand? msg.command with
  | none => (net, .empty)
  | some v => v.handler p net msg

end IrcClient
