/-!
# Numeric replies

Replies carry a number of three digits for a command. `Numeric.name?` names those
that have a meaning of their own for the client; `Numeric.description?` holds those
that report a failure and nothing else, with the words to use when the server gives
none.
-/

namespace IrcClient.Numeric

/-- Replies with a meaning of their own. -/
def names : List (String × String) := [
  ("001", "RPL_WELCOME"),
  ("005", "RPL_ISUPPORT"),
  ("221", "RPL_UMODEIS"),
  ("301", "RPL_AWAY"),
  ("311", "RPL_WHOISUSER"),
  ("312", "RPL_WHOISSERVER"),
  ("313", "RPL_WHOISOPERATOR"),
  ("317", "RPL_WHOISIDLE"),
  ("318", "RPL_ENDOFWHOIS"),
  ("319", "RPL_WHOISCHANNELS"),
  ("324", "RPL_CHANNELMODEIS"),
  ("330", "RPL_WHOISACCOUNT"),
  ("331", "RPL_NOTOPIC"),
  ("332", "RPL_TOPIC"),
  ("353", "RPL_NAMREPLY"),
  ("366", "RPL_ENDOFNAMES"),
  ("421", "ERR_UNKNOWNCOMMAND"),
  ("432", "ERR_ERRONEUSNICKNAME"),
  ("433", "ERR_NICKNAMEINUSE"),
  ("671", "RPL_WHOISSECURE"),
  ("900", "RPL_LOGGEDIN"),
  ("901", "RPL_LOGGEDOUT"),
  ("902", "ERR_NICKLOCKED"),
  ("903", "RPL_SASLSUCCESS"),
  ("904", "ERR_SASLFAIL"),
  ("905", "ERR_SASLTOOLONG"),
  ("906", "ERR_SASLABORTED"),
  ("907", "ERR_SASLALREADY"),
  ("908", "RPL_SASLMECHS")]

/-- Replies that report a failure, with what they report. -/
def failures : List (String × String) := [
  ("401", "No such nick/channel"),
  ("403", "No such channel"),
  ("404", "Cannot send to channel"),
  ("405", "You have joined too many channels"),
  ("406", "There was no such nickname"),
  ("441", "They aren't on that channel"),
  ("442", "You're not on that channel"),
  ("443", "is already on channel"),
  ("471", "Cannot join channel (+l)"),
  ("473", "Cannot join channel (+i)"),
  ("474", "Cannot join channel (+b)"),
  ("475", "Cannot join channel (+k)"),
  ("477", "You need to be identified to join that channel"),
  ("478", "Channel list is full"),
  ("481", "Permission Denied- You're not an IRC operator"),
  ("482", "You're not channel operator"),
  ("483", "You can't kill a server!"),
  ("491", "No O-lines for your host")]

/-- The name of a reply with a meaning of its own. -/
def name? (code : String) : Option String :=
  names.lookup code

/-- What a reply that reports a failure says. -/
def description? (code : String) : Option String :=
  failures.lookup code

/-- Whether a reply reports a failure and nothing else. -/
def isFailure (code : String) : Bool :=
  (description? code).isSome

end IrcClient.Numeric
