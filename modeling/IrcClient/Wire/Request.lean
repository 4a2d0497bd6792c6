import IrcClient.Ctcp

/-!
# What the client asks of the server

A request is one line. Free text goes last, behind a colon.
-/

namespace IrcClient

/-- A request to the server. -/
inductive Request where
  | raw (line : String)
  | nick (nickname : String)
  | join (channel : String) (key : Option String)
  | part (channel : String) (reason : Option String)
  | privmsg (target text : String)
  | notice (target text : String)
  | topic (channel text : String)
  | whois (nickname : String)
  | quit (reason : Option String)
deriving DecidableEq, Repr

namespace Request

/-- A query to another client, inside a message. -/
def ctcp (target command params : String) : Request :=
  privmsg target (Ctcp.encode command params)

/-- A query whose command is written in capitals. -/
def query (target command params : String) : Request :=
  ctcp target (upper command) params

/-- The reply to another client's query, inside a notice. -/
def ctcpReply (target command params : String) : Request :=
  notice target (Ctcp.encode command params)

/-- The line of a request, without its end. -/
def line : Request → String
  | raw line => line
  | nick nickname => "NICK " ++ nickname
  | join channel none => "JOIN " ++ channel
  | join channel (some key) => "JOIN " ++ channel ++ " " ++ key
  | part channel none => "PART " ++ channel
  | part channel (some reason) => "PART " ++ channel ++ " :" ++ reason
  | privmsg target text => "PRIVMSG " ++ target ++ " :" ++ text
  | notice target text => "NOTICE " ++ target ++ " :" ++ text
  | topic channel text => "TOPIC " ++ channel ++ " :" ++ text
  | whois nickname => "WHOIS " ++ nickname
  | quit none => "QUIT"
  | quit (some reason) => "QUIT :" ++ reason

end Request

end IrcClient
