import IrcClient.Text.Letter
import IrcClient.Text.Split

/-!
# Queries between clients

A message body may carry a query for the client at the other end, or the reply to
one, between two delimiters. The closing delimiter is left out by some clients, so
`Ctcp.parse?` does without it.
-/

namespace IrcClient

/-- A query or a reply: its name in upper case, and its parameters as they stand. -/
structure Ctcp where
  command : String
  params : String
deriving DecidableEq, Repr, Inhabited

namespace Ctcp

/-- The character around a query. -/
def delimiter : Char := '\x01'

/-- The queries that a client answers, or shows, of its own accord. -/
def supported : List String :=
  ["ACTION", "CLIENTINFO", "PING", "TIME", "VERSION"]

/-- The query in a message body. A name of no characters names none. -/
def parse? (body : String) : Option Ctcp :=
  match body.toList with
  | [] => none
  | c :: rest =>
    if c ≠ delimiter then none
    else
      let inner := (dropLast? delimiter rest).getD rest
      let (command, params) := (cut? ' ' inner).getD (inner, [])
      if command.isEmpty then none
      else some ⟨upper (String.ofList command), String.ofList params⟩

/-- The message body that carries a query. -/
def encode (command params : String) : String :=
  let inner := if params.isEmpty then command else command ++ " " ++ params
  String.singleton delimiter ++ inner ++ String.singleton delimiter

end Ctcp

end IrcClient
