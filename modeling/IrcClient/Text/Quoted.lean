import IrcClient.Text.Visible

/-!
# Quoted text

Error messages quote the text they complain about. Within the quotes every
character that could mislead is escaped, so the quoted form never holds a line
break and ends at the first bare quote.
-/

namespace IrcClient

/-- A character as it stands within quotes. -/
def quoteChar (c : Char) : List Char :=
  if c = '\x00' then ['\\', '0']
  else if c = '\t' then ['\\', 't']
  else if c = '\r' then ['\\', 'r']
  else if c = '\n' then ['\\', 'n']
  else if c = '"' then ['\\', '"']
  else if c = '\\' then ['\\', '\\']
  else if isVisible c then [c]
  else ("\\u\x7b" ++ hexText c.toNat ++ "\x7d").toList

/-- Text in quotes. -/
def quoted (s : String) : String :=
  "\"" ++ String.ofList (s.toList.flatMap quoteChar) ++ "\""

end IrcClient
