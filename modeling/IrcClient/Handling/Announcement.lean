import IrcClient.Handling.Registration

/-!
# Announcements of what the server supports

An announcement is a list of tokens `NAME=VALUE`. Each token stands on its own, so
it does not matter how the server divides them into lines.
-/

namespace IrcClient.Handling

/-- Puts one token in force. A token that takes something back, or is malformed, is passed over. -/
def applyToken (s : Support) (token : String) : Support :=
  let (name, value) := (cut? '=' token.toList).getD (token.toList, [])
  let value := String.ofList value
  match String.ofList name with
  | "PREFIX" =>
    match s.applyPrefix value with
    | .ok s' => s'
    | .error _ => s
  | "CHANMODES" => { s with chanModes := value }
  | "CHANTYPES" => { s with chanTypes := value }
  | "NETWORK" => { s with networkName := some value }
  | _ => s

/-- The tokens of an announcement: what stands between the nickname and the closing text. -/
def announcedTokens (msg : Message) : List String :=
  (msg.args.drop 1).dropLast

/-- Puts an announcement in force. -/
def announcement : Handler := fun net msg =>
  ({ net with support := (announcedTokens msg).foldl applyToken net.support }, .empty)

end IrcClient.Handling
