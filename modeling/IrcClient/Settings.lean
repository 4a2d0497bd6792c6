/-!
# Settings

What is set for the client as a whole. Times are in milliseconds.
-/

namespace IrcClient

/-- The settings of the client. -/
structure Settings where
  /-- How long the client waits for an endpoint. -/
  connectTimeout : Nat := 30000
  /-- How long the client waits between one network and the next when it starts. -/
  stagger : Nat := 500
  /-- What the client calls itself when others ask. -/
  version : String := "kestrel 0.1.0"
deriving DecidableEq, Repr, Inhabited

end IrcClient
