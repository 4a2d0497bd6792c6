import IrcClient.Configuration
import IrcClient.World
import Mathlib.Init

/-!
# The command line

The program takes the client's part in one conversation: what the server says comes in on
standard input, and what the client says goes out on standard output. The network is the
first one in the configuration that is to be connected to at the start. When the input ends
the client takes its leave.

What the client takes from outside is read here and handed on: the date that it gives to others,
and the random letters of its nonce.
-/

namespace IrcClient

/-- What the command line says. -/
structure Options where
  config : Option String := none
  quitMessage : String := "Leaving"

/-- Reads the command line, if it is well formed. -/
def Options.parse (o : Options) : List String → Option Options
  | [] => some o
  | "-c" :: file :: rest => parse { o with config := some file } rest
  | "--config" :: file :: rest => parse { o with config := some file } rest
  | "--quit-message" :: text :: rest => parse { o with quitMessage := text } rest
  | _ => none

/-- The client of a configuration, with a link to the first network that it is to connect to. -/
def Configuration.open? (c : Configuration) (date nonce : String) : Option World := do
  let identity ← (c.networks.map (·.identity)).find? (·.autoConnect)
  let client : Client := .new c.settings date nonce c.store
  let w : World := {
    client, behaviours := .ofList (identity.endpoints.map fun e => (e.place, .accept)) }
  let w := (w.begin identity).1
  if (w.isOpen? 0).isSome then some w else none

/-- The date as it stands in mails, such as `Fri, 20 Nov 2026 11:55:09 +0000`. -/
def currentDate : IO String := do
  let now : Std.Time.DateTime := .ofTimestamp (← Std.Time.Timestamp.now) .UTC
  return now.format "eee, d MMM uuuu HH:mm:ss xx"

/-- A nonce of letters and digits that nobody can foresee. -/
def freshNonce : IO String := do
  let random ← IO.getRandomBytes 48
  -- six bits for each draw: the two signs among the digits of Base64 are passed over
  let letters := (Base64.encode random.toList).toList.filter Char.isAlphanum
  return Scram.nonceOf (Scram.drawFrom (String.ofList letters))

/-- Writes what is to be sent. -/
def writeOut (w : World) : IO World := do
  let w := w.settle
  let out ← IO.getStdout
  for (_, line) in w.sent do
    out.putStr (wireText line)
  out.flush
  return { w with sent := [] }

/-- Goes on with a conversation until one of the two sides ends it. -/
partial def converse (quitMessage : String) (w : World) : IO Unit := do
  let w ← writeOut w
  if w.isOpen? 0 = some true then
    let bytes ← (← IO.getStdin).read 4096
    if bytes.isEmpty then
      let _ ← writeOut { w with client := w.client.disconnectAll (some quitMessage) }
    else
      -- what the client now answers bears the date at which it was asked
      let w := { w with client := { w.client with date := ← currentDate } }
      converse quitMessage (w.updateSession 0 (·.receive bytes.toList))

/-- Reads a file. -/
def readFile (name : String) : IO FileContent := do
  try
    return .ok (← IO.FS.readBinFile name).toList
  catch _ =>
    return .error .notFound

/-- Complains, and gives the code of a failure. -/
def complain (text : String) : IO UInt32 := do
  IO.eprintln text
  return 1

end IrcClient

open IrcClient in
/-- The program. -/
def main (args : List String) : IO UInt32 := do
  match Options.parse {} args with
  | some { config := some file, quitMessage } =>
    match Configuration.load (← readFile file) with
    | .error e => complain e.message
    | .ok c =>
      match c.open? (← currentDate) (← freshNonce) with
      | none => complain "no network to connect to"
      | some w =>
        converse quitMessage w
        return 0
  | _ => complain "usage: --config FILE [--quit-message TEXT]"
