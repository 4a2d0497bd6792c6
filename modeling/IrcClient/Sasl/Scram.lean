import IrcClient.Digest
import IrcClient.Sasl.Error
import IrcClient.Text.Numeral

/-!
# SCRAM

The client proves that it knows a password, and the server that it knows what was
derived from it, and neither sends the password. The client speaks first; the server
answers with its nonce, a salt and a number of iterations; the client sends its proof;
and the server's signature, which only the holder of the derived key can give, ends
the exchange. Whatever goes wrong, the exchange is over.

Nothing here depends on the hash function, so the digest is a parameter.
-/

namespace IrcClient

/-- How far an exchange has come. -/
inductive ScramStage where
  | initial
  | clientFirstSent
  | clientFinalSent (serverSignature : Bytes)
  | complete
deriving DecidableEq, Repr, Inhabited

/-- The client in an exchange. -/
structure Scram where
  digest : Digest
  username : String
  password : String
  nonce : String
  stage : ScramStage

namespace Scram

/-- The client at the beginning of an exchange. -/
def new (digest : Digest) (username password nonce : String) : Scram :=
  { digest, username, password, nonce, stage := .initial }

/-! ## Nonces -/

/-- The number of characters of a nonce. -/
def nonceLength : Nat := 24

/-- A nonce from bytes drawn at random, one character for each draw. -/
def nonceOf (draw : Nat → UInt8) : String :=
  String.ofList ((List.range nonceLength).map fun i => Char.ofNat (draw i).toNat)

/-- Draws the bytes of a text one after another, over and over. -/
def drawFrom (seed : String) (i : Nat) : UInt8 :=
  let bytes := Utf8.encode (if seed.isEmpty then "A" else seed)
  bytes[i % bytes.length]?.getD 0

/-! ## Messages -/

/-- The beginning of the client's first message: no channel binding, no other identity. -/
def header : String := "n,,"

/-- A user name with its reserved characters written out. -/
def escapeChar (c : Char) : List Char :=
  if c = '=' then ['=', '3', 'D'] else if c = ',' then ['=', '2', 'C'] else [c]

/-- The user name as an attribute of a message. -/
def escapeName (name : String) : String :=
  String.ofList (name.toList.flatMap escapeChar)

/-- The client's first message without its header. -/
def clientFirstBare (s : Scram) : String :=
  "n=" ++ escapeName s.username ++ ",r=" ++ s.nonce

/-- An attribute of a server message. -/
structure Attribute where
  name : Char
  value : String
deriving DecidableEq, Repr, Inhabited

/-- An attribute as it stands between commas. Some end the exchange by being there. -/
def readAttribute (message : String) : List Char → Except SaslError Attribute
  | name :: '=' :: value =>
    if name = 'e' then .error (.serverError (String.ofList value))
    else if name = 'm' then .error (.malformed "unsupported mandatory extension")
    else .ok ⟨name, String.ofList value⟩
  | _ => .error (.malformed message)

/-- The attributes of a server message. -/
def readAttributes (message : String) : Except SaslError (List Attribute) :=
  (pieces ',' message.toList).mapM (readAttribute message)

/-- The value of the first attribute of a name, which has to be there. -/
def require (attributes : List Attribute) (name : Char) (message : String) :
    Except SaslError String :=
  match attributes.find? (·.name = name) with
  | some a => .ok a.value
  | none => .error (.malformed
      ("missing " ++ String.singleton name ++ "= in " ++ quoted message))

/-- The text of a server message, which has to be UTF-8. -/
def readText (what : String) (challenge : Bytes) : Except SaslError String :=
  match Utf8.decode? challenge with
  | some s => .ok s
  | none => .error (.malformed (what ++ " is not UTF-8"))

/-- Whether the server's nonce goes on where the client's ends. -/
def isExtendedBy (nonce serverNonce : String) : Bool :=
  match rest? nonce.toList serverNonce.toList with
  | some rest => !rest.isEmpty
  | none => false

/-- More iterations than this are a mistake, or an attack. -/
def maxIterations : Nat := 1000000

/-- A number of iterations, from 1 to `maxIterations`. -/
def readIterations (count : String) : Except SaslError Nat :=
  match (parseCount (Nat.pow 2 32) count.toList).filter fun n => 0 < n && n ≤ maxIterations with
  | some n => .ok n
  | none => .error (.invalidIterations count)

/-- What the server's first message says. -/
structure ServerFirst where
  text : String
  nonce : String
  salt : Bytes
  iterations : Nat
deriving DecidableEq, Repr

/-- Reads the server's first message. -/
def readServerFirst (nonce : String) (challenge : Bytes) : Except SaslError ServerFirst := do
  let text ← readText "server-first" challenge
  let attributes ← readAttributes text
  let serverNonce ← require attributes 'r' text
  -- a server that does not go on from the client's nonce answers somebody else
  if !isExtendedBy nonce serverNonce then throw .nonceMismatch
  let salt ← SaslError.decode (← require attributes 's' text)
  let iterations ← readIterations (← require attributes 'i' text)
  return ⟨text, serverNonce, salt, iterations⟩

/-- Reads the signature in the server's last message. -/
def readServerFinal (challenge : Bytes) : Except SaslError Bytes := do
  let text ← readText "server-final" challenge
  let attributes ← readAttributes text
  SaslError.decode (← require attributes 'v' text)

/-! ## The proof -/

/-- The key from which all others are derived. -/
def saltedPassword (s : Scram) (m : ServerFirst) : Bytes :=
  s.digest.saltedPassword (Utf8.encode s.password) m.salt m.iterations

/-- The key that the client proves to hold. -/
def clientKey (s : Scram) (m : ServerFirst) : Bytes :=
  s.digest.hmac (s.saltedPassword m) (Utf8.encode "Client Key")

/-- What the server keeps to check the client's proof. -/
def storedKey (s : Scram) (m : ServerFirst) : Bytes :=
  s.digest.hash (s.clientKey m)

/-- The key with which the server signs. -/
def serverKey (s : Scram) (m : ServerFirst) : Bytes :=
  s.digest.hmac (s.saltedPassword m) (Utf8.encode "Server Key")

/-- The client's last message without its proof. -/
def clientFinalBare (m : ServerFirst) : String :=
  "c=" ++ Base64.encode (Utf8.encode header) ++ ",r=" ++ m.nonce

/-- What both sides sign: all that was said. -/
def authMessage (s : Scram) (m : ServerFirst) : Bytes :=
  Utf8.encode (s.clientFirstBare ++ "," ++ m.text ++ "," ++ clientFinalBare m)

/-- The client's proof. -/
def proof (s : Scram) (m : ServerFirst) : Bytes :=
  xorBytes (s.clientKey m) (s.digest.hmac (s.storedKey m) (s.authMessage m))

/-- The signature that the server has to give. -/
def serverSignature (s : Scram) (m : ServerFirst) : Bytes :=
  s.digest.hmac (s.serverKey m) (s.authMessage m)

/-! ## The exchange -/

/-- The client's first message. -/
def clientFirst (s : Scram) : Bytes :=
  Utf8.encode (header ++ s.clientFirstBare)

/-- The client's last message. -/
def clientFinal (s : Scram) (m : ServerFirst) : Bytes :=
  Utf8.encode (clientFinalBare m ++ ",p=" ++ Base64.encode (s.proof m))

/-- Answers a challenge. -/
def step (s : Scram) (challenge : Bytes) : Scram × Except SaslError Bytes :=
  let finished : Scram := { s with stage := .complete }
  match s.stage with
  | .initial => ({ s with stage := .clientFirstSent }, .ok s.clientFirst)
  | .clientFirstSent =>
    match readServerFirst s.nonce challenge with
    | .error e => (finished, .error e)
    | .ok m => ({ s with stage := .clientFinalSent (s.serverSignature m) }, .ok (s.clientFinal m))
  | .clientFinalSent signature =>
    (finished, match readServerFinal challenge with
      | .error e => .error e
      | .ok v => if v = signature then .ok [] else .error .serverSignatureMismatch)
  | .complete => (finished, .error .unexpectedChallenge)

end Scram

end IrcClient
