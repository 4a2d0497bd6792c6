import IrcClient.Sasl.Scram

/-!
# Mechanisms

A mechanism has a name and answers challenges. What negotiates the use of one needs
to know no more of it (`SaslMechanism`); the mechanisms that can be configured are
those of `Mechanism`.
-/

namespace IrcClient

/-- A value that takes the client's part in an authentication. -/
class SaslMechanism (m : Type) where
  /-- The name by which the client asks for the mechanism. -/
  name : m → String
  /-- The answer to a challenge, and the mechanism for the next one. -/
  step : m → Bytes → m × Except SaslError Bytes

/-- The mechanisms that can be configured. -/
inductive MechanismName where
  | plain | external | scramSha256 | scramSha512
deriving DecidableEq, Repr

namespace MechanismName

instance : Inhabited MechanismName := ⟨plain⟩

/-- Every mechanism that can be configured. -/
def all : List MechanismName :=
  [plain, external, scramSha256, scramSha512]

/-- The name itself. -/
def text : MechanismName → String
  | plain => "PLAIN"
  | external => "EXTERNAL"
  | scramSha256 => "SCRAM-SHA-256"
  | scramSha512 => "SCRAM-SHA-512"

/-- The mechanism of a name, which has to be in upper case. -/
def ofText? (s : String) : Option MechanismName :=
  all.find? (·.text = s)

theorem ofText?_text (n : MechanismName) : ofText? n.text = some n := by
  cases n <;> decide

end MechanismName

/-- A mechanism in use. -/
inductive Mechanism where
  | plain (username password : String)
  | external
  | scram (client : Scram)

namespace Mechanism

/-- A mechanism at the beginning of an authentication. -/
def new (name : MechanismName) (username password nonce : String) : Mechanism :=
  match name with
  | .plain => plain username password
  | .external => external
  | .scramSha256 => scram (.new .sha256 username password nonce)
  | .scramSha512 => scram (.new .sha512 username password nonce)

/-- The name of a mechanism in use. -/
def name : Mechanism → String
  | plain .. => "PLAIN"
  | external => "EXTERNAL"
  | scram client => client.digest.mechanism

/-- The answer to a challenge. Only SCRAM looks at it. -/
def step : Mechanism → Bytes → Mechanism × Except SaslError Bytes
  | plain username password, _ =>
    (plain username password, .ok (0 :: Utf8.encode username ++ 0 :: Utf8.encode password))
  | external, _ => (external, .ok [])
  | scram client, challenge =>
    let (client, answer) := client.step challenge
    (scram client, answer)

instance : SaslMechanism Mechanism := ⟨name, step⟩

theorem name_new (n : MechanismName) (username password nonce : String) :
    (new n username password nonce).name = n.text := by
  cases n <;> rfl

end Mechanism

end IrcClient
