import IrcClient.Digest.Sha2

/-!
# Digests

Authentication by a shared secret needs a hash function, a keyed hash (HMAC) and a
slow one for passwords (PBKDF2). A `Digest` is such a trio of a fixed length, under
the name of the mechanism that uses it, and the authentication works with any.
-/

namespace IrcClient

/-- A hash function with what is built on it. All results have `length` bytes. -/
structure Digest where
  mechanism : String
  length : Nat
  hash : Bytes → Bytes
  hmac : (key data : Bytes) → Bytes
  saltedPassword : (password salt : Bytes) → (iterations : Nat) → Bytes

/-- Two byte strings combined place by place, up to the end of the shorter. -/
def xorBytes (a b : Bytes) : Bytes :=
  List.zipWith (· ^^^ ·) a b

namespace Sha2

variable {w : Type} [Word w]

/-- The hash of some bytes. -/
def hash (start : State w) (data : Bytes) : Bytes :=
  (finish start 0 data).bytes

/-- A key of the length of a block: a longer one is hashed first, and zeros fill it up. -/
def blockKey (start : State w) (key : Bytes) : Bytes :=
  let key := if key.length ≤ blockSize w then key else hash start key
  key ++ List.replicate (blockSize w - key.length) 0

/-- A key that has been mixed into the two states from which both passes of HMAC go on. -/
structure KeyedState (w : Type) where
  inner : State w
  outer : State w

/-- Mixes a key into both states. -/
def keyed (start : State w) (key : Bytes) : KeyedState w :=
  let block := blockKey start key
  ⟨absorb start (block.map (· ^^^ 0x36)), absorb start (block.map (· ^^^ 0x5C))⟩

/-- The keyed hash of some bytes, as a state. -/
def KeyedState.hmac (k : KeyedState w) (data : Bytes) : State w :=
  finish k.outer (blockSize w) (finish k.inner (blockSize w) data).bytes

/-- The keyed hash of a hash. Both passes end with a single block. -/
@[specialize] def KeyedState.again (k : KeyedState w) (u : State w) : State w :=
  compress k.outer (hashBlock (compress k.inner (hashBlock u)))

/-- Goes on hashing `u` for `n` times, and combines each result with `sum`. -/
@[specialize] def KeyedState.sumFrom (k : KeyedState w) : Nat → (u sum : State w) → State w
  | 0, _, sum => sum
  | n + 1, u, sum =>
    let u := k.again u
    k.sumFrom n u (State.zip Word.xor sum u)

/-- The first block of PBKDF2, which is all that is asked for. There is at least one iteration. -/
@[specialize] def saltedPassword (start : State w) (password salt : Bytes) (iterations : Nat) :
    State w :=
  let k := keyed start password
  let u := k.hmac (salt ++ [0, 0, 0, 1])
  k.sumFrom (iterations - 1) u u

end Sha2

/-- SHA-256 and what is built on it. -/
def Digest.sha256 : Digest where
  mechanism := "SCRAM-SHA-256"
  length := 32
  hash := Sha2.hash Sha2.start256
  hmac key data := ((Sha2.keyed Sha2.start256 key).hmac data).bytes
  saltedPassword password salt n := (Sha2.saltedPassword Sha2.start256 password salt n).bytes

/-- SHA-512 and what is built on it. -/
def Digest.sha512 : Digest where
  mechanism := "SCRAM-SHA-512"
  length := 64
  hash := Sha2.hash Sha2.start512
  hmac key data := ((Sha2.keyed Sha2.start512 key).hmac data).bytes
  saltedPassword password salt n := (Sha2.saltedPassword Sha2.start512 password salt n).bytes

end IrcClient
