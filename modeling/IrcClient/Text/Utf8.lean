/-!
# Text as bytes

Text travels as UTF-8. Reading is strict (`decode?`) where the other side has to get
it right, and lossy (`decodeLossy`) where any bytes may come: there the longest
beginning of a character that leads nowhere becomes one replacement character, and
reading goes on behind it.
-/

namespace IrcClient

/-- A string of bytes. -/
abbrev Bytes := List UInt8

namespace Utf8

/-- The bytes of a character. -/
def encodeChar (c : Char) : Bytes :=
  let n := c.toNat
  if n < 0x80 then [.ofNat n]
  else if n < 0x800 then [.ofNat (0xC0 + n / 64), .ofNat (0x80 + n % 64)]
  else if n < 0x10000 then
    [.ofNat (0xE0 + n / 4096), .ofNat (0x80 + n / 64 % 64), .ofNat (0x80 + n % 64)]
  else
    [.ofNat (0xF0 + n / 262144), .ofNat (0x80 + n / 4096 % 64), .ofNat (0x80 + n / 64 % 64),
      .ofNat (0x80 + n % 64)]

/-- The bytes of a text. -/
def encode (s : String) : Bytes :=
  s.toList.flatMap encodeChar

/-- What the first byte of a character says: how many more there are, the bits it brings, and
the bounds of the second byte, which keep out overlong forms and code points of no character. -/
structure Lead where
  more : Nat
  bits : Nat
  least : Nat
  greatest : Nat

/-- The first byte of a character, read. -/
def lead? (b : UInt8) : Option Lead :=
  let n := b.toNat
  if n < 0x80 then some ⟨0, n, 0, 0⟩
  else if n < 0xC2 then none
  else if n < 0xE0 then some ⟨1, n - 0xC0, 0x80, 0xBF⟩
  else if n = 0xE0 then some ⟨2, 0, 0xA0, 0xBF⟩
  else if n = 0xED then some ⟨2, 0xD, 0x80, 0x9F⟩
  else if n < 0xF0 then some ⟨2, n - 0xE0, 0x80, 0xBF⟩
  else if n = 0xF0 then some ⟨3, 0, 0x90, 0xBF⟩
  else if n < 0xF4 then some ⟨3, n - 0xF0, 0x80, 0xBF⟩
  else if n = 0xF4 then some ⟨3, 4, 0x80, 0x8F⟩
  else none

/--
Reads the further bytes of a character, the next of which has to lie within bounds:
the character, or none if it breaks off, and what follows.
-/
def follow (bits least greatest : Nat) : Nat → Bytes → Option Char × Bytes
  | 0, rest => (some (Char.ofNat bits), rest)
  | _ + 1, [] => (none, [])
  | more + 1, b :: rest =>
    if least ≤ b.toNat && b.toNat ≤ greatest then
      follow (64 * bits + (b.toNat - 0x80)) 0x80 0xBF more rest
    else (none, b :: rest)

/-- Reads the character that begins with `b`, or as much of it as there is. -/
def next (b : UInt8) (rest : Bytes) : Option Char × Bytes :=
  match lead? b with
  | none => (none, rest)
  | some l => follow l.bits l.least l.greatest l.more rest

theorem length_follow_le (bits least greatest : Nat) : ∀ (more : Nat) (rest : Bytes),
    (follow bits least greatest more rest).2.length ≤ rest.length
  | 0, _ => Nat.le_refl _
  | _ + 1, [] => Nat.le_refl _
  | more + 1, b :: rest => by
    unfold follow
    split
    · exact Nat.le_succ_of_le (length_follow_le ..)
    · exact Nat.le_refl _

theorem length_next_le (b : UInt8) (rest : Bytes) : (next b rest).2.length ≤ rest.length := by
  unfold next
  split
  · exact Nat.le_refl _
  · exact length_follow_le ..

/-- The characters of some bytes, with a gap where the bytes make up none. -/
def scan : Bytes → List (Option Char)
  | [] => []
  | b :: rest =>
    have := length_next_le b rest
    (next b rest).1 :: scan (next b rest).2
termination_by bytes => bytes.length

/-- The text of some bytes, if they are the bytes of one. -/
def decode? (bytes : Bytes) : Option String :=
  ((scan bytes).mapM id).map String.ofList

/-- The text of some bytes, with replacement characters in the gaps. -/
def decodeLossy (bytes : Bytes) : String :=
  String.ofList ((scan bytes).map (·.getD '\ufffd'))

end Utf8

end IrcClient
