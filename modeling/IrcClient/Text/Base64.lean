import IrcClient.Text.Utf8

/-!
# Base64

Three bytes become four symbols of six bits; one or two bytes left over become two or
three symbols, and padding makes four of them. Reading is strict: there is one way to
write each string of bytes, and no other is accepted.
-/

namespace IrcClient.Base64

/-- The symbols, in the order of their values. -/
def alphabet : List Char :=
  "ABCDEFGHIJKLMNOPQRSTUVWXYZabcdefghijklmnopqrstuvwxyz0123456789+/".toList

/-- The symbol of a value below 64. -/
def symbol (n : Nat) : Char :=
  alphabet[n]?.getD '='

/-- The byte of the padding character. -/
def pad : UInt8 := 61

/-- The value of a symbol, given as a byte. -/
def value? (b : UInt8) : Option Nat :=
  let n := b.toNat
  if 65 ≤ n && n ≤ 90 then some (n - 65)
  else if 97 ≤ n && n ≤ 122 then some (n - 97 + 26)
  else if 48 ≤ n && n ≤ 57 then some (n - 48 + 52)
  else if n = 43 then some 62
  else if n = 47 then some 63
  else none

/-! ## Writing -/

/-- The symbols of some bytes, padding and all. -/
def symbols : Bytes → List Char
  | a :: b :: c :: rest =>
    let n := 65536 * a.toNat + 256 * b.toNat + c.toNat
    symbol (n / 262144) :: symbol (n / 4096 % 64) :: symbol (n / 64 % 64) :: symbol (n % 64) ::
      symbols rest
  | [a, b] =>
    let n := 1024 * a.toNat + 4 * b.toNat
    [symbol (n / 4096), symbol (n / 64 % 64), symbol (n % 64), '=']
  | [a] =>
    let n := 16 * a.toNat
    [symbol (n / 64), symbol (n % 64), '=', '=']
  | [] => []

/-- Some bytes as text. -/
def encode (bytes : Bytes) : String :=
  String.ofList (symbols bytes)

/-! ## Reading -/

/-- What is wrong with a text that is not Base64. Offsets are in bytes. -/
inductive DecodeError where
  | invalidByte (offset : Nat) (byte : UInt8)
  | invalidLength
  | invalidLastSymbol (offset : Nat) (byte : UInt8)
  | invalidPadding
deriving DecidableEq, Repr

/-- The words for what is wrong. -/
def DecodeError.message : DecodeError → String
  | .invalidByte offset byte => s!"Invalid byte {byte}, offset {offset}."
  | .invalidLength => "Encoded text cannot have a 6-bit remainder."
  | .invalidLastSymbol offset byte => s!"Invalid last symbol {byte}, offset {offset}."
  | .invalidPadding => "Invalid padding"

/-- The bytes of some values of six bits, and whether bits that stand for nothing are zero. -/
def ofValues : List Nat → Bytes × Bool
  | a :: b :: c :: d :: rest =>
    let n := 262144 * a + 4096 * b + 64 * c + d
    let (bytes, clean) := ofValues rest
    (.ofNat (n / 65536) :: .ofNat (n / 256 % 256) :: .ofNat (n % 256) :: bytes, clean)
  | [a, b, c] =>
    let n := 4096 * a + 64 * b + c
    ([.ofNat (n / 1024), .ofNat (n / 4 % 256)], c % 4 = 0)
  | [a, b] => ([.ofNat ((64 * a + b) / 16)], b % 16 = 0)
  | [_] => ([], true)
  | [] => ([], true)

/--
Whether padding is in its place behind `n` symbols: it begins within the second half
of a group of four, and goes on to the end of the text, which is not beyond the group.
-/
def padsWell (n : Nat) (padding : Bytes) : Bool :=
  2 ≤ n % 4 && padding.all (· = pad) && n % 4 + padding.length ≤ 4

/-- The fault in the shape of a text of `length` bytes that begins with `n` symbols. -/
def shapeFault (padded : Bool) (length n : Nat) (tail : Bytes) : Option DecodeError :=
  -- one symbol alone holds no byte, whatever else is wrong
  if length % 4 = 1 then
    some (match tail.getLast? with
      | some b => if b = pad || (value? b).isSome then .invalidLength
        else .invalidByte (length - 1) b
      | none => .invalidLength)
  else match tail with
    | [] => if padded && length % 4 ≠ 0 then some .invalidPadding else none
    | b :: _ =>
      if b ≠ pad || !padsWell n tail then some (.invalidByte n b)
      else if padded && length % 4 ≠ 0 then some .invalidPadding
      else none

/-- The bytes of a text. Where it has to be `padded`, it fills its last group of four. -/
def decodeWith (padded : Bool) (text : Bytes) : Except DecodeError Bytes :=
  let body := text.takeWhile fun b => (value? b).isSome
  let tail := text.dropWhile fun b => (value? b).isSome
  match shapeFault padded text.length body.length tail with
  | some e => .error e
  | none =>
    let (bytes, clean) := ofValues (body.filterMap value?)
    if clean then .ok bytes
    else .error (.invalidLastSymbol (body.length - 1) (body.getLast?.getD 0))

/-- The bytes of a text that is written in full. -/
def decode (text : String) : Except DecodeError Bytes :=
  decodeWith true (Utf8.encode text)

end IrcClient.Base64
