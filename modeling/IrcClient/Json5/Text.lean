import IrcClient.Text.Numeral

/-!
# Text with escapes

The characters of a text are written as they are, or escaped; an escape may also stand
for one half of a surrogate pair. Whether the halves fit together shows only when the text
is read, so text that is well written may still have a fault.
-/

namespace IrcClient.Json5

/-- A part of a text. -/
inductive Piece where
  /-- A character, and whether its first written character is a hexadecimal digit. -/
  | char (c : Char) (hexLike : Bool)
  /-- A code unit, written in four hexadecimal digits. -/
  | unit (value : Nat)
deriving DecidableEq, Repr

/-- What is wrong with a text that is well written. -/
inductive TextFault where
  /-- The second half of a pair stands alone. -/
  | unexpectedTrail
  /-- The text ends after the first half of a pair. -/
  | missingTrail
  /-- The first half of a pair is followed by something else that could be a number. -/
  | expectedTrail
  /-- The first half of a pair is followed by something else that could not. -/
  | hex
deriving DecidableEq, Repr

/-- The words for it. -/
def TextFault.message : TextFault → String
  | unexpectedTrail => "unexpected unicode trail surrogate"
  | missingTrail => "missing unicode trail surrogate"
  | expectedTrail => "expecting unicode trail surrogate"
  | hex => "error parsing hex"

/-- Whether a code unit is the first half of a pair. -/
def isLead (n : Nat) : Bool :=
  0xD800 ≤ n && n ≤ 0xDBFF

/-- Whether a code unit is the second half of a pair. -/
def isTrail (n : Nat) : Bool :=
  0xDC00 ≤ n && n ≤ 0xDFFF

/--
The character of a pair: each half gives ten bits, and bit 16 is set. So every second plane
stands for the one after it, and plane 2 is out of reach.
-/
def joinPair (lead trail : Nat) : Char :=
  Char.ofNat (((lead - 0xD800) * 0x400 + (trail - 0xDC00)) ||| 0x10000)

/-- The characters that some pieces spell. -/
def readPieces : List Piece → Except TextFault (List Char)
  | [] => .ok []
  | .char c _ :: rest => (readPieces rest).map (c :: ·)
  | .unit n :: rest =>
    if isTrail n then .error .unexpectedTrail
    else if isLead n then
      match rest with
      | [] => .error .missingTrail
      | .unit n' :: rest =>
        if isTrail n' then (readPieces rest).map (joinPair n n' :: ·) else .error .expectedTrail
      | .char _ hexLike :: _ => .error (if hexLike then .expectedTrail else .hex)
    else (readPieces rest).map (Char.ofNat n :: ·)

/-- A text as it is read: its characters, or its fault. -/
abbrev Text := Except TextFault String

/-- The text that some pieces spell. -/
def textOf (pieces : List Piece) : Text :=
  (readPieces pieces).map String.ofList

end IrcClient.Json5
