/-!
# Numerals

A count on the wire is a run of ASCII digits, with a `+` in front if it likes; a
signed number may have a `-` instead. A numeral whose value does not fit is no
numeral. Hexadecimal digits may be in either case.
-/

namespace IrcClient

/-- The value of an ASCII digit. -/
def digit? (c : Char) : Option Nat :=
  if c.isDigit then some (c.toNat - '0'.toNat) else none

/-- The value of a run of digits, read on from `acc`. -/
def digitsFrom (acc : Nat) : List Char → Option Nat
  | [] => some acc
  | c :: rest => (digit? c).bind fun d => digitsFrom (10 * acc + d) rest

/-- The value of a run of at least one digit. -/
def digits? : List Char → Option Nat
  | [] => none
  | c :: rest => digitsFrom 0 (c :: rest)

/-- The numeral of a number from zero up to, and without, `bound`. -/
def parseCount (bound : Nat) (s : List Char) : Option Nat :=
  let n := match s with
    | '+' :: rest => digits? rest
    | s => digits? s
  n.filter (· < bound)

/-- The numeral of a number from `-bound` up to, and without, `bound`. -/
def parseSigned (bound : Nat) (s : List Char) : Option Int :=
  match s with
  | '-' :: rest => ((digits? rest).filter (· ≤ bound)).map fun n => -(n : Int)
  | s => (parseCount bound s).map Int.ofNat

/-- The value of an ASCII hexadecimal digit. -/
def hexDigit? (c : Char) : Option Nat :=
  if c.isDigit then some (c.toNat - '0'.toNat)
  else if 'a' ≤ c && c ≤ 'f' then some (c.toNat - 'a'.toNat + 10)
  else if 'A' ≤ c && c ≤ 'F' then some (c.toNat - 'A'.toNat + 10)
  else none

/-- The value of a run of hexadecimal digits, read on from `acc`. -/
def hexDigitsFrom (acc : Nat) : List Char → Option Nat
  | [] => some acc
  | c :: rest => (hexDigit? c).bind fun d => hexDigitsFrom (16 * acc + d) rest

/-- The value of a run of at least one hexadecimal digit. -/
def hexDigits? : List Char → Option Nat
  | [] => none
  | c :: rest => hexDigitsFrom 0 (c :: rest)

/-- A number in hexadecimal, in lower case and without leading zeros. -/
def hexText (n : Nat) : String :=
  String.ofList (Nat.toDigits 16 n)

end IrcClient
