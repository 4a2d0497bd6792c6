import IrcClient.Binary64

/-!
# Numerals

A numeral keeps how it is written, since that decides what it can stand for: one that is
written with a point or an exponent is no integer, whatever its value.
-/

namespace IrcClient.Json5

/-- The sign in front of a numeral. -/
inductive Sign where
  | none | plus | minus
deriving DecidableEq, Repr, Inhabited

/-- A numeral without its sign. -/
inductive Magnitude where
  /-- A hexadecimal integer, and whether `e` is among its digits. -/
  | hex (value : Nat) (hasE : Bool)
  /-- A decimal integer. -/
  | integer (value : Nat)
  /-- The decimal `digits * 10 ^ exponent`. -/
  | decimal (digits : Nat) (exponent : Int)
  | infinity
  | nan
deriving DecidableEq, Repr, Inhabited

/-- A numeral. -/
structure Numeral where
  sign : Sign
  magnitude : Magnitude
deriving DecidableEq, Repr, Inhabited

/-- What is wrong with a numeral that is well written. -/
inductive NumeralFault where
  | integer | number | tooLarge | hex
deriving DecidableEq, Repr

/-- The words for it. -/
def NumeralFault.message : NumeralFault → String
  | integer => "error parsing integer"
  | number => "error parsing number"
  | tooLarge => "error parsing number: too large"
  | hex => "error parsing hex"

/-- The value of a numeral: an integer, or a double with its sign apart. -/
inductive Number where
  | integer (n : Int)
  | double (negative : Bool) (value : Binary64)
  | infinity (negative : Bool)
  | nan
deriving DecidableEq, Repr

/-- Integers lie between `-integerBound` and `integerBound`, the latter excluded. -/
def integerBound : Nat := Nat.pow 2 63

/-- Hexadecimal integers are below this bound. -/
def hexBound : Nat := Nat.pow 2 32

/-- Natural numbers are below this bound. -/
def naturalBound : Nat := Nat.pow 2 64

namespace Numeral

/-- Whether a minus sign stands in front. -/
def negative (n : Numeral) : Bool :=
  n.sign = .minus

/--
The value of a numeral. A hexadecimal integer takes no sign, and what is no finite number
takes only a minus. Behind a sign the digit `e` passes for the mark of an exponent, and so
what is wrong is no longer wrong with an integer.
-/
def read (n : Numeral) : Except NumeralFault Number :=
  match n.magnitude with
  | .hex v hasE =>
    if n.sign ≠ .none then .error (if hasE then .number else .integer)
    else if v < hexBound then .ok (.integer v)
    else .error .hex
  | .integer v =>
    let i : Int := if n.negative then -v else v
    if -integerBound ≤ i && i < integerBound then .ok (.integer i) else .error .integer
  | .decimal digits exponent =>
    match Binary64.ofDecimal? digits exponent with
    | some b => .ok (.double n.negative b)
    | none => .error .tooLarge
  | .infinity => if n.sign = .plus then .error .integer else .ok (.infinity n.negative)
  | .nan => if n.sign = .plus then .error .integer else .ok .nan

/-- The natural number that a double comes down to: its integer part, as far as it fits. -/
def clamp (negative : Bool) (b : Binary64) : Nat :=
  if negative then 0 else min b.truncate (naturalBound - 1)

/--
The natural number that a numeral comes down to. It goes through the nearest double, loses
its fraction, and is cut off at both ends of the range.
-/
def readNatural (n : Numeral) : Except NumeralFault Nat :=
  match n.magnitude with
  | .hex v _ =>
    if n.sign ≠ .none then .error .number
    else if v < hexBound then .ok v
    else .error .hex
  | .integer v =>
    match Binary64.ofDecimal? v 0 with
    | some b => .ok (clamp n.negative b)
    | none => .error .tooLarge
  | .decimal digits exponent =>
    match Binary64.ofDecimal? digits exponent with
    | some b => .ok (clamp n.negative b)
    | none => .error .tooLarge
  | .infinity =>
    match n.sign with
    | .none => .ok (naturalBound - 1)
    | .minus => .ok 0
    | .plus => .error .tooLarge
  | .nan => if n.sign = .plus then .error .tooLarge else .ok 0

end Numeral

end IrcClient.Json5
