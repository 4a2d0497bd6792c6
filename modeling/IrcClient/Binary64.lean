/-!
# Doubles

A number with a fraction is kept as the nearest double, and shown with the fewest digits
that read back as that double. Both are done on exact fractions, so nothing here rounds
twice. A double is its mantissa and its exponent; the sign is kept apart.
-/

namespace IrcClient

/-- The quotient of two numbers, rounded to the nearest; a half goes to the even neighbour. -/
def roundedQuotient (n d : Nat) : Nat :=
  let q := n / d
  let r := n % d
  if 2 * r < d || (2 * r = d && q % 2 = 0) then q else q + 1

/-- A fraction `num * 2 ^ shift / den`, as numerator and denominator. -/
def scaledBy (base : Nat) (shift : Int) (num den : Nat) : Nat × Nat :=
  if 0 ≤ shift then (num * base.pow shift.toNat, den)
  else (num, den * base.pow (-shift).toNat)

/-- The greatest `k` with `base ^ k` not above a positive fraction, searched for near a guess. -/
def floorLog (base : Nat) (num den : Nat) : Nat → Int → Int
  | 0, k => k
  | fuel + 1, k =>
    let (n, d) := scaledBy base (-k) num den
    if n < d then floorLog base num den fuel (k - 1)
    else if base * d ≤ n then floorLog base num den fuel (k + 1)
    else k

/-- A double that is neither negative nor infinite: `mantissa * 2 ^ exponent`. -/
structure Binary64 where
  mantissa : Nat
  exponent : Int
deriving DecidableEq, Repr, Inhabited

namespace Binary64

/-- The mantissa has at most this many bits. -/
def precision : Nat := 53

/-- The exponent of the smallest doubles. -/
def minExponent : Int := -1074

/-- The exponent of the greatest doubles. -/
def maxExponent : Int := 971

/-- Zero. -/
def zero : Binary64 := ⟨0, minExponent⟩

/-- The double nearest to a positive fraction, unless the fraction is beyond them all. -/
def nearest? (num den : Nat) : Option Binary64 :=
  -- the difference of the two logarithms misses that of the quotient by one at most
  let guess : Int := (num.log2 : Int) - den.log2
  let e := max minExponent (floorLog 2 num den 2 guess - (precision - 1))
  let (n, d) := scaledBy 2 (-e) num den
  let m := roundedQuotient n d
  -- rounding up may reach the next power of two, which needs one bit more
  let b : Binary64 := if m = Nat.pow 2 precision then ⟨Nat.pow 2 (precision - 1), e + 1⟩ else ⟨m, e⟩
  if b.exponent ≤ maxExponent then some b else none

/-- The number of decimal digits of a number. -/
def digitCount (n : Nat) : Nat :=
  (Nat.toDigits 10 n).length

/-- The double nearest to `digits * 10 ^ exponent`, unless that is beyond them all. -/
def ofDecimal? (digits : Nat) (exponent : Int) : Option Binary64 :=
  -- far out of range there is no need to work out the power of ten
  let size := exponent + digitCount digits
  if digits = 0 || size < -330 then some zero
  else if 310 < size then none
  else
    let (num, den) := scaledBy 10 exponent digits 1
    nearest? num den

/-- The double as a fraction. -/
def fraction (b : Binary64) : Nat × Nat :=
  scaledBy 2 b.exponent b.mantissa 1

/-- The double without its fractional part. -/
def truncate (b : Binary64) : Nat :=
  b.fraction.1 / b.fraction.2

/-! ## The fewest digits -/

/--
The numbers that read back as this double lie between these two fractions, which have one
denominator: `(low, high, den)`. They count themselves where the mantissa is even.
-/
def bounds (b : Binary64) : Nat × Nat × Nat :=
  -- below a power of two the doubles lie twice as close together
  let below := if b.mantissa = Nat.pow 2 (precision - 1) && minExponent < b.exponent then 1 else 2
  let (unit, den) := scaledBy 2 (b.exponent - 2) 1 1
  (unit * (4 * b.mantissa - below), unit * (4 * b.mantissa + 2), den)

/-- Whether `digits * 10 ^ exponent` reads back as this double. -/
def readsBack (b : Binary64) (digits : Nat) (exponent : Int) : Bool :=
  let (low, high, den) := b.bounds
  let (n, d) := scaledBy 10 exponent digits 1
  if b.mantissa % 2 = 0 then low * d ≤ n * den && n * den ≤ high * d
  else low * d < n * den && n * den < high * d

/-- The nearer of the double's two neighbours on a decimal grid, where it reads back. -/
def onGrid? (b : Binary64) (exponent : Int) : Option Nat :=
  let (n, d) := scaledBy 10 (-exponent) b.fraction.1 b.fraction.2
  let q := n / d
  let low := b.readsBack q exponent && 0 < q
  let high := b.readsBack (q + 1) exponent
  if low && (!high || 2 * (n % d) < d) then some q
  else if high then some (q + 1)
  else none

/-- The coarsest of several grids on which the double reads back, and its digits there. -/
def shortestFrom (b : Binary64) (fallback : Nat × Int) : List Int → Nat × Int
  | [] => fallback
  | e :: rest =>
    match b.onGrid? e with
    | some digits => (digits, e)
    | none => b.shortestFrom fallback rest

/-- The fewest decimal digits that read back, and the exponent that goes with them. -/
def shortest (b : Binary64) : Nat × Int :=
  let (num, den) := b.fraction
  let guess : Int := (digitCount num : Int) - digitCount den
  let top := floorLog 10 num den 4 guess
  b.shortestFrom (0, 0) ((List.range 18).map fun (n : Nat) => top + 1 - Int.ofNat n)

/-- The text of `digits * 10 ^ exponent` without an exponent, and with a point in any case. -/
def positional (digits : Nat) (exponent : Int) : String :=
  let ds := Nat.toDigits 10 digits
  if 0 ≤ exponent then String.ofList (ds ++ List.replicate exponent.toNat '0') ++ ".0"
  else
    let places := (-exponent).toNat
    let padded := List.replicate (places + 1 - ds.length) '0' ++ ds
    let whole := padded.length - places
    String.ofList (padded.take whole) ++ "." ++ String.ofList (padded.drop whole)

/-- The text of a double: the fewest digits that read back, without an exponent. -/
def text (b : Binary64) : String :=
  if b.mantissa = 0 then "0.0"
  else positional b.shortest.1 b.shortest.2

end Binary64

end IrcClient
