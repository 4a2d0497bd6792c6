import IrcClient.Text.Numeral
import IrcClient.Text.Split

/-!
# Sets of characters

A property of characters that no formula gives is a list of ranges. The ranges are
written down as text, in hexadecimal, since that is how the standard lists them.
-/

namespace IrcClient

/-- A range of code points, both ends included. -/
structure CodeRange where
  first : Nat
  last : Nat
deriving DecidableEq, Repr, Inhabited

/-- A range as it is written: one code point, or two with a hyphen between them. -/
def CodeRange.parse? (s : List Char) : Option CodeRange :=
  match cut? '-' s with
  | some (a, b) => do return ⟨← hexDigits? a, ← hexDigits? b⟩
  | none => do
    let n ← hexDigits? s
    return ⟨n, n⟩

/-- A set of characters, as the ranges that make it up. -/
structure CharSet where
  ranges : List CodeRange
deriving Repr, Inhabited

/-- The set whose ranges are written in rows, with spaces between them. -/
def CharSet.ofRows (rows : List String) : CharSet :=
  ⟨rows.flatMap fun row => (words (· == ' ') row.toList).filterMap CodeRange.parse?⟩

/-- Whether a character is in the set. -/
def CharSet.contains (set : CharSet) (c : Char) : Bool :=
  set.ranges.any fun r => r.first ≤ c.toNat && c.toNat ≤ r.last

end IrcClient
