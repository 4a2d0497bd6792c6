import IrcClient.Json5.Document
import IrcClient.Text.Quoted

/-!
# What a value is not

A value is decoded into what is expected of it, or there is a reason why it cannot be. A
reason names what was found and what was expected.
-/

namespace IrcClient

open Json5

/-- What was found, as far as it matters for a mismatch. -/
inductive Found where
  | null
  | bool (b : Bool)
  | number (n : Number)
  | text (s : String)
  | list
  | record
deriving DecidableEq, Repr

namespace Found

/-- The text of a number that has a fraction, or none at all. -/
def doubleText (negative : Bool) (text : String) : String :=
  if negative then "-" ++ text else text

/-- The words for what was found. -/
def describe : Found → String
  | null => "unit value"
  | bool b => "boolean `" ++ toString b ++ "`"
  | number (.integer n) => "integer `" ++ toString n ++ "`"
  | number (.double negative b) => "floating point `" ++ doubleText negative b.text ++ "`"
  | number (.infinity negative) => "floating point `" ++ doubleText negative "inf" ++ "`"
  | number .nan => "floating point `NaN`"
  | text s => "string " ++ quoted s
  | list => "sequence"
  | record => "map"

end Found

/-- Why a value cannot be decoded. -/
inductive DecodeError where
  | numeral (fault : NumeralFault)
  | text (fault : TextFault)
  | invalidType (found : Found) (expected : String)
  | invalidValue (found : Found) (expected : String)
  | invalidLength (length : Nat) (expected : String)
  | missingField (name : String)
  | duplicateField (name : String)
  | unknownVariant (name : String) (known : List String)
  /-- The value fits none of the forms that a type has. -/
  | noForm (type : String)
  /-- A choice is neither a text nor a record. -/
  | noChoice
  /-- A choice is an empty record. -/
  | emptyChoice
deriving DecidableEq, Repr

namespace DecodeError

/-- A name as messages quote it. -/
def named (s : String) : String :=
  "`" ++ s ++ "`"

/-- The names that would have been right. -/
def oneOf : List String → String
  | [] => "there are no variants"
  | [a] => "expected " ++ named a
  | [a, b] => "expected " ++ named a ++ " or " ++ named b
  | names => "expected one of " ++ ", ".intercalate (names.map named)

/-- The words for a reason. -/
def message : DecodeError → String
  | numeral fault => fault.message
  | text fault => fault.message
  | invalidType found expected => "invalid type: " ++ found.describe ++ ", expected " ++ expected
  | invalidValue found expected => "invalid value: " ++ found.describe ++ ", expected " ++ expected
  | invalidLength length expected =>
    "invalid length " ++ toString length ++ ", expected " ++ expected
  | missingField name => "missing field " ++ named name
  | duplicateField name => "duplicate field " ++ named name
  | unknownVariant name known => "unknown variant " ++ named name ++ ", " ++ oneOf known
  | noForm type => "data did not match any variant of untagged enum " ++ type
  | noChoice => "expected a string or an object"
  | emptyChoice => "expected a nonempty object"

end DecodeError

end IrcClient
