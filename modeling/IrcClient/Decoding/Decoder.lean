import IrcClient.Decoding.Error

/-!
# Decoders

A decoder turns a value into what it stands for. Faults of texts and numerals come to
light when they are read, so even what nobody asks for is read through (`checkValue`).

Some values are decoded as they are met, others are kept and decoded later. They differ in
how strict they are about what is left over (`Reading`).
-/

namespace IrcClient

open Json5

/-- A decoder for one type. -/
abbrev Decoder (α : Type) := Value → Except DecodeError α

/-- How a value is decoded. -/
inductive Reading where
  /-- As it is met: what is left over is passed over. -/
  | direct
  /-- Later, from what was kept of it: nothing may be left over. -/
  | kept
  /--
  From what is known to be without faults: nothing may be left over, and a record without
  fields does not pass for nothing.
  -/
  | strict
deriving DecidableEq, Repr

/-- Reads a text. -/
def readText : Text → Except DecodeError String
  | .ok s => .ok s
  | .error fault => .error (.text fault)

/-- Reads a numeral. -/
def readNumber (n : Numeral) : Except DecodeError Number :=
  match n.read with
  | .ok v => .ok v
  | .error fault => .error (.numeral fault)

mutual

/-- Reads a value through. -/
def checkValue : Value → Except DecodeError Unit
  | .null => .ok ()
  | .bool _ => .ok ()
  | .number n => (readNumber n).map fun _ => ()
  | .text t => (readText t).map fun _ => ()
  | .list items => checkItems items
  | .record fields => checkFields fields

/-- Reads items through, in order. -/
def checkItems : List Value → Except DecodeError Unit
  | [] => .ok ()
  | v :: rest => (checkValue v).bind fun _ => checkItems rest

/-- Reads fields through, in order. -/
def checkFields : List (Text × Value) → Except DecodeError Unit
  | [] => .ok ()
  | (k, v) :: rest =>
    (readText k).bind fun _ => (checkValue v).bind fun _ => checkFields rest

end

/-- Passes a value over. A fault in it counts all the same. -/
def passOver (r : Reading) (v : Value) : Except DecodeError Unit :=
  if r = .strict then .ok () else checkValue v

/-- What a value looks like from outside. -/
def found : Value → Except DecodeError Found
  | .null => .ok .null
  | .bool b => .ok (.bool b)
  | .number n => (readNumber n).map .number
  | .text t => (readText t).map .text
  | .list _ => .ok .list
  | .record _ => .ok .record

namespace Decoder

variable {α : Type}

/-- No value of this kind was expected. -/
def mismatch (expected : String) : Decoder α := fun v =>
  (found v).bind fun f => .error (.invalidType f expected)

/-- A text, under the words for what is expected of it. -/
def textAs (expected : String) : Decoder String
  | .text t => readText t
  | v => mismatch expected v

/-- A text. -/
def text : Decoder String := textAs "a string"

/-- The name of a file. -/
def fileName : Decoder String := textAs "path string"

/-- A truth value. -/
def bool : Decoder Bool
  | .bool b => .ok b
  | v => mismatch "a boolean" v

/-- An integer between two bounds, both included. -/
def integer (lowest highest : Int) (expected : String) : Decoder Int
  | .number n =>
    (readNumber n).bind fun v => match v with
      | .integer i =>
        if lowest ≤ i && i ≤ highest then .ok i
        else .error (.invalidValue (.number v) expected)
      | v => .error (.invalidType (.number v) expected)
  | v => mismatch expected v

/-- A natural number, to which any number comes down. -/
def natural : Decoder Nat
  | .number n =>
    match n.readNatural with
    | .ok v => .ok v
    | .error fault => .error (.numeral fault)
  | _ => .error (.numeral .number)

/-- A natural number that is written as one. -/
def exactNatural : Decoder Nat
  | .number ⟨sign, .integer v⟩ =>
    if sign ≠ .minus && v < naturalBound then .ok v else .error (.numeral .integer)
  | v => mismatch "u64" v

/-- Nothing, or a value. -/
def nullable (d : Decoder α) : Decoder (Option α)
  | .null => .ok none
  | v => (d v).map some

/-- A list. -/
def list (d : Decoder α) : Decoder (List α)
  | .list items => items.mapM d
  | v => mismatch "a sequence" v

/-- Names and what they stand for, in the order in which they are given. -/
def entries (d : Decoder α) : Decoder (List (String × α))
  | .record fields => fields.mapM fun (k, v) => do
    let k ← readText k
    let a ← d v
    return (k, a)
  | v => mismatch "a map" v

/-! ## Choices -/

/-- What a name stands for. -/
def variant (known : List (String × α)) (name : String) : Except DecodeError α :=
  match known.find? (·.1 = name) with
  | some (_, a) => .ok a
  | none => .error (.unknownVariant name (known.map (·.1)))

/-- The value that goes with the name of a choice, which holds nothing. -/
def nothing : Reading → Decoder Unit
  -- not even a fault in it is found
  | .direct, _ => .ok ()
  | _, .null => .ok ()
  | .kept, .record [] => .ok ()
  | _, v => mismatch "unit" v

/-- A choice with its value. -/
def chosen (r : Reading) (known : List (String × α)) (k : Text) (v : Value) :
    Except DecodeError α := do
  let name ← readText k
  let a ← variant known name
  nothing r v
  return a

/-- A choice between names: a name, or a record that holds nothing under it. -/
def choice (r : Reading) (known : List (String × α)) : Decoder α
  | .text t => (readText t).bind (variant known)
  | .record [(k, v)] => chosen r known k v
  | .record [] =>
    if r = .direct then .error .emptyChoice
    else .error (.invalidValue .record "map with a single key")
  | .record ((k, v) :: _) =>
    if r = .direct then chosen r known k v
    else .error (.invalidValue .record "map with a single key")
  | v => if r = .direct then .error .noChoice else mismatch "string or map" v

end Decoder

end IrcClient
