import IrcClient.Decoding.Decoder

/-!
# Records

A record is described by its fields (`Fields`). Its decoder goes through what is written
in the order in which it is written, so the first fault there is the one that counts;
fields that nobody knows are read through and left out. Only then does it show which
fields are missing. A record may also be written as the list of its fields.
-/

namespace IrcClient

open Json5

/-- A field, and its value where it is left out: of a record, or at the end of a list. -/
structure Field (α : Type) where
  name : String
  decode : Decoder α
  absent : Option α
  absentInList : Option α

namespace Field

variable {α : Type}

/-- A field that has to be there. -/
def required (name : String) (decode : Decoder α) : Field α :=
  ⟨name, decode, none, none⟩

/-- A field that may be left out. -/
def optional (name : String) (decode : Decoder α) (default : α) : Field α :=
  ⟨name, decode, some default, some default⟩

/-- A field that may be null, and may be left out of a record but not of a list. -/
def nullable (name : String) (decode : Decoder α) : Field (Option α) :=
  ⟨name, .nullable decode, some none, none⟩

end Field

/-- The fields of a record, in order. -/
inductive Fields : List Type → Type 1 where
  | nil : Fields []
  | cons {α : Type} {αs : List Type} (field : Field α) (rest : Fields αs) : Fields (α :: αs)

/-- A value for each field. -/
def Values : List Type → Type
  | [] => Unit
  | α :: αs => α × Values αs

/-- The values of some of the fields. -/
def Draft : List Type → Type
  | [] => Unit
  | α :: αs => Option α × Draft αs

namespace Fields

variable {αs : List Type}

/-- How many fields there are. -/
def count {αs : List Type} : Fields αs → Nat
  | nil => 0
  | cons _ rest => rest.count + 1

/-- No field has a value yet. -/
def blank {αs : List Type} : Fields αs → Draft αs
  | nil => ()
  | cons _ rest => (none, rest.blank)

/-- Fills the field of a name, if there is one; it takes one value only. -/
def fill {αs : List Type} : Fields αs → String → Value → Draft αs →
    Except DecodeError (Option (Draft αs))
  | nil, _, _, _ => .ok none
  | cons f rest, k, v, (slot, others) =>
    if k = f.name then
      if slot.isSome then .error (.duplicateField k)
      else (f.decode v).map fun a => some (some a, others)
    else (rest.fill k v others).map fun d => d.map fun d => (slot, d)

/-- Fills fields in the order in which they are written. -/
def fillAll (r : Reading) (fs : Fields αs) :
    List (Text × Value) → Draft αs → Except DecodeError (Draft αs)
  | [], d => .ok d
  | (k, v) :: rest, d =>
    (readText k).bind fun name => (fs.fill name v d).bind fun filled =>
      match filled with
      | some d => fs.fillAll r rest d
      | none => (passOver r v).bind fun _ => fs.fillAll r rest d

/-- The values of all fields, unless one is missing that has to be there. -/
def finish {αs : List Type} : Fields αs → Draft αs → Except DecodeError (Values αs)
  | nil, () => .ok ()
  | cons f rest, (slot, others) =>
    match slot <|> f.absent with
    | some a => (rest.finish others).map fun vs => (a, vs)
    | none => .error (.missingField f.name)

/-- The values of fields that are written as a record. -/
def ofRecord (r : Reading) (fs : Fields αs) (fields : List (Text × Value)) :
    Except DecodeError (Values αs) :=
  (fs.fillAll r fields fs.blank).bind fs.finish

/-- A number of elements. -/
def elements (n : Nat) : String :=
  toString n ++ if n = 1 then " element" else " elements"

/-- The values of fields that are written as a list, and what is left of it. -/
def ofList {αs : List Type} (expected : String) :
    Nat → Fields αs → List Value → Except DecodeError (Values αs × List Value)
  | _, nil, items => .ok ((), items)
  | i, cons f rest, v :: items =>
    (f.decode v).bind fun a =>
      (ofList expected (i + 1) rest items).map fun (vs, left) => ((a, vs), left)
  | i, cons f rest, [] =>
    match f.absentInList with
    | some a => (ofList expected (i + 1) rest []).map fun (vs, left) => ((a, vs), left)
    | none => .error (.invalidLength i expected)

end Fields

/-- A record of a name. What a list has beyond the fields is passed over in direct reading only. -/
def Decoder.record {αs : List Type} {α : Type} (r : Reading) (name : String) (fs : Fields αs)
    (make : Values αs → α) : Decoder α
  | .record fields => (fs.ofRecord r fields).map make
  | .list items =>
    (fs.ofList ("struct " ++ name ++ " with " ++ Fields.elements fs.count) 0 items).bind
      fun (vs, left) =>
        if r ≠ .direct && !left.isEmpty then
          .error (.invalidLength items.length (Fields.elements fs.count ++ " in sequence"))
        else .ok (make vs)
  | v => Decoder.mismatch ("struct " ++ name) v

end IrcClient
