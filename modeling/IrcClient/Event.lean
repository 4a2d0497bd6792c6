import IrcClient.Table

/-!
# Events

Whatever the client notices, it announces as an event: a type, the part of the
program it comes from, and named data in the order in which they were added.
-/

namespace IrcClient

/-- A value that an event carries. -/
inductive Datum where
  | null
  | bool (b : Bool)
  | int (n : Int)
  | text (s : String)
  | list (l : List Datum)
  | record (fields : List (String × Datum))
deriving BEq, Repr, Inhabited

namespace Datum

/-- Text, if it is there. -/
def ofText? (s : Option String) : Datum :=
  s.elim .null .text

/-- The text, if the value is one. -/
def text? : Datum → Option String
  | .text s => some s
  | _ => none

end Datum

/-- Something that happened. -/
structure Event where
  type : String
  source : String
  data : List (String × Datum)
deriving BEq, Repr, Inhabited

namespace Event

/-- An event without data. -/
def new (type source : String) : Event :=
  ⟨type, source, []⟩

/-- Sets a value among named ones: in the place of the older one, or else at the end. -/
def setIn (key : String) (value : Datum) : List (String × Datum) → List (String × Datum)
  | [] => [(key, value)]
  | e :: rest => if e.1 = key then (key, value) :: rest else e :: setIn key value rest

/-- The event with one value set. -/
def set (e : Event) (key : String) (value : Datum) : Event :=
  { e with data := setIn key value e.data }

/-- The event with a text set. -/
def setText (e : Event) (key value : String) : Event :=
  e.set key (.text value)

/-- The event with a text set, if there is one. -/
def setText? (e : Event) (key : String) : Option String → Event
  | none => e
  | some value => e.setText key value

/-- The value under a name. -/
def get? (e : Event) (key : String) : Option Datum :=
  lookupIn key e.data

/-- The text under a name, if the value there is a text. -/
def getText? (e : Event) (key : String) : Option String :=
  (e.get? key).bind Datum.text?

theorem lookupIn_setIn (key k : String) (value : Datum) : ∀ data : List (String × Datum),
    lookupIn k (setIn key value data) = if key = k then some value else lookupIn k data
  | [] => rfl
  | e :: rest => by
    unfold setIn
    split
    · rename_i he
      subst he
      simp only [lookupIn]
      split <;> rfl
    · rename_i he
      simp only [lookupIn, lookupIn_setIn key k value rest]
      by_cases hk : e.1 = k
      · subst hk
        simp [Ne.symm he]
      · simp [hk]

/-- A value that was set is found, and no other is touched. -/
theorem get?_set (e : Event) (key k : String) (value : Datum) :
    (e.set key value).get? k = if key = k then some value else e.get? k :=
  lookupIn_setIn key k value e.data

end Event

end IrcClient
