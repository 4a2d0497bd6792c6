import IrcClient.Table

/-!
# Names of users and channels

Servers compare names without regard to case, and in their alphabet the
characters `[ ] \ ~` are the upper-case forms of `{ } | ^`. `fold` takes a
name to the one spelling that stands for all others, and every table of users or
channels is keyed by it.
-/

namespace IrcClient

/-- The lower-case form of a character in a name. -/
def foldChar : Char → Char
  | '[' => '{'
  | ']' => '}'
  | '\\' => '|'
  | '~' => '^'
  | c => c.toLower

/-- The spelling that stands for all spellings of a name. -/
def fold (name : String) : String :=
  String.ofList (name.toList.map foldChar)

/-- Whether two names are spellings of one. -/
def sameName (a b : String) : Bool :=
  fold a == fold b

theorem sameName_iff {a b : String} : sameName a b = true ↔ fold a = fold b := by
  simp [sameName]

/-- Whether name `a` comes before `b` or equals it, by code points. -/
def nameAtMost (a b : String) : Bool :=
  !nameBefore b a

/-- Names in the order of their code points. -/
def sortNames (names : List String) : List String :=
  names.mergeSort nameAtMost

end IrcClient
