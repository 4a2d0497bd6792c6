import IrcClient.Text.Split
import IrcClient.Text.Utf8

/-!
# Files

What is read from a file comes in as its bytes, or as the reason why there are none. Where
files are written, the path decides what can go wrong.
-/

namespace IrcClient

/-- What can go wrong with a file. -/
inductive FileError where
  | notFound | invalidData | notADirectory | alreadyExists | invalidName | invalidInput
deriving DecidableEq, Repr, Inhabited

/-- The words for it. -/
def FileError.message : FileError → String
  | .notFound => "entity not found"
  | .invalidData => "invalid data"
  | .notADirectory => "not a directory"
  | .alreadyExists => "entity already exists"
  | .invalidName => "invalid filename"
  | .invalidInput => "invalid input parameter"

/-- The name of a file or a directory has at most this many bytes. -/
def nameLimit : Nat := 255

/-- A path has fewer bytes than this. -/
def pathLimit : Nat := 4096

/--
Why a directory cannot be made, if so. It lies at `path` below a place where there is a
directory, or else a plain file (`blocked`), which is then in the way.
-/
def pathError? (blocked : Bool) (path : String) : Option FileError :=
  if path.toList.contains '\x00' then some .invalidInput
  else if pathLimit ≤ path.utf8ByteSize then some .invalidName
  else if blocked then
    -- an empty path is that place itself
    some (if path.isEmpty then .alreadyExists else .notADirectory)
  else if (pieces '/' path.toList).any fun n => nameLimit < (Utf8.encode (String.ofList n)).length
  then some .invalidName
  else none

/-- What is read from a file. -/
abbrev FileContent := Except FileError Bytes

/-- The text of a file. -/
def readTextFile (content : FileContent) : Except FileError String :=
  content.bind fun bytes =>
    match Utf8.decode? bytes with
    | some s => .ok s
    | none => .error .invalidData

end IrcClient
