import IrcClient.Table
import IrcClient.Text.Quoted

/-!
# What the server supports

A server announces how it writes things: which characters stand in front of the
nicknames of privileged members and which mode letters they are for, which letters
are channel modes, and which characters begin a channel's name. `Support` holds the
announcement that is in force.

The two spellings of the prefix table, a map and a pair of ranked lists, are set
together or not at all (`Support.applyPrefix`), so they never disagree.
-/

namespace IrcClient

/-- The announcement in force. `prefixChars` and `prefixModes` go from the highest rank down. -/
structure Support where
  prefixMap : Table Char Char
  prefixChars : String
  prefixModes : String
  chanModes : String
  chanTypes : String
  networkName : Option String
deriving DecidableEq

/-- What can be wrong with an announcement. -/
inductive SupportError where
  | malformedPrefix (value : String)
deriving DecidableEq, Repr

/-- The words for an announcement that is refused. -/
def SupportError.message : SupportError → String
  | .malformedPrefix value => "Malformed PREFIX value " ++ quoted value

namespace Support

/-- The two sides of a prefix table: the mode letters and, place by place, their characters. -/
def readPrefix? (value : String) : Option (List Char × List Char) :=
  match value.toList with
  | '(' :: rest => (cut? ')' rest).filter fun (modes, chars) => modes.length = chars.length
  | _ => none

/-- The announcement with a prefix table in it. -/
def withPrefixes (s : Support) (modes chars : List Char) : Support :=
  { s with
    prefixMap := Table.ofList (chars.zip modes)
    prefixChars := String.ofList chars
    prefixModes := String.ofList modes }

/--
Puts a prefix table in force, given as `(modes)chars`. No text at all means that the
server has no prefixes.
-/
def applyPrefix (s : Support) (value : String) : Except SupportError Support :=
  if value.isEmpty then .ok (s.withPrefixes [] [])
  else match readPrefix? value with
    | some (modes, chars) => .ok (s.withPrefixes modes chars)
    | none => .error (.malformedPrefix value)

/-- What holds before any announcement: operators and voices, and two kinds of channel. -/
def initial : Support :=
  withPrefixes
    { prefixMap := .empty, prefixChars := "", prefixModes := "", chanModes := ""
      chanTypes := "#&", networkName := none }
    ['o', 'v'] ['@', '+']

instance : Inhabited Support := ⟨initial⟩

/-! ## Prefixes -/

/-- The mode letter that a prefix character stands for. -/
def modeForPrefix (s : Support) (c : Char) : Option Char :=
  s.prefixMap.get? c

/-- A prefix character that stands for a mode letter; of several, the first by code point. -/
def prefixForMode (s : Support) (mode : Char) : Option Char :=
  (s.prefixMap.entries.find? (·.2 = mode)).map (·.1)

/-- Whether a mode letter is one that members hold. -/
def isPrefixMode (s : Support) (mode : Char) : Bool :=
  s.prefixModes.toList.contains mode

/-- The prefix modes among some letters, each in its rank. -/
def sortPrefixModes (s : Support) (modes : String) : String :=
  String.ofList (s.prefixModes.toList.filter modes.toList.contains)

/--
A token of a member list, taken apart: the modes that its prefix characters stand for,
and the nickname without them and without what follows its first `!`.
-/
def splitNamesToken (s : Support) (token : String) : String × String :=
  let isPrefixChar (c : Char) : Bool := s.prefixMap.contains c
  let marks := token.toList.takeWhile isPrefixChar
  let who := token.toList.dropWhile isPrefixChar
  let nick := ((cut? '!' who).map (·.1)).getD who
  (s.sortPrefixModes (String.ofList (marks.filterMap s.modeForPrefix)), String.ofList nick)

/-! ## Channels and their modes -/

/-- Whether a name is a channel's, going by its first character. -/
def isChannel (s : Support) (name : String) : Bool :=
  match name.toList with
  | [] => false
  | c :: _ => s.chanTypes.toList.contains c

/-- How channel modes are classed when the server has not said so. -/
def defaultChanModes : String :=
  "beI,k,l,imnpst"

/-- The classes of channel modes, in the order of the announcement. -/
def modeClasses (s : Support) : List (List Char) :=
  pieces ',' (if s.chanModes.isEmpty then defaultChanModes else s.chanModes).toList

/-- Whether a mode letter belongs to a class; the announcement may lack the class. -/
def isInClass (s : Support) (i : Nat) (mode : Char) : Bool :=
  (s.modeClasses[i]?.getD []).contains mode

/-- Whether a mode letter manages a list, such as that of the bans. -/
def isListMode (s : Support) (mode : Char) : Bool :=
  s.isInClass 0 mode

/--
Whether a mode letter takes a parameter. Prefix modes, lists and keys always do; the
third class does only where the mode is set.
-/
def takesParam (s : Support) (mode : Char) (adding : Bool) : Bool :=
  s.isPrefixMode mode || s.isInClass 0 mode || s.isInClass 1 mode ||
    (adding && s.isInClass 2 mode)

end Support

end IrcClient
