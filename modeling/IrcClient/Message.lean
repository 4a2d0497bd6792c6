import IrcClient.Text.Blank
import IrcClient.Text.Letter

/-!
# Messages

A line from the server is a list of tags, the source it came from, a command and
its arguments. `Message.parse?` reads one and `Message.render` writes one; the
grammar is loose where servers are (any number of spaces between tokens, any run
of line breaks at the end), so several lines read as one message, of which
`render` picks one.
-/

namespace IrcClient

/-- A tag in front of a message; the value is what follows its first `=`. -/
structure Tag where
  name : String
  value : Option String
deriving DecidableEq, Repr, Inhabited

/-- Where a message came from: a user, or a server, whose name stands for the nickname. -/
structure Source where
  nick : String
  user : Option String
  host : Option String
deriving DecidableEq, Repr, Inhabited

/-- A line from the server, taken apart. The command is in upper case. -/
structure Message where
  tags : List Tag
  source : Option Source
  command : String
  args : List String
deriving DecidableEq, Repr, Inhabited

/-! ## Reading -/

/-- A tag as it stands between semicolons. -/
def Tag.parse (s : List Char) : Tag :=
  match cut? '=' s with
  | some (name, value) => ⟨String.ofList name, some (String.ofList value)⟩
  | none => ⟨String.ofList s, none⟩

/--
A source as it stands behind the colon: the host follows the first `@`, and the
user name follows the first `!` in what is before the host.
-/
def Source.parse (s : List Char) : Source :=
  let (who, host) := match cut? '@' s with
    | some (who, host) => (who, some (String.ofList host))
    | none => (s, none)
  match cut? '!' who with
  | some (nick, user) => ⟨String.ofList nick, some (String.ofList user), host⟩
  | none => ⟨String.ofList who, none, host⟩

/--
The arguments of a line, with the current one, reversed, in hand. A colon where an
argument would begin makes one argument of all that follows; an argument of no
characters is none.
-/
def argsFrom (word : List Char) : List Char → List (List Char)
  | [] => if word.isEmpty then [] else [word.reverse]
  | c :: rest =>
    if c = ' ' then
      if word.isEmpty then argsFrom [] rest else word.reverse :: argsFrom [] rest
    -- a colon within an argument is a character like others
    else if c = ':' && word.isEmpty then [rest]
    else argsFrom (c :: word) rest

/-- The text up to the first space, which has to be there, and what follows its blanks. -/
def token? (s : List Char) : Option (List Char × List Char) :=
  (cut? ' ' s).map fun p => (p.1, dropBlanks p.2)

/-- The command and the arguments, once tags and source are gone. -/
def Message.parseCommand (tags : List Tag) (source : Option Source) (s : List Char) :
    Option Message :=
  let (command, rest) := (cut? ' ' s).getD (s, [])
  if command.isEmpty then none
  else some {
    tags, source
    command := upper (String.ofList command)
    args := (argsFrom [] rest).map String.ofList }

/-- The source, if there is one, and what follows it. -/
def Message.parseSource (tags : List Tag) : List Char → Option Message
  | ':' :: s => (token? s).bind fun (source, rest) =>
    Message.parseCommand tags (some (Source.parse source)) rest
  | s => Message.parseCommand tags none s

/--
Reads a line. There is no message in a line without a command: a blank one, or one
that ends within its tags or its source.
-/
def Message.parse? (line : String) : Option Message :=
  match dropBlanks (dropEndWhile isLineBreak line.toList) with
  | [] => none
  | '@' :: s => (token? s).bind fun (tags, rest) =>
    Message.parseSource ((pieces ';' tags).map Tag.parse) rest
  | s => Message.parseSource [] s

/-! ## Writing -/

/-- The tag as it stands between semicolons. -/
def Tag.render (t : Tag) : String :=
  t.name ++ (t.value.map ("=" ++ ·)).getD ""

/-- The source as it stands behind the colon. -/
def Source.render (s : Source) : String :=
  s.nick ++ (s.user.map ("!" ++ ·)).getD "" ++ (s.host.map ("@" ++ ·)).getD ""

/-- Arguments in their places: each behind a space, the last one behind a colon too. -/
def renderArgs : List String → String
  | [] => ""
  | [last] => " :" ++ last
  | arg :: rest => " " ++ arg ++ renderArgs rest

/-- The line that holds a message, without its end. -/
def Message.render (m : Message) : String :=
  (if m.tags.isEmpty then "" else "@" ++ ";".intercalate (m.tags.map Tag.render) ++ " ") ++
    (m.source.map fun s => ":" ++ s.render ++ " ").getD "" ++ m.command ++ renderArgs m.args

/-! ## Parts of a message -/

namespace Message

/-- The nickname of the sender, or the name of the server that sent the message. -/
def sourceNick (m : Message) : Option String :=
  m.source.map (·.nick)

/-- The argument at an index, counted from zero. -/
def arg (m : Message) (i : Nat) : Option String :=
  m.args[i]?

/-- The last argument, which in most messages is the free text. -/
def lastArg (m : Message) : Option String :=
  m.args.getLast?

/-- The first tag of a name. -/
def tag? (m : Message) (name : String) : Option Tag :=
  m.tags.find? (·.name = name)

/--
Whether a message came from a server and not from a user: it has no source, or one
that is a bare name with a dot in it.
-/
def isFromServer (m : Message) : Bool :=
  match m.source with
  | none => true
  | some s => s.user.isNone && s.host.isNone && s.nick.toList.contains '.'

end Message

end IrcClient
