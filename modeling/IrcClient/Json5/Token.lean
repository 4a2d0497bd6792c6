import IrcClient.Json5.Numeral
import IrcClient.Json5.Text
import IrcClient.Text.Alphabet
import IrcClient.Text.Split

/-!
# Tokens of JSON5

A document is a row of tokens with blanks and comments between them. Where two tokens
could be told apart in more than one way, the longer first one is meant.
-/

namespace IrcClient.Json5

/-- A token. A word is `plain` if no character of it is escaped. -/
inductive Token where
  | mark (c : Char)
  | text (t : Text)
  | word (plain : Bool) (t : Text)
  | number (n : Numeral)

/-! ## Blanks and comments -/

/-- The characters that end a line. -/
def isTerminator (c : Char) : Bool :=
  c == '\n' || c == '\r' || c == '\u2028' || c == '\u2029'

/-- The characters that may stand between tokens. -/
def isSpace (c : Char) : Bool :=
  let n := c.toNat
  isTerminator c || n == 0x09 || n == 0x0B || n == 0x0C || n == 0x20 || n == 0xA0 ||
    n == 0xFEFF || n == 0x1680 || (0x2000 ≤ n && n ≤ 0x200A) || n == 0x202F || n == 0x205F ||
    n == 0x3000

/-- What comes after the end of a comment, if it has one. -/
def afterComment? : List Char → Option (List Char)
  | '*' :: '/' :: rest => some rest
  | _ :: rest => afterComment? rest
  | [] => none

/-! ## Texts and words -/

/-- Whether a character is a hexadecimal digit. -/
def isHexDigit (c : Char) : Bool :=
  (hexDigit? c).isSome

/-- The character that a letter stands for after a backslash. -/
def escaped (c : Char) : Char :=
  match c with
  | 'b' => '\x08'
  | 'f' => '\x0c'
  | 'n' => '\n'
  | 'r' => '\r'
  | 't' => '\t'
  | 'v' => '\x0b'
  | c => c

/-- Puts a piece in front of those that follow it. -/
def withPiece (p : Piece) (r : Option (List Piece × List Char)) :
    Option (List Piece × List Char) :=
  r.map fun (ps, rest) => (p :: ps, rest)

/-- The pieces of a text up to its closing quote, and what comes after that. -/
def scanText (quote : Char) : List Char → Option (List Piece × List Char)
  | [] => none
  | '\\' :: 'u' :: a :: b :: c :: d :: rest =>
    (hexDigits? [a, b, c, d]).bind fun n => withPiece (.unit n) (scanText quote rest)
  | '\\' :: 'x' :: a :: b :: rest =>
    (hexDigits? [a, b]).bind fun n => withPiece (.char (.ofNat n) true) (scanText quote rest)
  | '\\' :: '0' :: rest => withPiece (.char '\x00' true) (scanText quote rest)
  -- a line break behind a backslash is no part of the text
  | '\\' :: '\r' :: '\n' :: rest => scanText quote rest
  | '\\' :: c :: rest =>
    if isTerminator c then scanText quote rest
    else if c.isDigit || c == 'x' || c == 'u' then none
    else withPiece (.char (escaped c) (isHexDigit c)) (scanText quote rest)
  | c :: rest =>
    if c = quote then some ([], rest)
    else if c = '\\' || isTerminator c then none
    else withPiece (.char c (isHexDigit c)) (scanText quote rest)

/-- Whether a word may begin with a character. -/
def beginsWord (c : Char) : Bool :=
  isLetter c || c == '$' || c == '_'

/-- Whether a word may go on with a character. -/
def continuesWord (c : Char) : Bool :=
  beginsWord c || isMark c || c == '\u200c' || c == '\u200d'

/-- The pieces of a word as far as it goes, and what comes after it. -/
def scanWord : List Char → List Piece × List Char
  | [] => ([], [])
  | '\\' :: 'u' :: a :: b :: c :: d :: rest =>
    match hexDigits? [a, b, c, d] with
    | some n =>
      let (ps, rest) := scanWord rest
      (.unit n :: ps, rest)
    | none => ([], '\\' :: 'u' :: a :: b :: c :: d :: rest)
  | c :: rest =>
    if continuesWord c then
      let (ps, rest) := scanWord rest
      (.char c (isHexDigit c) :: ps, rest)
    else ([], c :: rest)

/-- The word at the beginning. -/
def word? (s : List Char) : Option (Token × List Char) :=
  let (ps, rest) := scanWord s
  let begins := match ps with
    | .char c _ :: _ => beginsWord c
    | .unit _ :: _ => true
    | [] => false
  let plain := ps.all fun p => match p with
    | .char .. => true
    | .unit _ => false
  if begins then some (.word plain (textOf ps), rest) else none

/-! ## Numerals -/

/-- The value of the digits at the beginning, how many they are, and what comes after them. -/
def scanDigits (s : List Char) : Nat × Nat × List Char :=
  let ds := s.takeWhile Char.isDigit
  ((digits? ds).getD 0, ds.length, s.dropWhile Char.isDigit)

/-- The exponent at the beginning, and what comes after it. -/
def exponent? : List Char → Option (Int × List Char)
  | c :: rest =>
    if c == 'e' || c == 'E' then
      let (negative, rest) := match rest with
        | '-' :: rest => (true, rest)
        | '+' :: rest => (false, rest)
        | rest => (false, rest)
      match scanDigits rest with
      | (_, 0, _) => none
      | (n, _, rest) => some (if negative then -n else n, rest)
    else none
  | [] => none

/-- A decimal with its exponent, if it has one. -/
def withExponent (digits places : Nat) (rest : List Char) : Magnitude × List Char :=
  match exponent? rest with
  | some (e, rest) => (.decimal digits (e - places), rest)
  | none => (.decimal digits (-places), rest)

/-- What comes after the point of a decimal. -/
def fraction (whole : Nat) (s : List Char) : Magnitude × List Char :=
  let (n, places, rest) := scanDigits s
  withExponent (whole * Nat.pow 10 places + n) places rest

/-- What comes after the integer part of a decimal. -/
def afterWhole (whole : Nat) (s : List Char) : Magnitude × List Char :=
  match s with
  | '.' :: rest => fraction whole rest
  | s => if (exponent? s).isSome then withExponent whole 0 s else (.integer whole, s)

/-- The hexadecimal integer at the beginning, and what comes after it. -/
def hex? : List Char → Option (Magnitude × List Char)
  | '0' :: x :: rest =>
    if x == 'x' || x == 'X' then
      let ds := rest.takeWhile isHexDigit
      let hasE := ds.any fun c => c == 'e' || c == 'E'
      (hexDigits? ds).map fun n => (.hex n hasE, rest.dropWhile isHexDigit)
    else none
  | _ => none

/-- The decimal at the beginning, and what comes after it. Zero takes no further digits. -/
def decimal? : List Char → Option (Magnitude × List Char)
  | '.' :: c :: rest => if c.isDigit then some (fraction 0 (c :: rest)) else none
  | '0' :: rest => some (afterWhole 0 rest)
  | c :: rest =>
    if c.isDigit then
      let (n, _, rest) := scanDigits (c :: rest)
      some (afterWhole n rest)
    else none
  | [] => none

/-- What is no finite number, and what comes after it. -/
def nonFinite? (s : List Char) : Option (Magnitude × List Char) :=
  match rest? "Infinity".toList s with
  | some rest => some (.infinity, rest)
  | none => (rest? "NaN".toList s).map fun rest => (.nan, rest)

/-- The magnitude at the beginning, and what comes after it. -/
def magnitude? (s : List Char) : Option (Magnitude × List Char) :=
  hex? s <|> decimal? s <|> nonFinite? s

/-- The numeral at the beginning, and what comes after it. -/
def numeral? (s : List Char) : Option (Token × List Char) :=
  let (sign, rest) : Sign × List Char := match s with
    | '+' :: rest => (.plus, rest)
    | '-' :: rest => (.minus, rest)
    | s => (.none, s)
  (magnitude? rest).map fun (m, rest) => (.number ⟨sign, m⟩, rest)

/-! ## Documents -/

/-- Whether a character is a token of its own. -/
def isMarkChar (c : Char) : Bool :=
  c == '[' || c == ']' || c == '\x7b' || c == '\x7d' || c == ':' || c == ','

/-- The token at the beginning, and what comes after it. -/
def token? : List Char → Option (Token × List Char)
  | [] => none
  | c :: rest =>
    if isMarkChar c then some (.mark c, rest)
    else if c == '"' || c == '\'' then
      (scanText c rest).map fun (ps, rest) => (.text (textOf ps), rest)
    else word? (c :: rest) <|> numeral? (c :: rest)

/-- The tokens of a document of at most `fuel` characters. -/
def tokensWithin : Nat → List Char → Option (List Token)
  | _, [] => some []
  | 0, _ :: _ => none
  | fuel + 1, '/' :: '/' :: rest => tokensWithin fuel (rest.dropWhile fun c => !isTerminator c)
  | fuel + 1, '/' :: '*' :: rest => (afterComment? rest).bind (tokensWithin fuel)
  | fuel + 1, c :: rest =>
    if isSpace c then tokensWithin fuel rest
    else (token? (c :: rest)).bind fun (t, rest) => (tokensWithin fuel rest).map (t :: ·)

/-- The tokens of a document. -/
def tokens? (s : String) : Option (List Token) :=
  tokensWithin s.length s.toList

end IrcClient.Json5
