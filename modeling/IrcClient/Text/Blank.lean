import IrcClient.Text.Split

/-!
# Blank characters

Two notions of a blank are in use. Blanks around the parts of a line are those of
the Unicode property White_Space; lists inside an argument (names, capabilities)
are divided by ASCII blanks only.
-/

namespace IrcClient

/-- The characters of the Unicode property White_Space. -/
def isBlank (c : Char) : Bool :=
  let n := c.toNat
  (0x09 ≤ n && n ≤ 0x0D) || n == 0x20 || n == 0x85 || n == 0xA0 || n == 0x1680 ||
    (0x2000 ≤ n && n ≤ 0x200A) || n == 0x2028 || n == 0x2029 || n == 0x202F || n == 0x205F ||
    n == 0x3000

/-- Space, tab, line feed, form feed and carriage return. -/
def isAsciiBlank (c : Char) : Bool :=
  c == ' ' || c == '\t' || c == '\n' || c == '\x0c' || c == '\r'

/-- The characters that end a line. -/
def isLineBreak (c : Char) : Bool :=
  c == '\r' || c == '\n'

theorem isBlank_of_isWhitespace {c : Char} (h : c.isWhitespace = true) : isBlank c = true := by
  simp only [Char.isWhitespace, Bool.or_eq_true, decide_eq_true_eq] at h
  rcases h with ((rfl | rfl) | rfl) | rfl <;> rfl

/-- Text without the blanks at its start. -/
def dropBlanks (s : List Char) : List Char :=
  s.dropWhile isBlank

/-- Text without the blanks at its end. -/
def dropEndBlanks (s : List Char) : List Char :=
  dropEndWhile isBlank s

/-- The words of a list that is divided by ASCII blanks. -/
def asciiWords (s : List Char) : List (List Char) :=
  words isAsciiBlank s

/-- Whether text holds a line break, and so is no single line. -/
def hasLineBreak (s : String) : Bool :=
  s.toList.any isLineBreak

end IrcClient
