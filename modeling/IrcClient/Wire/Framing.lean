import IrcClient.Text.Blank
import IrcClient.Text.Utf8

/-!
# Lines out of a stream of bytes

The server's bytes arrive in pieces that have nothing to do with its lines. A `Framer`
takes them one by one, so it cannot matter how they were cut. A line that is too long is
dropped up to its end, and the next one is read as if nothing had been.
-/

namespace IrcClient

/-- The most bytes of a line, its line feed apart. -/
def maxLineLength : Nat := 8191 + 512

/-- The byte that ends a line. -/
def lineFeed : UInt8 := 10

/-- A line in the course of being read: its bytes so far, the last one first, and their number. -/
structure Framer where
  reversed : Bytes
  count : Nat
deriving DecidableEq, Repr

namespace Framer

/-- No byte has been read since the last line. -/
def empty : Framer := ⟨[], 0⟩

instance : Inhabited Framer := ⟨empty⟩

/-- The line that ends here, unless it is too long. -/
def line? (f : Framer) : Option Bytes :=
  if f.count ≤ maxLineLength then some f.reversed.reverse else none

/-- Reads a byte of a line. The bytes of a line that is too long are not kept. -/
def push (f : Framer) (b : UInt8) : Framer :=
  ⟨if f.count ≤ maxLineLength then b :: f.reversed else f.reversed, f.count + 1⟩

/-- Reads some bytes, and yields the lines that they complete. -/
def read (f : Framer) : Bytes → Framer × List Bytes
  | [] => (f, [])
  | b :: rest =>
    if b = lineFeed then
      -- the line feed is no part of the line, and the next one begins empty
      let (f', lines) := empty.read rest
      (f', f.line?.toList ++ lines)
    else (f.push b).read rest

/-- The line that the end of the stream completes. -/
def rest? (f : Framer) : Option Bytes :=
  if f.count = 0 then none else f.line?

theorem read_append (f : Framer) (a b : Bytes) :
    f.read (a ++ b) = ((f.read a).1.read b |>.1, (f.read a).2 ++ ((f.read a).1.read b).2) := by
  induction a generalizing f with
  | nil => rfl
  | cons x a ih =>
    simp only [List.cons_append, read]
    split
    · rw [ih]
      simp [List.append_assoc]
    · exact ih _

end Framer

/--
The text of a line: the carriage returns at its end are no part of it, and a line that
holds nothing else is none.
-/
def lineText? (bytes : Bytes) : Option String :=
  let text := dropEndWhile (· = '\r') (Utf8.decodeLossy bytes).toList
  if text.isEmpty then none else some (String.ofList text)

end IrcClient
