import IrcClient.Text.Split
import IrcClient.Wire.Cutting

/-!
# A scanner for line feeds

The cutter that searches no byte twice. It looks at no more of the buffer than a line may have,
and remembers how far it has looked, and whether it is passing over a chunk that it has refused.
-/

namespace IrcClient

/-- How much of the buffer has been searched, and whether it belongs to a chunk that was refused. -/
structure Scanner where
  searched : Nat
  skipping : Bool
deriving DecidableEq, Repr

namespace Scanner

/-- The line feed that is found where none was looked for yet. -/
def search (s : Scanner) (buffer : Bytes) : Option Nat :=
  (cut? lineFeed ((buffer.take (maxLineLength + 1)).drop s.searched)).map
    fun p => s.searched + p.1.length

theorem search_lt {s : Scanner} {buffer : Bytes} {index : Nat}
    (h : s.search buffer = some index) : index < buffer.length := by
  rw [search, Option.map_eq_some_iff] at h
  obtain ⟨p, hp, rfl⟩ := h
  have hlength := congrArg List.length (cut?_eq_some_iff.mp hp).1
  rw [List.length_drop, List.length_take, List.length_append, List.length_cons] at hlength
  omega

/-- A chunk up to a line feed that is found, or what there is to do without one. -/
def cut (s : Scanner) (buffer : Bytes) : Cut Scanner :=
  match _h : s.search buffer with
  | some index =>
    if s.skipping then cut ⟨0, false⟩ (buffer.drop (index + 1))
    else ⟨.chunk (buffer.take index), ⟨0, false⟩, buffer.drop (index + 1)⟩
  | none =>
    if s.skipping then
      if buffer.length ≤ maxLineLength + 1 then ⟨.unfinished, ⟨0, true⟩, []⟩
      else cut ⟨0, true⟩ (buffer.drop (maxLineLength + 1))
    else if maxLineLength < buffer.length then ⟨.tooLong, { s with skipping := true }, buffer⟩
    else ⟨.unfinished, { s with searched := buffer.length }, buffer⟩
termination_by buffer.length
decreasing_by
  · have := search_lt _h
    rw [List.length_drop]
    omega
  · rw [List.length_drop]
    omega

/-- At the end of the stream, what is left is a chunk. -/
def cutLast (s : Scanner) (buffer : Bytes) : Cut Scanner :=
  match s.cut buffer with
  | ⟨.unfinished, s', rest⟩ =>
    if rest = [] then ⟨.unfinished, s', rest⟩ else ⟨.chunk rest, { s' with searched := 0 }, []⟩
  | done => done

end Scanner

/-- The scanner that begins with a stream. -/
def scanner : Cutter Scanner where
  start := ⟨0, false⟩
  cut := Scanner.cut
  cutLast := Scanner.cutLast

end IrcClient
