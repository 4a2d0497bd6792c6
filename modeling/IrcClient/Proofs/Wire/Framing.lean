import IrcClient.Proofs.Text.Split
import IrcClient.Wire.Link

/-!
# The lines of a stream

What the lines of a stream are is said without reading it byte by byte (`linesOf`): the stream is
split at its line feeds, pieces that are too long are left out, and the others are read as text.

A framer has taken in some bytes since the last line feed (`Framer.holding`), and that is all
there is to it. So it completes the pieces of the stream one after another, and what it completes
does not depend on how the bytes came in (`listen_eq`).
-/

namespace IrcClient

/-! ## Pieces of a stream -/

/-- The pieces between line feeds. The last one counts only if it holds something. -/
def streamPieces (stream : Bytes) : List Bytes :=
  let pieces := stream.splitOn lineFeed
  if pieces.getLast? = some [] then pieces.dropLast else pieces

/-- The lines of a stream: its pieces as text, without those that are too long or empty. -/
def linesOf (stream : Bytes) : List String :=
  (((streamPieces stream).filter (·.length ≤ maxLineLength)).map fun piece =>
    String.ofList (dropEndWhile (· = '\r') (Utf8.decodeLossy piece).toList)).filter (· ≠ "")

/-- A stream is one unfinished line, or a line and the stream behind it. -/
theorem stream_induction {P : Bytes → Prop} (last : ∀ line, lineFeed ∉ line → P line)
    (more : ∀ line rest, lineFeed ∉ line → P rest → P (line ++ lineFeed :: rest)) :
    ∀ stream, P stream := by
  intro stream
  induction hn : stream.length using Nat.strongRecOn generalizing stream with
  | ind n ih =>
    obtain ⟨line, tail, rfl, hline⟩ := exists_behind lineFeed stream
    cases tail with
    | none =>
      rw [behind_none, List.append_nil]
      exact last line hline
    | some rest =>
      have hlt : rest.length < n := by
        rw [← hn, behind_some, List.length_append, List.length_cons]
        omega
      exact more line rest hline (ih _ hlt rest rfl)

theorem splitOn_last {line : Bytes} (h : lineFeed ∉ line) : line.splitOn lineFeed = [line] := by
  rw [← pieces_eq_splitOn, pieces_eq_iff]
  exact ⟨(List.intercalate_singleton ..).symm, by simp, by simpa using h⟩

theorem splitOn_more {line : Bytes} (h : lineFeed ∉ line) (rest : Bytes) :
    (line ++ lineFeed :: rest).splitOn lineFeed = line :: rest.splitOn lineFeed := by
  rw [← pieces_eq_splitOn, ← pieces_eq_splitOn, pieces_eq_iff]
  refine ⟨?_, by simp, ?_⟩
  · cases hp : pieces lineFeed rest with
    | nil => exact absurd hp (pieces_ne_nil lineFeed rest)
    | cons p ps =>
      rw [List.intercalate_cons_cons, ← hp, intercalate_pieces]
      simp
  · intro p hp
    rcases List.mem_cons.mp hp with rfl | hp
    · exact h
    · exact notMem_of_mem_pieces hp

/-- A line feed is found early when the line is short. -/
theorem mem_take_behind {line : Bytes} (h : lineFeed ∉ line) (tail : Option Bytes) (n : Nat) :
    lineFeed ∈ (line ++ behind lineFeed tail).take (n + 1) ↔
      line.length ≤ n ∧ tail.isSome = true := by
  have hnot : lineFeed ∉ line.take (n + 1) := fun hmem => h (List.mem_of_mem_take hmem)
  rw [List.take_append, List.mem_append, or_iff_right hnot]
  cases tail with
  | none => simp
  | some rest =>
    by_cases hlength : line.length ≤ n
    · have hpos : n + 1 - line.length = n - line.length + 1 := by omega
      simp [hpos, hlength]
    · have hzero : n + 1 - line.length = 0 := by omega
      simp [hzero, hlength]

theorem streamPieces_last {line : Bytes} (h : lineFeed ∉ line) :
    streamPieces line = if line = [] then [] else [line] := by
  rw [streamPieces, splitOn_last h]
  simp

theorem streamPieces_more {line : Bytes} (h : lineFeed ∉ line) (rest : Bytes) :
    streamPieces (line ++ lineFeed :: rest) = line :: streamPieces rest := by
  rw [streamPieces, splitOn_more h, streamPieces]
  cases hp : rest.splitOn lineFeed with
  | nil => exact absurd hp (List.splitOn_ne_nil lineFeed rest)
  | cons p ps =>
    simp only [List.getLast?_cons_cons]
    split
    · rw [List.dropLast_cons_cons]
    · rfl

/-- The pieces that are kept. -/
def keptPieces (stream : Bytes) : List Bytes :=
  (streamPieces stream).filter (·.length ≤ maxLineLength)

theorem keptPieces_last {line : Bytes} (h : lineFeed ∉ line)
    (hlength : line.length ≤ maxLineLength) :
    keptPieces line = if line = [] then [] else [line] := by
  rw [keptPieces, streamPieces_last h]
  split
  · rfl
  · rw [List.filter_cons_of_pos (by simpa using hlength), List.filter_nil]

/-- A line that is too long is nothing to the lines behind it. -/
theorem keptPieces_more {line : Bytes} (h : lineFeed ∉ line) (rest : Bytes) :
    keptPieces (line ++ lineFeed :: rest) =
      (if line.length ≤ maxLineLength then [line] else []) ++ keptPieces rest := by
  rw [keptPieces, streamPieces_more h, List.filter_cons]
  by_cases hlength : line.length ≤ maxLineLength
  · rw [if_pos (decide_eq_true hlength), if_pos hlength]
    rfl
  · rw [if_neg (by simpa using hlength), if_neg hlength]
    rfl

/-- Lines are the texts of the pieces that are kept. -/
theorem linesOf_eq (stream : Bytes) : linesOf stream = (keptPieces stream).filterMap lineText? := by
  rw [linesOf, ← keptPieces]
  induction keptPieces stream with
  | nil => rfl
  | cons piece pieces ih =>
    rw [List.map_cons, List.filter_cons, List.filterMap_cons, ih, lineText?]
    cases dropEndWhile (· = '\r') (Utf8.decodeLossy piece).toList with
    | nil => rfl
    | cons c text =>
      have hne : String.ofList (c :: text) ≠ "" := by
        rw [ne_eq, ← String.toList_eq_nil_iff, String.toList_ofList]
        exact List.cons_ne_nil c text
      rw [if_pos (decide_eq_true hne)]
      rfl

/-! ## A framer and the bytes it holds -/

namespace Framer

/-- The framer that has read some bytes since the last line feed. -/
def holding (bytes : Bytes) : Framer :=
  ⟨(bytes.take (maxLineLength + 1)).reverse, bytes.length⟩

theorem push_holding (bytes : Bytes) (b : UInt8) :
    (holding bytes).push b = holding (bytes ++ [b]) := by
  unfold push holding
  by_cases h : bytes.length ≤ maxLineLength
  · have hbytes : bytes.take (maxLineLength + 1) = bytes := List.take_of_length_le (by omega)
    have hboth : (bytes ++ [b]).take (maxLineLength + 1) = bytes ++ [b] :=
      List.take_of_length_le (by rw [List.length_append, List.length_singleton]; omega)
    rw [if_pos h, hbytes, hboth, List.reverse_append, List.length_append]
    rfl
  · rw [if_neg h, List.take_append_of_le_length (by omega), List.length_append]
    rfl

theorem line?_holding (bytes : Bytes) :
    (holding bytes).line? = if bytes.length ≤ maxLineLength then some bytes else none := by
  unfold line? holding
  by_cases h : bytes.length ≤ maxLineLength
  · rw [if_pos h, if_pos h, List.reverse_reverse, List.take_of_length_le (by omega)]
  · rw [if_neg h, if_neg h]

/-- Bytes of a line are taken in. -/
theorem read_part (held : Bytes) {bytes : Bytes} (h : lineFeed ∉ bytes) :
    (holding held).read bytes = (holding (held ++ bytes), []) := by
  induction bytes generalizing held with
  | nil => rw [List.append_nil, read]
  | cons b bytes ih =>
    rw [List.mem_cons, not_or] at h
    rw [read, if_neg (Ne.symm h.1), push_holding, ih _ h.2, List.append_assoc]
    rfl

/-- A line feed ends the line. -/
theorem read_line (line rest : Bytes) (h : lineFeed ∉ line) :
    empty.read (line ++ lineFeed :: rest) = ((empty.read rest).1,
      (if line.length ≤ maxLineLength then [line] else []) ++ (empty.read rest).2) := by
  have hempty : empty = holding [] := rfl
  have hline : empty.read line = (holding line, []) := by
    rw [hempty, read_part [] h, List.nil_append]
  rw [read_append, hline, read, if_pos rfl, line?_holding]
  by_cases hlength : line.length ≤ maxLineLength
  · simp [hlength]
  · simp [hlength]

/-- **A framer completes the pieces of the stream.** -/
theorem read_eq_keptPieces (stream : Bytes) :
    (empty.read stream).2 ++ (empty.read stream).1.rest?.toList = keptPieces stream := by
  induction stream using stream_induction with
  | last line h =>
    have hline : empty.read line = (holding line, []) := read_part [] h
    rw [hline, List.nil_append, rest?, line?_holding, keptPieces, streamPieces_last h]
    cases line with
    | nil => rfl
    | cons b line =>
      rw [if_neg (by simp [holding]), if_neg (List.cons_ne_nil b line), List.filter_cons]
      by_cases hlength : (b :: line).length ≤ maxLineLength
      · rw [if_pos hlength, if_pos (decide_eq_true hlength)]
        rfl
      · rw [if_neg hlength, if_neg (by simpa using hlength)]
        rfl
  | more line rest h ih =>
    rw [read_line line rest h, keptPieces_more h, ← ih, List.append_assoc]

end Framer

/-! ## A link and the stream it reads -/

/-- The lines that come of bytes as they arrive, and of the end of the stream. -/
def Link.listen (l : Link) : List Bytes → List String
  | [] => l.endOfInput.2
  | bytes :: reads => (l.receive bytes).2 ++ (l.receive bytes).1.listen reads

theorem Link.listen_eq_read {l : Link} (h : l.alive = true) (reads : List Bytes) :
    l.listen reads = ((l.framer.read reads.flatten).2 ++
      (l.framer.read reads.flatten).1.rest?.toList).filterMap lineText? := by
  induction reads generalizing l with
  | nil =>
    rw [listen, endOfInput, if_pos h, List.flatten_nil, Framer.read, List.nil_append]
    cases l.framer.rest? with
    | none => rfl
    | some bytes => cases hl : lineText? bytes <;> simp [hl]
  | cons bytes reads ih =>
    have hreceive : l.receive bytes = ({ l with framer := (l.framer.read bytes).1 },
        (l.framer.read bytes).2.filterMap lineText?) := if_pos h
    rw [listen, hreceive, ih (l := { l with framer := (l.framer.read bytes).1 }) h,
      List.flatten_cons, Framer.read_append, ← List.filterMap_append, List.append_assoc]

/-- A link yields the lines of the stream, however the stream was cut. -/
theorem Link.listen_eq (reads : List Bytes) : Link.new.listen reads = linesOf reads.flatten := by
  rw [listen_eq_read rfl, linesOf_eq, ← Framer.read_eq_keptPieces]
  rfl

end IrcClient
