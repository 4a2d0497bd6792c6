import IrcClient.Proofs.Wire.Framing
import IrcClient.Wire.Scanner

/-!
# Scanning is lawful

What a scanner has searched holds no line feed (`Scanner.Fits`), so it finds the first one that
there is, and nothing else needs to be known of its state.
-/

namespace IrcClient

namespace Scanner

/-- A scanner has searched a part of the buffer, and there is no line feed in it. -/
structure Fits (s : Scanner) (skipping : Bool) (buffer : Bytes) : Prop where
  skipping : s.skipping = skipping
  inBuffer : s.searched ≤ buffer.length
  inLine : s.searched ≤ maxLineLength
  notFound : lineFeed ∉ buffer.take s.searched

variable {s : Scanner} {skipping : Bool} {buffer : Bytes}

theorem fits_zero (skipping : Bool) (buffer : Bytes) : Fits ⟨0, skipping⟩ skipping buffer :=
  ⟨rfl, Nat.zero_le _, Nat.zero_le _, by simp⟩

theorem Fits.append (h : s.Fits skipping buffer) (bytes : Bytes) :
    s.Fits skipping (buffer ++ bytes) := by
  refine ⟨h.skipping, ?_, h.inLine, ?_⟩
  · rw [List.length_append]
    exact Nat.le_trans h.inBuffer (Nat.le_add_right _ _)
  · rw [List.take_append_of_le_length h.inBuffer]
    exact h.notFound

/-- A line feed is found unless the line in front of it is too long. -/
theorem Fits.search_some {line rest : Bytes} (h : s.Fits skipping (line ++ lineFeed :: rest))
    (hline : lineFeed ∉ line) (hlength : line.length ≤ maxLineLength) :
    s.search (line ++ lineFeed :: rest) = some line.length := by
  have hsearched : s.searched ≤ line.length := by
    by_cases hle : s.searched ≤ line.length
    · exact hle
    · have hpos : s.searched = s.searched - 1 + 1 := by omega
      have hfound := (mem_take_behind hline (some rest) (s.searched - 1)).mpr ⟨by omega, rfl⟩
      rw [← hpos] at hfound
      exact absurd hfound h.notFound
  have hpos : maxLineLength + 1 - line.length = maxLineLength - line.length + 1 := by omega
  have hwindow : ((line ++ lineFeed :: rest).take (maxLineLength + 1)).drop s.searched =
      line.drop s.searched ++ lineFeed :: rest.take (maxLineLength - line.length) := by
    rw [List.take_append, List.take_of_length_le (by omega), hpos, List.take_succ_cons,
      List.drop_append_of_le_length hsearched]
  have hcut : cut? lineFeed (line.drop s.searched ++
      lineFeed :: rest.take (maxLineLength - line.length)) =
      some (line.drop s.searched, rest.take (maxLineLength - line.length)) :=
    cut?_eq_some_iff.mpr ⟨rfl, fun hmem => hline (List.mem_of_mem_drop hmem)⟩
  have hindex : s.searched + (line.length - s.searched) = line.length := by omega
  rw [search, hwindow, hcut, Option.map_some, List.length_drop, hindex]

theorem search_none (h : lineFeed ∉ buffer.take (maxLineLength + 1)) : s.search buffer = none := by
  rw [search, Option.map_eq_none_iff, cut?_eq_none_iff]
  exact fun hmem => h (List.mem_of_mem_drop hmem)

theorem cut_of_found {index : Nat} (h : s.search buffer = some index) :
    s.cut buffer =
      if s.skipping then cut ⟨0, false⟩ (buffer.drop (index + 1))
      else ⟨.chunk (buffer.take index), ⟨0, false⟩, buffer.drop (index + 1)⟩ := by
  rw [cut]
  split
  · rename_i i hi
    cases h.symm.trans hi
    rfl
  · rename_i hi
    cases h.symm.trans hi

theorem cut_of_notFound (h : s.search buffer = none) :
    s.cut buffer =
      if s.skipping then
        if buffer.length ≤ maxLineLength + 1 then ⟨.unfinished, ⟨0, true⟩, []⟩
        else cut ⟨0, true⟩ (buffer.drop (maxLineLength + 1))
      else if maxLineLength < buffer.length then ⟨.tooLong, { s with skipping := true }, buffer⟩
      else ⟨.unfinished, { s with searched := buffer.length }, buffer⟩ := by
  rw [cut]
  split
  · rename_i i hi
    cases h.symm.trans hi
  · rfl

/-- A scanner passes over as many bytes as it looks at, until it finds a line feed. -/
theorem cut_passing (h : s.Fits true buffer) (hbuffer : lineFeed ∉ buffer) :
    s.cut buffer = ⟨.unfinished, ⟨0, true⟩, []⟩ := by
  induction hn : buffer.length using Nat.strongRecOn generalizing s buffer with
  | ind n ih =>
    rw [cut_of_notFound (search_none fun hmem => hbuffer (List.mem_of_mem_take hmem)),
      if_pos h.skipping]
    split
    · rfl
    · have hlt : (buffer.drop (maxLineLength + 1)).length < n := by
        rw [List.length_drop]
        omega
      exact ih _ hlt (fits_zero true _) (fun hmem => hbuffer (List.mem_of_mem_drop hmem)) rfl

theorem cut_passed {line rest : Bytes} (h : s.Fits true (line ++ lineFeed :: rest))
    (hline : lineFeed ∉ line) : s.cut (line ++ lineFeed :: rest) = cut ⟨0, false⟩ rest := by
  induction hn : line.length using Nat.strongRecOn generalizing s line with
  | ind n ih =>
    by_cases hlength : line.length ≤ maxLineLength
    · rw [cut_of_found (h.search_some hline hlength), if_pos h.skipping,
        ← List.drop_drop, List.drop_left, List.drop_one, List.tail_cons]
    · have hnot : lineFeed ∉ (line ++ lineFeed :: rest).take (maxLineLength + 1) := by
        have hiff := mem_take_behind hline (some rest) maxLineLength
        exact fun hmem => hlength (hiff.mp hmem).1
      have hlt : (line.drop (maxLineLength + 1)).length < n := by
        rw [List.length_drop]
        omega
      rw [cut_of_notFound (search_none hnot), if_pos h.skipping, if_neg,
        List.drop_append_of_le_length (by omega)]
      · exact ih _ hlt (fits_zero true _) (fun hmem => hline (List.mem_of_mem_drop hmem)) rfl
      · rw [List.length_append, List.length_cons]
        omega

/-- What is left is searched. -/
theorem searched_of_unfinished {s' : Scanner} {rest : Bytes}
    (h : s.cut buffer = ⟨.unfinished, s', rest⟩) : s'.searched ≤ rest.length := by
  induction hn : buffer.length using Nat.strongRecOn generalizing s buffer with
  | ind n ih =>
    cases hsearch : s.search buffer with
    | some index =>
      have hlt := search_lt hsearch
      rw [cut_of_found hsearch] at h
      split at h
      · exact ih _ (by rw [List.length_drop]; omega) h rfl
      · cases h
    | none =>
      rw [cut_of_notFound hsearch] at h
      split at h
      · split at h
        · cases h
          exact Nat.zero_le _
        · exact ih _ (by rw [List.length_drop]; omega) h rfl
      · split at h
        · cases h
        · cases h
          exact Nat.le_refl _

end Scanner

open Scanner in
/-- A scanner behaves like any cutter. -/
theorem scanner_lawful : scanner.Lawful Fits where
  start := fits_zero false []
  arrived bytes h := h.append bytes
  chunk := by
    intro s line rest h hline hlength
    refine ⟨⟨0, false⟩, ?_, fits_zero false rest⟩
    show s.cut _ = _
    -- the line break is the first one in the buffer, and it goes with the line
    rw [cut_of_found (h.search_some hline hlength), if_neg (by rw [h.skipping]; decide),
      List.take_left, ← List.drop_drop, List.drop_left, List.drop_one, List.tail_cons]
  unfinished := by
    intro s buffer h hbuffer hlength
    refine ⟨{ s with searched := buffer.length }, ?_, h.skipping, Nat.le_refl _, hlength, ?_⟩
    · show s.cut buffer = _
      rw [cut_of_notFound (search_none fun hmem => hbuffer (List.mem_of_mem_take hmem)),
        if_neg (by rw [h.skipping]; decide), if_neg (by omega)]
    · rw [List.take_length]
      exact hbuffer
  tooLong := by
    intro s buffer h hlength hbuffer
    refine ⟨{ s with skipping := true }, ?_, rfl, h.inBuffer, h.inLine, h.notFound⟩
    show s.cut buffer = _
    rw [cut_of_notFound (search_none hbuffer), if_neg (by rw [h.skipping]; decide),
      if_pos hlength]
  passed h hline := ⟨⟨0, false⟩, cut_passed h hline, fits_zero false _⟩
  passing h hbuffer := ⟨⟨0, true⟩, cut_passing h hbuffer, fits_zero true []⟩
  last := by
    intro s skipping buffer h hne
    show s.cutLast buffer = s.cut buffer
    rw [cutLast]
    split
    · rename_i hcut
      exact absurd (congrArg Cut.result hcut) hne
    · rfl
  remains := by
    intro s s' skipping buffer rest h hcut
    -- at the end of the input what is left is a line, if there is anything left
    have hsearched := searched_of_unfinished hcut
    have hlast : s.cutLast buffer = if rest = [] then ⟨.unfinished, s', rest⟩
        else ⟨.chunk rest, { s' with searched := 0 }, []⟩ := by
      have hcut' : s.cut buffer = ⟨.unfinished, s', rest⟩ := hcut
      rw [cutLast, hcut']
    show ∃ s'' skips, Fits s'' skips [] ∧ s.cutLast buffer = _
    by_cases hrest : rest = []
    · rw [hrest] at hsearched
      have hline : s'.searched ≤ maxLineLength := Nat.le_trans hsearched (Nat.zero_le _)
      refine ⟨s', s'.skipping, ⟨rfl, hsearched, hline, by simp⟩, ?_⟩
      rw [hlast, if_pos hrest, if_pos hrest, hrest]
    · refine ⟨{ s' with searched := 0 }, s'.skipping, fits_zero _ [], ?_⟩
      rw [hlast, if_neg hrest, if_neg hrest]

end IrcClient
