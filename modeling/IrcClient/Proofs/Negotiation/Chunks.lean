import IrcClient.Proofs.Message.RoundTrip
import IrcClient.Proofs.Negotiation.Response

/-!
# Payloads in chunks

A payload is sent as full chunks of its Base64 and a last one that is not full
(`exists_chunks`). The last chunk tells that the payload is complete. Where the full chunks
have taken up all of the Base64, or where there is none, a `+` stands in its place, and no
chunk of Base64 can be taken for it: Base64 comes in groups of four.

Each of the lines is read as a command with its chunk for an argument (`parse?_chunk`), so
what the receiver puts together is what the sender took apart.
-/

namespace IrcClient

/-! ## Blocks -/

/-- All blocks are full but the last, which is left out if it is empty. -/
theorem exists_blocks {α : Type} {n : Nat} (hn : 0 < n) : ∀ l : List α,
    ∃ (full : List (List α)) (last : List α), (∀ c ∈ full, c.length = n) ∧ last.length < n ∧
      full.flatten ++ last = l ∧ blocks n l = full ++ if last = [] then [] else [last] := by
  intro l
  fun_induction blocks n l with
  | case1 l h =>
    have hl : l = [] := h.resolve_right (by omega)
    exact ⟨[], [], by simp, hn, hl.symm, rfl⟩
  | case2 l h hlt ih =>
    have hl : l ≠ [] := fun he => h (.inl he)
    by_cases hshort : l.length < n
    · have hdrop : l.drop n = [] := List.drop_eq_nil_of_le (by omega)
      have htake : l.take n = l := List.take_of_length_le (by omega)
      refine ⟨[], l, by simp, hshort, rfl, ?_⟩
      rw [hdrop, htake, if_neg hl, blocks, dif_pos (.inl rfl)]
      rfl
    · obtain ⟨full, last, hfull, hlast, hflat, hblocks⟩ := ih
      refine ⟨l.take n :: full, last, ?_, hlast, ?_, ?_⟩
      · intro c hc
        rcases List.mem_cons.mp hc with rfl | hc
        · rw [List.length_take]
          omega
        · exact hfull c hc
      · rw [List.flatten_cons, List.append_assoc, hflat, List.take_append_drop]
      · rw [hblocks, List.cons_append]

theorem length_flatten_full {α : Type} {n : Nat} {full : List (List α)}
    (h : ∀ c ∈ full, c.length = n) : full.flatten.length = n * full.length := by
  induction full with
  | nil => rfl
  | cons c full ih =>
    rw [List.forall_mem_cons] at h
    rw [List.flatten_cons, List.length_append, h.1, ih h.2, List.length_cons, Nat.mul_succ,
      Nat.add_comm]

/-! ## Chunks of Base64 -/

/-- A group of symbols is always complete. -/
theorem Base64.length_symbols (bytes : Bytes) : (symbols bytes).length % 4 = 0 := by
  rw [symbols_eq, List.length_append, List.length_map, List.length_replicate, padLength]
  omega

/-- The line that a chunk is sent in. -/
def chunkLine (chunk : List Char) : String :=
  "AUTHENTICATE " ++ String.ofList chunk

/-- What the lines of a payload hold: full chunks, and a last one that is not full. -/
structure Chunked (payload : Bytes) (full : List (List Char)) (last : List Char) : Prop where
  lines : authenticateLines payload = (full ++ [last]).map chunkLine
  length_full : ∀ c ∈ full, c.length = chunkLength
  last_ne_nil : last ≠ []
  length_last : last.length < chunkLength
  /-- A `+` adds nothing to the chunks before it. -/
  symbols : full.flatten ++ (if last = ['+'] then [] else last) = Base64.symbols payload

theorem exists_chunks (payload : Bytes) : ∃ full last, Chunked payload full last := by
  obtain ⟨full, last, hfull, hlt, hflat, hblocks⟩ :=
    exists_blocks (n := chunkLength) (by decide) (Base64.symbols payload)
  have hlen : (Base64.symbols payload).length = chunkLength * full.length + last.length := by
    rw [← hflat, List.length_append, length_flatten_full hfull]
  have hmod : (Base64.symbols payload).length % chunkLength = last.length := by
    rw [hlen, Nat.mul_add_mod, Nat.mod_eq_of_lt hlt]
  have hlines : authenticateLines payload = (blocks chunkLength (Base64.symbols payload)).map
      chunkLine ++ if last.length = 0 then ["AUTHENTICATE +"] else [] := by
    rw [authenticateLines, hmod]
    rfl
  by_cases hlast : last = []
  · refine ⟨full, ['+'], ?_, hfull, by simp, by decide, ?_⟩
    · rw [hlines, hblocks, hlast]
      simp [chunkLine]
    · rw [if_pos rfl, ← hflat, hlast]
  · have hplus : last ≠ ['+'] := by
      intro he
      have hgroup := Base64.length_symbols payload
      rw [hlen, he, List.length_singleton, chunkLength] at hgroup
      omega
    refine ⟨full, last, ?_, hfull, hlast, hlt, ?_⟩
    · rw [hlines, hblocks, if_neg hlast, if_neg (by simpa using hlast), List.append_nil]
    · rw [if_neg hplus, hflat]

/-- The characters of chunks. -/
def IsChunkChar (c : Char) : Prop :=
  c.toNat < 0x80 ∧ c ≠ ' ' ∧ c ≠ ':' ∧ isLineBreak c = false

instance (c : Char) : Decidable (IsChunkChar c) :=
  inferInstanceAs (Decidable (_ ∧ _))

theorem Chunked.chars {payload : Bytes} {full : List (List Char)} {last : List Char}
    (h : Chunked payload full last) : ∀ c ∈ full ++ [last], ∀ x ∈ c, IsChunkChar x := by
  have hsymbols : ∀ x ∈ Base64.symbols payload, IsChunkChar x :=
    Base64.forall_mem_symbols (by decide +kernel) (by decide) payload
  rw [← h.symbols] at hsymbols
  intro c hc x hx
  rcases List.mem_append.mp hc with hc | hc
  · exact hsymbols x (List.mem_append_left _ (List.mem_flatten.mpr ⟨c, hc, hx⟩))
  · rw [List.mem_singleton.mp hc] at hx
    by_cases hplus : last = ['+']
    · rw [hplus, List.mem_singleton] at hx
      rw [hx]
      decide
    · rw [if_neg hplus] at hsymbols
      exact hsymbols x (List.mem_append_right _ hx)

theorem Chunked.length_le {payload : Bytes} {full : List (List Char)} {last : List Char}
    (h : Chunked payload full last) : ∀ c ∈ full ++ [last], c.length ≤ chunkLength := by
  intro c hc
  rcases List.mem_append.mp hc with hc | hc
  · exact Nat.le_of_eq (h.length_full c hc)
  · rw [List.mem_singleton.mp hc]
    exact Nat.le_of_lt h.length_last

/-! ## Reading a chunk -/

theorem utf8ByteSize_ofList {cs : List Char} (h : ∀ c ∈ cs, c.toNat < 0x80) :
    (String.ofList cs).utf8ByteSize = cs.length := by
  induction cs with
  | nil => rfl
  | cons c cs ih =>
    rw [List.forall_mem_cons] at h
    have hc : c.utf8Size = 1 := by
      have hlt : c.toNat < 0x80 := h.1
      rw [Char.utf8Size_eq_one_iff, UInt32.le_iff_toNat_le]
      show c.toNat ≤ 127
      omega
    rw [String.ofList_cons, String.utf8ByteSize_append, String.utf8ByteSize_singleton, hc,
      ih h.2, List.length_cons, Nat.add_comm]

/-- An argument that nothing follows. -/
theorem argsFrom_last {a word : List Char} (hs : ' ' ∉ a) (hne : word ≠ []) :
    argsFrom word a = [word.reverse ++ a] := by
  induction a generalizing word with
  | nil => rw [argsFrom, if_neg (by simpa using hne), List.append_nil]
  | cons c a ih =>
    rw [List.mem_cons, not_or] at hs
    have hword : (c = ':' && word.isEmpty) = false := by simp [hne]
    rw [argsFrom, if_neg (Ne.symm hs.1), hword, if_neg (by decide),
      ih hs.2 (List.cons_ne_nil c word), List.reverse_cons, List.append_assoc,
      List.singleton_append]

/-- A line with a chunk is read as a command with the chunk for its argument. -/
theorem parse?_chunk {chunk : List Char} (hne : chunk ≠ []) (h : ∀ c ∈ chunk, IsChunkChar c) :
    Message.parse? (chunkLine chunk) =
      some ⟨[], none, "AUTHENTICATE", [String.ofList chunk]⟩ := by
  -- there is no space in the chunk, and no colon at its front, so it is one argument
  have hargs : argsFrom [] chunk = [chunk] := by
    cases chunk with
    | nil => exact absurd rfl hne
    | cons c rest =>
      rw [List.forall_mem_cons] at h
      obtain ⟨⟨-, hspace, hcolon, -⟩, hrest⟩ := h
      rw [argsFrom, if_neg hspace, if_neg (by simp [hcolon]),
        argsFrom_last (fun hx => (hrest _ hx).2.1 rfl) (List.cons_ne_nil c [])]
      rfl
  have hline : (chunkLine chunk).toList = "AUTHENTICATE".toList ++ ' ' :: chunk := by
    simp [chunkLine]
  have hbreak : ∀ c ∈ "AUTHENTICATE".toList ++ ' ' :: chunk, isLineBreak c = false := by
    intro c hc
    rcases List.mem_append.mp hc with hc | hc
    · have hcommand : "AUTHENTICATE".toList.all (!isLineBreak ·) = true := by decide
      simpa using List.all_eq_true.mp hcommand c hc
    · rcases List.mem_cons.mp hc with rfl | hc
      · decide
      · exact (h c hc).2.2.2
  have hfront : dropBlanks (dropEndWhile isLineBreak (chunkLine chunk).toList) =
      "AUTHENTICATE".toList ++ ' ' :: chunk := by
    have hend := dropEndWhile_lineBreaks hbreak (fun c (hc : c ∈ []) => absurd hc (by simp))
    rw [List.append_nil] at hend
    rw [hline, hend, dropBlanks_eq_self]
    intro c hc
    cases hc
    decide
  have hcut : cut? ' ' ("AUTHENTICATE".toList ++ ' ' :: chunk) =
      some ("AUTHENTICATE".toList, chunk) := cut?_eq_some_iff.mpr ⟨rfl, by decide⟩
  rw [parse?_of_noAt hfront (by simp) (by simp), parseSource_of_noColon _ (by simp),
    Message.parseCommand, hcut, Option.getD_some]
  dsimp only
  rw [if_neg (by decide), hargs]
  rfl

/-- The lines of a payload are read as commands with its chunks for their arguments. -/
theorem Chunked.args {payload : Bytes} {full : List (List Char)} {last : List Char}
    (h : Chunked payload full last) :
    (authenticateLines payload).map (fun line => (Message.parse? line).map (·.args)) =
      (full ++ [last]).map fun c => some [String.ofList c] := by
  rw [h.lines, List.map_map]
  refine List.map_congr_left fun c hmem => ?_
  have hne : c ≠ [] := by
    rcases List.mem_append.mp hmem with hfull | hlast
    · intro he
      have hlength := h.length_full c hfull
      rw [he] at hlength
      exact absurd hlength (by decide)
    · rw [List.mem_singleton.mp hlast]
      exact h.last_ne_nil
  show (Message.parse? (chunkLine c)).map (·.args) = _
  rw [parse?_chunk hne (h.chars c hmem)]
  rfl

end IrcClient
