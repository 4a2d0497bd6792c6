import IrcClient.Proofs.Wire.Scanner

/-!
# Cutting is framing

However the cutter searches its buffer, a stream has the same lines. A call does not change what
is still to come of the bytes in the buffer and those behind them, unless it yields a chunk, and
then that is the first of it (`Cutter.Call`). As calls that are not in vain use up the buffer, the
task comes to an end with it after every read (`Cutter.Lawful.exists_drained`) and at the end of
the stream (`drained_last`).
-/

namespace IrcClient

variable {σ : Type}

/-! ## Calls are functions -/

theorem Retried.unique {call : σ → Bytes → Cut σ} {s s₁ s₂ : σ} {buffer b₁ b₂ : Bytes}
    {chunk₁ chunk₂ : Option Bytes} (h₁ : Retried call s buffer chunk₁ s₁ b₁)
    (h₂ : Retried call s buffer chunk₂ s₂ b₂) : chunk₁ = chunk₂ ∧ s₁ = s₂ ∧ b₁ = b₂ := by
  induction h₁ with
  | chunk h =>
    cases h₂ with
    | chunk h' => cases h.symm.trans h'; exact ⟨rfl, rfl, rfl⟩
    | unfinished h' => cases h.symm.trans h'
    | tooLong h' again => cases h.symm.trans h'
  | unfinished h =>
    cases h₂ with
    | chunk h' => cases h.symm.trans h'
    | unfinished h' => cases h.symm.trans h'; exact ⟨rfl, rfl, rfl⟩
    | tooLong h' again => cases h.symm.trans h'
  | tooLong h again ih =>
    cases h₂ with
    | chunk h' => cases h.symm.trans h'
    | unfinished h' => cases h.symm.trans h'
    | tooLong h' again' => cases h.symm.trans h'; exact ih again'

theorem Drained.unique {call : σ → Bytes → Cut σ} {s s₁ s₂ : σ} {buffer b₁ b₂ : Bytes}
    {chunks₁ chunks₂ : List Bytes} (h₁ : Drained call s buffer chunks₁ s₁ b₁)
    (h₂ : Drained call s buffer chunks₂ s₂ b₂) : chunks₁ = chunks₂ ∧ s₁ = s₂ ∧ b₁ = b₂ := by
  induction h₁ generalizing chunks₂ with
  | done h =>
    cases h₂ with
    | done h' =>
      obtain ⟨-, rfl, rfl⟩ := h.unique h'
      exact ⟨rfl, rfl, rfl⟩
    | more h' rest => cases (h.unique h').1
  | more h rest ih =>
    cases h₂ with
    | done h' => cases (h.unique h').1
    | more h' rest' =>
      obtain ⟨hbytes, rfl, rfl⟩ := h.unique h'
      cases hbytes
      obtain ⟨rfl, hs, hb⟩ := ih rest'
      exact ⟨rfl, hs, hb⟩

theorem Cutter.Reads.unique {c : Cutter σ} {s : σ} {buffer : Bytes}
    {reads chunks₁ chunks₂ : List Bytes} (h₁ : c.Reads s buffer reads chunks₁)
    (h₂ : c.Reads s buffer reads chunks₂) : chunks₁ = chunks₂ := by
  induction h₁ generalizing chunks₂ with
  | ended h =>
    cases h₂ with
    | ended h' => exact (h.unique h').1
  | arrived h rest ih =>
    cases h₂ with
    | arrived h' rest' =>
      obtain ⟨rfl, rfl, rfl⟩ := h.unique h'
      rw [ih rest']

/-- A refusal goes unnoticed. -/
theorem Drained.of_tooLong {call : σ → Bytes → Cut σ} {s t s' : σ} {buffer between buffer' : Bytes}
    {chunks : List Bytes} (h : call s buffer = ⟨.tooLong, t, between⟩)
    (rest : Drained call t between chunks s' buffer') :
    Drained call s buffer chunks s' buffer' := by
  cases rest with
  | done h' => exact .done (.tooLong h h')
  | more h' rest => exact .more (.tooLong h h') rest

/-! ## What is still to come of a stream -/

/-- The pieces to come of a stream that may begin within a piece that was refused. -/
def toCome (skipping : Bool) (stream : Bytes) : List Bytes :=
  if skipping then ((cut? lineFeed stream).map fun p => keptPieces p.2).getD []
  else keptPieces stream

@[simp] theorem toCome_false (stream : Bytes) : toCome false stream = keptPieces stream := rfl

theorem toCome_true (line : Bytes) (h : lineFeed ∉ line) (tail : Option Bytes) :
    toCome true (line ++ behind lineFeed tail) = (tail.map keptPieces).getD [] := by
  rw [toCome, if_pos rfl, cut?_behind h]
  cases tail <;> rfl

theorem toCome_true_append {part : Bytes} (h : lineFeed ∉ part) (future : Bytes) :
    toCome true (part ++ future) = toCome true future := by
  obtain ⟨line, tail, rfl, hline⟩ := exists_behind lineFeed future
  have hboth : lineFeed ∉ part ++ line := by
    rw [List.mem_append]
    exact fun hmem => hmem.elim h hline
  rw [← List.append_assoc, toCome_true _ hboth, toCome_true _ hline]

/-- What is too long yields nothing. -/
theorem keptPieces_tooLong {stream : Bytes} (hlength : maxLineLength < stream.length)
    (h : lineFeed ∉ stream.take (maxLineLength + 1)) : keptPieces stream = toCome true stream := by
  obtain ⟨line, tail, rfl, hline⟩ := exists_behind lineFeed stream
  rw [mem_take_behind hline] at h
  rw [toCome_true _ hline]
  cases tail with
  | none =>
    rw [behind_none, List.append_nil] at hlength ⊢
    rw [keptPieces, streamPieces_last hline]
    split
    · rfl
    · simp [hlength]
  | some rest =>
    have hlong : ¬ line.length ≤ maxLineLength := fun hle => h ⟨hle, rfl⟩
    rw [behind_some, keptPieces_more hline, if_neg hlong]
    rfl

/-! ## What a call does -/

def CutResult.chunk? : CutResult → Option Bytes
  | .chunk bytes => some bytes
  | _ => none

namespace Cutter

/-- How much there is to do. A refusal leaves the buffer as it is, but no other follows it. -/
def work (skipping : Bool) (buffer : Bytes) : Nat :=
  2 * buffer.length + if skipping then 0 else 1

/-- What a call has done with a buffer. -/
structure Call (fits : σ → Bool → Bytes → Prop) (skipping : Bool) (buffer : Bytes) (done : Cut σ)
    (skips : Bool) : Prop where
  fits : fits done.state skips done.buffer
  toCome : ∀ future, toCome skipping (buffer ++ future) =
    done.result.chunk?.toList ++ toCome skips (done.buffer ++ future)
  ahead : done.result ≠ .unfinished → work skips done.buffer < work skipping buffer
  rest : done.result = .unfinished →
    IrcClient.toCome skips done.buffer = if done.buffer = [] then [] else [done.buffer]

variable {c : Cutter σ} {fits : σ → Bool → Bytes → Prop} {s : σ} {buffer : Bytes}

theorem Lawful.call_reading (h : c.Lawful fits) (hfits : fits s false buffer) :
    ∃ skips, Call fits false buffer (c.cut s buffer) skips := by
  by_cases hfound : lineFeed ∈ buffer.take (maxLineLength + 1)
  · obtain ⟨line, tail, rfl, hline⟩ := exists_behind lineFeed buffer
    -- a line ends in time, and what stands behind its end is left for the next call
    obtain ⟨hlength, htail⟩ := (mem_take_behind hline tail _).mp hfound
    obtain ⟨rest, rfl⟩ := Option.isSome_iff_exists.mp htail
    obtain ⟨s', hcut, hfits'⟩ := h.chunk hfits hline hlength
    rw [behind_some, hcut]
    refine ⟨false, hfits', fun future => ?_, fun _ => ?_, nofun⟩
    · rw [List.append_assoc, List.cons_append, toCome_false, keptPieces_more hline, if_pos hlength]
      rfl
    · simp only [work, List.length_append, List.length_cons]
      omega
  · by_cases hlength : buffer.length ≤ maxLineLength
    · rw [List.take_of_length_le (by omega)] at hfound
      obtain ⟨s', hcut, hfits'⟩ := h.unfinished hfits hfound hlength
      rw [hcut]
      exact ⟨false, hfits', fun _ => rfl, fun hne => absurd rfl hne,
        fun _ => keptPieces_last hfound hlength⟩
    · obtain ⟨s', hcut, hfits'⟩ := h.tooLong hfits (by omega) hfound
      rw [hcut]
      refine ⟨true, hfits', fun future => ?_, fun _ => ?_, nofun⟩
      · apply keptPieces_tooLong
        · rw [List.length_append]
          omega
        · rwa [List.take_append_of_le_length (by omega)]
      · simp [work]

theorem Lawful.call_skipping (h : c.Lawful fits) (hfits : fits s true buffer) :
    ∃ skips, Call fits true buffer (c.cut s buffer) skips := by
  obtain ⟨line, tail, rfl, hline⟩ := exists_behind lineFeed buffer
  cases tail with
  | none =>
    rw [behind_none, List.append_nil] at hfits ⊢
    obtain ⟨s', hcut, hfits'⟩ := h.passing hfits hline
    rw [hcut]
    exact ⟨true, hfits', toCome_true_append hline, fun hne => absurd rfl hne, fun _ => rfl⟩
  | some rest =>
    rw [behind_some] at hfits ⊢
    obtain ⟨s', hcut, hfits'⟩ := h.passed hfits hline
    -- behind the end of the line that is skipped, reading begins
    obtain ⟨skips, call⟩ := h.call_reading hfits'
    have htoCome : ∀ future, toCome true (line ++ lineFeed :: rest ++ future) =
        toCome false (rest ++ future) := by
      intro future
      rw [List.append_assoc]
      exact toCome_true line hline (some (rest ++ future))
    have hwork : work false rest < work true (line ++ lineFeed :: rest) := by
      simp only [work, List.length_append, List.length_cons]
      simp
      omega
    rw [hcut]
    refine ⟨skips, call.fits, fun future => ?_, fun hne => ?_, call.rest⟩
    · rw [htoCome, call.toCome]
    · exact Nat.lt_trans (call.ahead hne) hwork

/-- A call is always accounted for. -/
theorem Lawful.call (h : c.Lawful fits) {skipping : Bool} (hfits : fits s skipping buffer) :
    ∃ skips, Call fits skipping buffer (c.cut s buffer) skips := by
  cases skipping with
  | false => exact h.call_reading hfits
  | true => exact h.call_skipping hfits

/-! ## What the task comes to -/

/-- After a read the task takes what chunks there are, and the others are still to come. -/
theorem Lawful.exists_drained (h : c.Lawful fits) {skipping : Bool}
    (hfits : fits s skipping buffer) :
    ∃ chunks s' skips rest, Drained c.cut s buffer chunks s' rest ∧ fits s' skips rest ∧
      ∀ future, toCome skipping (buffer ++ future) = chunks ++ toCome skips (rest ++ future) := by
  induction hn : work skipping buffer using Nat.strongRecOn generalizing s skipping buffer with
  | ind n ih =>
    obtain ⟨skips, call⟩ := h.call hfits
    -- a chunk and a refusal leave less work, and without either there is nothing left to take
    cases hcut : c.cut s buffer with
    | mk result t between =>
      rw [hcut] at call
      cases result with
      | chunk bytes =>
        obtain ⟨chunks, s', skips', rest, hdrained, hfits', htoCome⟩ :=
          ih _ (hn ▸ call.ahead nofun) call.fits rfl
        refine ⟨bytes :: chunks, s', skips', rest, .more (.chunk hcut) hdrained, hfits', ?_⟩
        intro future
        rw [call.toCome, htoCome]
        rfl
      | tooLong =>
        obtain ⟨chunks, s', skips', rest, hdrained, hfits', htoCome⟩ :=
          ih _ (hn ▸ call.ahead nofun) call.fits rfl
        refine ⟨chunks, s', skips', rest, hdrained.of_tooLong hcut, hfits', ?_⟩
        intro future
        rw [call.toCome, htoCome]
        rfl
      | unfinished =>
        exact ⟨[], t, skips, between, .done (.unfinished hcut), call.fits, call.toCome⟩

theorem Lawful.drained_nil (h : c.Lawful fits) {skipping : Bool} (hfits : fits s skipping []) :
    ∃ s', Drained c.cutLast s [] [] s' [] := by
  have hunfinished : ∃ s', c.cut s [] = ⟨.unfinished, s', []⟩ := by
    cases skipping with
    | false =>
      obtain ⟨s', hcut, -⟩ := h.unfinished hfits (by simp) (Nat.zero_le _)
      exact ⟨s', hcut⟩
    | true =>
      obtain ⟨s', hcut, -⟩ := h.passing hfits (by simp)
      exact ⟨s', hcut⟩
  obtain ⟨s', hcut⟩ := hunfinished
  obtain ⟨s'', -, -, hlast⟩ := h.remains hfits hcut
  exact ⟨s'', .done (.unfinished hlast)⟩

/-- At the end of the stream the task takes all that is to come. -/
theorem Lawful.drained_last (h : c.Lawful fits) {skipping : Bool}
    (hfits : fits s skipping buffer) :
    ∃ s' rest, Drained c.cutLast s buffer (toCome skipping buffer) s' rest := by
  induction hn : work skipping buffer using Nat.strongRecOn generalizing s skipping buffer with
  | ind n ih =>
    obtain ⟨skips, call⟩ := h.call hfits
    have htoCome := call.toCome []
    rw [List.append_nil, List.append_nil] at htoCome
    cases hcut : c.cut s buffer with
    | mk result t between =>
      rw [hcut] at call htoCome
      rw [htoCome]
      cases result with
      | chunk bytes =>
        have hlast := (h.last hfits (by rw [hcut]; nofun)).trans hcut
        obtain ⟨s', rest, hdrained⟩ := ih _ (hn ▸ call.ahead nofun) call.fits rfl
        exact ⟨s', rest, .more (.chunk hlast) hdrained⟩
      | tooLong =>
        have hlast := (h.last hfits (by rw [hcut]; nofun)).trans hcut
        obtain ⟨s', rest, hdrained⟩ := ih _ (hn ▸ call.ahead nofun) call.fits rfl
        exact ⟨s', rest, hdrained.of_tooLong hlast⟩
      | unfinished =>
        -- a line without an end counts only now that nothing more can come
        obtain ⟨s', skips', hfits', hlast⟩ := h.remains hfits hcut
        have hrest : toCome skips between = if between = [] then [] else [between] :=
          call.rest rfl
        show ∃ s' rest, Drained c.cutLast s buffer ([] ++ toCome skips between) s' rest
        rw [List.nil_append, hrest]
        split
        · rename_i hbetween
          rw [if_pos hbetween] at hlast
          exact ⟨s', [], .done (.unfinished hlast)⟩
        · rename_i hbetween
          rw [if_neg hbetween] at hlast
          obtain ⟨s'', hdrained⟩ := h.drained_nil hfits'
          exact ⟨s'', [], .more (.chunk hlast) hdrained⟩

theorem Lawful.reads_toCome (h : c.Lawful fits) {skipping : Bool} (hfits : fits s skipping buffer)
    (reads : List Bytes) : c.Reads s buffer reads (toCome skipping (buffer ++ reads.flatten)) := by
  induction reads generalizing s skipping buffer with
  | nil =>
    obtain ⟨s', rest, hdrained⟩ := h.drained_last hfits
    rw [List.flatten_nil, List.append_nil]
    exact .ended hdrained
  | cons bytes reads ih =>
    obtain ⟨chunks, s', skips, rest, hdrained, hfits', htoCome⟩ :=
      h.exists_drained (h.arrived bytes hfits)
    rw [List.flatten_cons, ← List.append_assoc, htoCome]
    exact .arrived hdrained (ih hfits')

/--
**The lines do not depend on how the stream is cut.** Whatever pieces a stream arrives in, the
task of a link delivers the lines of the stream and then ends, and what it delivers is what a
framer makes of the pieces.
-/
theorem Lawful.lines_delivered (h : c.Lawful fits) (reads : List Bytes) :
    (∀ lines, c.Delivers reads lines ↔ lines = linesOf reads.flatten) ∧
      Link.new.listen reads = linesOf reads.flatten := by
  have hreads : c.Reads c.start [] reads (keptPieces reads.flatten) := h.reads_toCome h.start reads
  refine ⟨fun lines => ?_, Link.listen_eq reads⟩
  rw [linesOf_eq]
  constructor
  · rintro ⟨chunks, hchunks, rfl⟩
    rw [hchunks.unique hreads]
  · intro hlines
    exact ⟨_, hreads, hlines⟩

/-- A line that is one byte too long arrives in three pieces, with the line behind it. -/
theorem Lawful.lines_delivered_scanner :
    let reads : List Bytes := [List.replicate maxLineLength 120, Utf8.encode "\r",
      Utf8.encode "\nPING :a", Utf8.encode "fter\r\r\n\nQ"]
    scanner.Lawful Scanner.Fits ∧ scanner.Delivers reads ["PING :after", "Q"] ∧
      Link.new.listen reads = ["PING :after", "Q"] := by
  intro reads
  have hlines : linesOf reads.flatten = ["PING :after", "Q"] := by
    have hflatten : reads.flatten = (List.replicate maxLineLength 120 ++ [13]) ++
        lineFeed :: Utf8.encode "PING :after\r\r\n\nQ" := by
      rw [List.append_assoc]
      exact congrArg (List.replicate maxLineLength 120 ++ ·) (by decide +kernel)
    have hline : lineFeed ∉ List.replicate maxLineLength 120 ++ [13] := by
      rw [List.mem_append, List.mem_replicate]
      decide
    have hlong : ¬ (List.replicate maxLineLength 120 ++ [(13 : UInt8)]).length ≤ maxLineLength := by
      rw [List.length_append, List.length_replicate]
      exact Nat.not_succ_le_self maxLineLength
    rw [linesOf_eq, hflatten, keptPieces_more hline, if_neg hlong]
    decide +kernel
  obtain ⟨hdelivers, hlisten⟩ := scanner_lawful.lines_delivered reads
  exact ⟨scanner_lawful, (hdelivers _).mpr hlines.symm, hlisten.trans hlines⟩

end Cutter

end IrcClient
