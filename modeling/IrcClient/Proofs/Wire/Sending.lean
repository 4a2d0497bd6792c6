import IrcClient.Proofs.Message.RoundTrip
import IrcClient.Proofs.Text.Utf8
import IrcClient.Wire.Link

/-!
# What a link writes

Whoever holds on to a link may queue requests and tell it to close, and its task takes one order
after another, whenever its turn comes. So what is written at some moment says little. But what
is written, together with what is still to be written, is at any time what was accepted
(`conserve_step`): an order moves from the caller to the queue and from the queue to the wire,
and on the way nothing is lost, added or put before another.

The one thing that costs a line which was accepted is the server's ending its side first.
-/

namespace IrcClient

namespace Link

/-! ## Steps -/

/-- The task takes the next order, if there is one. -/
def work (l : Link) : Link × List String :=
  if l.alive then
    match l.queue with
    | [] => (l, [])
    | .send line :: rest => ({ l with queue := rest }, [line])
    | .close :: _ => ({ l with queue := [], alive := false }, [])
  else (l, [])

/-- What can happen on a link at a time. -/
inductive Step where
  /-- Somebody asks the server for something. -/
  | call (r : Request)
  | close
  | work
  | receive (bytes : Bytes)
  | endOfInput

/-- What a step makes of a link, and which lines it writes. -/
def step (l : Link) : Step → Link × List String
  | .call r => ((l.send r).1, [])
  | .close => (l.close, [])
  | .work => l.work
  | .receive bytes => ((l.receive bytes).1, [])
  | .endOfInput => (l.endOfInput.1, [])

/-- Steps one after another, and all lines that they write. -/
def run : Link → List Step → Link × List String
  | l, [] => (l, [])
  | l, s :: steps => ((run (l.step s).1 steps).1, (l.step s).2 ++ (run (l.step s).1 steps).2)

/-- What a call leaves to be written: its line, if it is accepted. -/
def taken (l : Link) (r : Request) : List String :=
  match (l.send r).2 with
  | .ok () => [r.line]
  | .error _ => []

/-- The lines of the calls that are accepted, up to the first order to close. -/
def accepted : Link → List Step → List String
  | _, [] => []
  | _, .close :: _ => []
  | l, .call r :: steps => l.taken r ++ accepted (l.send r).1 steps
  | l, s :: steps => accepted (l.step s).1 steps

/-! ## What is still to be written -/

/-- The lines that the task has yet to write. -/
def pending (l : Link) : List String :=
  if l.alive then (linesToWrite l.queue).1 else []

/-- Whether nothing more will be written than is pending. -/
def closing (l : Link) : Bool :=
  !l.alive || (linesToWrite l.queue).2

theorem linesToWrite_append (q q' : List Control) : linesToWrite (q ++ q') =
    if (linesToWrite q).2 then linesToWrite q
    else ((linesToWrite q).1 ++ (linesToWrite q').1, (linesToWrite q').2) := by
  induction q with
  | nil => rfl
  | cons order q ih =>
    cases order with
    | close => rfl
    | send line =>
      rw [List.cons_append, linesToWrite, linesToWrite, ih]
      dsimp only
      split <;> rfl

theorem flush_eq (l : Link) : l.flush.2 = l.pending := by
  unfold flush pending
  split <;> rfl

theorem pending_of_dead {l : Link} (h : l.alive = false) : l.pending = [] ∧ l.closing = true := by
  unfold pending closing
  rw [h]
  exact ⟨rfl, rfl⟩

variable {l : Link}

theorem send_of_break {r : Request} (h : hasLineBreak r.line = true) :
    l.send r = (l, .error .invalidLine) := by
  unfold send sendLine refusal?
  rw [if_pos h]

theorem send_of_dead {r : Request} (h : hasLineBreak r.line = false) (hl : l.alive = false) :
    l.send r = (l, .error .closed) := by
  unfold send sendLine refusal?
  rw [h, hl]
  rfl

theorem send_of_alive {r : Request} (h : hasLineBreak r.line = false) (hl : l.alive = true) :
    l.send r = ({ l with queue := l.queue ++ [.send r.line] }, .ok ()) := by
  unfold send sendLine refusal?
  rw [h, hl]
  rfl

/-- A call is refused for its line exactly where the line is none. -/
theorem send_invalid_iff (l : Link) (r : Request) :
    (l.send r).2 = .error .invalidLine ↔ hasLineBreak r.line = true := by
  cases h : hasLineBreak r.line with
  | true => simp [send_of_break h]
  | false =>
    cases hl : l.alive with
    | true => simp [send_of_alive h hl]
    | false => simp [send_of_dead h hl]

theorem send_ok_iff (l : Link) (r : Request) :
    (l.send r).2 = .ok () ↔ l.alive = true ∧ hasLineBreak r.line = false := by
  cases h : hasLineBreak r.line with
  | true => simp [send_of_break h]
  | false =>
    cases hl : l.alive with
    | true => simp [send_of_alive h hl]
    | false => simp [send_of_dead h hl]

/-- A call adds its line at the end, unless the link is about to close. -/
theorem pending_send (l : Link) (r : Request) :
    (l.send r).1.pending = l.pending ++ (if l.closing then [] else l.taken r) ∧
      (l.send r).1.closing = l.closing := by
  unfold taken
  cases h : hasLineBreak r.line with
  | true =>
    rw [send_of_break h]
    simp
  | false =>
    cases hl : l.alive with
    | false =>
      rw [send_of_dead h hl]
      simp
    | true =>
      rw [send_of_alive h hl]
      unfold pending closing
      dsimp only
      rw [linesToWrite_append, hl]
      cases hc : (linesToWrite l.queue).2 with
      | true => simp [hc]
      | false => simp [linesToWrite]

theorem pending_close (l : Link) : l.close.pending = l.pending ∧ l.close.closing = true := by
  cases hl : l.alive with
  | false =>
    rw [close, hl, if_neg Bool.false_ne_true]
    exact ⟨rfl, (pending_of_dead hl).2⟩
  | true =>
    rw [close, hl, if_pos rfl]
    unfold pending closing
    dsimp only
    rw [linesToWrite_append, hl]
    cases hc : (linesToWrite l.queue).2 with
    | true => simp [hc]
    | false => simp [linesToWrite]

theorem pending_work (l : Link) :
    l.work.2 ++ l.work.1.pending = l.pending ∧ l.work.1.closing = l.closing := by
  unfold work
  cases hl : l.alive with
  | false => exact ⟨rfl, rfl⟩
  | true =>
    rw [if_pos rfl]
    unfold pending closing
    rw [hl]
    cases hq : l.queue with
    | nil => simp [hl, hq, linesToWrite]
    | cons order rest =>
      cases order with
      | send line => simp [linesToWrite]
      | close => simp [linesToWrite]

/-- What arrives does not matter to what is to be written. -/
theorem pending_receive (l : Link) (bytes : Bytes) :
    (l.receive bytes).1.pending = l.pending ∧ (l.receive bytes).1.closing = l.closing := by
  unfold receive
  split <;> exact ⟨rfl, rfl⟩

/-! ## Nothing is lost -/

/-- What the calls of some steps still add to what is pending. -/
def due (l : Link) (steps : List Step) : List String :=
  if l.closing then [] else l.accepted steps

theorem due_of_closing (h : l.closing = true) (steps : List Step) : l.due steps = [] := by
  rw [due, if_pos h]

/-- **Lines are conserved.** What a step writes is no longer pending, and what it accepts is. -/
theorem conserve_step {s : Step} (hs : s ≠ .endOfInput) (l : Link) (steps : List Step) :
    (l.step s).2 ++ ((l.step s).1.pending ++ (l.step s).1.due steps) =
      l.pending ++ l.due (s :: steps) := by
  cases s with
  | call r =>
    obtain ⟨hpending, hclosing⟩ := l.pending_send r
    show [] ++ ((l.send r).1.pending ++ (l.send r).1.due steps) = _
    rw [due, due, hpending, hclosing, List.nil_append, List.append_assoc]
    cases l.closing with
    | true => rfl
    | false => rfl
  | close =>
    obtain ⟨hpending, hclosing⟩ := l.pending_close
    -- what is asked for behind the order to close is not accepted any more
    show [] ++ (l.close.pending ++ l.close.due steps) = _
    rw [due_of_closing hclosing, hpending, due]
    cases l.closing with
    | true => rfl
    | false => rfl
  | work =>
    obtain ⟨hpending, hclosing⟩ := l.pending_work
    show l.work.2 ++ (l.work.1.pending ++ l.work.1.due steps) = _
    rw [← List.append_assoc, hpending, due, hclosing]
    rfl
  | receive bytes =>
    obtain ⟨hpending, hclosing⟩ := l.pending_receive bytes
    show [] ++ ((l.receive bytes).1.pending ++ (l.receive bytes).1.due steps) = _
    rw [List.nil_append, hpending, due, hclosing]
    rfl
  | endOfInput => exact absurd rfl hs

theorem conserve_run {steps : List Step} (h : .endOfInput ∉ steps) (l : Link) :
    (l.run steps).2 ++ (l.run steps).1.pending = l.pending ++ l.due steps := by
  induction steps generalizing l with
  | nil =>
    have hdue : l.due [] = [] := by
      unfold due
      split <;> rfl
    rw [hdue, List.append_nil]
    rfl
  | cons s steps ih =>
    rw [List.mem_cons, not_or] at h
    have hrest := ih h.2 (l.step s).1
    rw [← conserve_step (Ne.symm h.1), ← hrest, ← List.append_assoc]
    rfl

/-! ## When the server ends its side -/

theorem step_of_dead (h : l.alive = false) (s : Step) :
    (l.step s).2 = [] ∧ (l.step s).1.alive = false := by
  cases s with
  | call r =>
    refine ⟨rfl, ?_⟩
    show (l.send r).1.alive = false
    cases hb : hasLineBreak r.line with
    | true => rw [send_of_break hb, h]
    | false => rw [send_of_dead hb h, h]
  | close => exact ⟨rfl, by simp [step, close, h]⟩
  | work => simp [step, work, h]
  | receive bytes => exact ⟨rfl, by simp [step, receive, h]⟩
  | endOfInput => exact ⟨rfl, by simp [step, endOfInput, h]⟩

/-- A task that has ended writes nothing any more. -/
theorem run_of_dead (h : l.alive = false) (steps : List Step) :
    (l.run steps).2 = [] ∧ (l.run steps).1.alive = false := by
  induction steps generalizing l with
  | nil => exact ⟨rfl, h⟩
  | cons s steps ih =>
    obtain ⟨hstep, hdead⟩ := step_of_dead h s
    obtain ⟨hrest, hlast⟩ := ih hdead
    refine ⟨?_, hlast⟩
    rw [run, hstep, hrest, List.append_nil]

theorem alive_endOfInput (l : Link) : l.endOfInput.1.alive = false := by
  unfold endOfInput
  cases hl : l.alive with
  | true => rfl
  | false => exact hl

/-- Whatever happens, nothing is written that was not accepted, or before its turn. -/
theorem run_isPrefix (steps : List Step) (l : Link) :
    (l.run steps).2 ++ (l.run steps).1.pending <+: l.pending ++ l.due steps := by
  induction steps generalizing l with
  | nil =>
    have hrun := conserve_run List.not_mem_nil l
    exact hrun ▸ List.prefix_rfl
  | cons s steps ih =>
    by_cases hs : s = .endOfInput
    · -- what is pending then is never written
      rw [hs]
      obtain ⟨hwritten, hlast⟩ := run_of_dead l.alive_endOfInput steps
      show [] ++ (l.endOfInput.1.run steps).2 ++ (l.endOfInput.1.run steps).1.pending <+: _
      rw [hwritten, (pending_of_dead hlast).1]
      exact List.nil_prefix
    · rw [← conserve_step hs, run, List.append_assoc]
      exact (List.prefix_append_right_inj _).mpr (ih _)

/-! ## Turns -/

theorem run_work_of_dead (h : l.alive = false) (n : Nat) :
    l.run (List.replicate n .work) = (l, []) := by
  induction n with
  | zero => rfl
  | succ n ih =>
    have hstep : l.step .work = (l, []) := by simp [step, work, h]
    rw [List.replicate_succ, run, hstep, ih]
    rfl

/-- Writing what is queued is no more than the task's having its turns. -/
theorem run_work (queue : List Control) (framer : Framer) :
    run ⟨queue, framer, true⟩ (List.replicate queue.length .work) =
      flush ⟨queue, framer, true⟩ := by
  induction queue with
  | nil => rfl
  | cons order queue ih =>
    rw [List.length_cons, List.replicate_succ, run]
    cases order with
    | send line =>
      have hstep : step ⟨.send line :: queue, framer, true⟩ .work =
          (⟨queue, framer, true⟩, [line]) := rfl
      rw [hstep, ih]
      rfl
    | close =>
      have hstep : step ⟨.close :: queue, framer, true⟩ .work = (⟨[], framer, false⟩, []) := rfl
      rw [hstep, run_work_of_dead rfl]
      rfl

/-- What is accepted is always one line. -/
theorem noBreak_of_mem_accepted {steps : List Step} {line : String} (h : line ∈ l.accepted steps) :
    hasLineBreak line = false := by
  induction steps generalizing l with
  | nil => cases h
  | cons s steps ih =>
    cases s with
    | call r =>
      rcases List.mem_append.mp h with htaken | hlater
      · unfold taken at htaken
        split at htaken
        · rename_i hok
          rw [List.mem_singleton.mp htaken]
          exact ((l.send_ok_iff r).mp hok).2
        · cases htaken
      · exact ih hlater
    | close => cases h
    | work | receive bytes | endOfInput => exact ih h

end Link

/-! ## On the wire -/

/-- The byte before the line feed that ends a line. -/
def carriageReturn : UInt8 := 13

/-- The lines that are ended by a carriage return and a line feed, and what is left over. -/
def endedLines : Bytes → List Bytes × Bytes
  | [] => ([], [])
  | [b] => ([], [b])
  | b :: c :: rest =>
    if b = carriageReturn ∧ c = lineFeed then ([] :: (endedLines rest).1, (endedLines rest).2)
    else match endedLines (c :: rest) with
      | ([], left) => ([], b :: left)
      | (line :: lines, left) => ((b :: line) :: lines, left)

theorem endedLines_append (rest : Bytes) {line : Bytes} (h : carriageReturn ∉ line) :
    endedLines (line ++ carriageReturn :: lineFeed :: rest) =
      (line :: (endedLines rest).1, (endedLines rest).2) := by
  induction line with
  | nil => rw [List.nil_append, endedLines, if_pos ⟨rfl, rfl⟩]
  | cons b line ih =>
    rw [List.mem_cons, not_or] at h
    have hline := ih h.2
    obtain ⟨c, tail, htail⟩ : ∃ c tail, line ++ carriageReturn :: lineFeed :: rest = c :: tail :=
      List.exists_cons_of_ne_nil (by simp)
    rw [htail] at hline
    rw [List.cons_append, htail, endedLines, if_neg fun hb => h.1 hb.1.symm, hline]

/-- The bytes of some lines, each with its end. -/
def wireBytes (lines : List String) : Bytes :=
  lines.flatMap fun line => Utf8.encode (wireText line)

theorem encode_wireText (line : String) :
    Utf8.encode (wireText line) = Utf8.encode line ++ [carriageReturn, lineFeed] := by
  rw [wireText, Utf8.encode_append]
  rfl

theorem carriageReturn_notMem_encode {line : String} (h : hasLineBreak line = false) :
    carriageReturn ∉ Utf8.encode line := by
  intro hmem
  obtain ⟨c, hc, hn⟩ := Utf8.exists_mem_of_mem_encode (by decide) hmem
  have hbreak : c = '\r' := Char.toNat_inj.mp hn
  have hclean := hasLineBreak_eq_false_iff.mp h c hc
  rw [hbreak] at hclean
  exact absurd hclean (by decide)

/-- Lines without breaks are told apart on the wire. -/
theorem endedLines_wireBytes {lines : List String}
    (h : ∀ line ∈ lines, hasLineBreak line = false) :
    endedLines (wireBytes lines) = (lines.map Utf8.encode, []) := by
  induction lines with
  | nil => rfl
  | cons line lines ih =>
    rw [List.forall_mem_cons] at h
    rw [wireBytes, List.flatMap_cons, encode_wireText, List.append_assoc]
    show endedLines (Utf8.encode line ++ carriageReturn :: lineFeed :: wireBytes lines) = _
    rw [endedLines_append _ (carriageReturn_notMem_encode h.1), ih h.2]
    rfl

/--
**Every accepted call is one line on the wire.** A call is refused for its line exactly where
that is none, and no other reason is there while the task runs. Whatever calls are made, and
whenever the task has its turns, the lines that it writes are those of the calls that were
accepted, in their order, up to the first order to close; they are the lines that the bytes are
split into at their ends. Unless the server ends its side, each of them is written.
-/
theorem accepted_lines_written (steps : List Link.Step) :
    let l := (Link.new.run steps).1
    let written := (Link.new.run steps).2
    let accepted := Link.new.accepted steps
    (∀ r, (l.send r).2 = .error .invalidLine ↔ hasLineBreak r.line = true) ∧
    (l.alive = true → ∀ r, (l.send r).2 = .ok () ↔ hasLineBreak r.line = false) ∧
    written <+: accepted ∧
    endedLines (wireBytes written) = (written.map Utf8.encode, []) ∧
    (.endOfInput ∉ steps → written ++ l.flush.2 = accepted ∧
      endedLines (wireBytes (written ++ l.flush.2)) = (accepted.map Utf8.encode, [])) := by
  intro l written accepted
  have hclean : ∀ line ∈ accepted, hasLineBreak line = false :=
    fun line => Link.noBreak_of_mem_accepted
  have hdue : Link.new.pending ++ Link.new.due steps = accepted := rfl
  -- what is written of the accepted lines, and what is pending, stand in one row
  have hfront : written <+: accepted := by
    rw [← hdue]
    exact (List.prefix_append _ _).trans (Link.run_isPrefix steps Link.new)
  refine ⟨l.send_invalid_iff, fun hl r => ?_, hfront, ?_, fun hopen => ?_⟩
  · rw [l.send_ok_iff, hl]
    simp
  · exact endedLines_wireBytes fun line hline => hclean line (hfront.subset hline)
  · have hall : written ++ l.flush.2 = accepted := by
      rw [Link.flush_eq, ← hdue]
      exact Link.conserve_run hopen Link.new
    rw [hall]
    exact ⟨rfl, endedLines_wireBytes hclean⟩

/-- One call would be two commands, and one comes too late. -/
theorem accepted_lines_written_hostile :
    let steps : List Link.Step :=
      [.call (.privmsg "#lean" "hi\r\nQUIT"), .call (.join "#lean" none), .work,
        .call (.ctcp "ada" "PING" "1\x01 2"), .close, .call (.nick "late"), .work]
    let l := (Link.new.run steps).1
    let written := (Link.new.run steps).2
    .endOfInput ∉ steps ∧
    written ++ l.flush.2 = ["JOIN #lean", "PRIVMSG ada :\x01PING 1\x01 2\x01"] := by
  intro steps l written
  have hopen : .endOfInput ∉ steps := by simp [steps]
  have haccepted : Link.new.accepted steps =
      ["JOIN #lean", "PRIVMSG ada :\x01PING 1\x01 2\x01"] := by decide
  refine ⟨hopen, ?_⟩
  rw [← haccepted]
  exact ((accepted_lines_written steps).2.2.2.2 hopen).1

end IrcClient
