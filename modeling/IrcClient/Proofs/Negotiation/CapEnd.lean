import IrcClient.Identity
import IrcClient.Proofs.Negotiation.Reaction
import IrcClient.Proofs.Negotiation.Response

/-!
# The end of a negotiation

A step is taken out of the negotiation to be run at leisure, and lines may be handled in the
meantime. So it may come back, or be given up, long after the negotiation has ended in some
other way, and whoever holds a step knows nothing of that. All calls are therefore looked at
in every order (`Call`), and a step that is handed back may be any.

Four things tell of the end: the state, the result, the line that was sent and the mark that
it was sent. They always agree (`EndsOnce`), because a call either leaves all of them alone
or ends the negotiation for good (`Effect`).
-/

namespace IrcClient.Negotiator

variable {m : Type}

/-! ## The end -/

/-- All that tells of the end tells the same. -/
structure EndsOnce (n : Negotiator m) (lines : List String) : Prop where
  state : n.state = .capEnded ↔ n.capEndSent = true
  result : n.result.isSome = n.capEndSent
  count : lines.count "CAP END" = if n.capEndSent then 1 else 0

/-- A negotiation goes on as it was, or it ends and has told the server by then. -/
inductive Effect (n n' : Negotiator m) (lines : List String) : Prop where
  | goesOn (state : n'.state = .capEnded ↔ n.state = .capEnded) (result : n'.result = n.result)
      (told : n'.capEndSent = n.capEndSent) (silent : lines.count "CAP END" = 0)
  | ends (state : n'.state = .capEnded) (result : n'.result.isSome = true)
      (told : n'.capEndSent = true)
      (once : lines.count "CAP END" = if n.capEndSent then 0 else 1)

/-- Ending tells the server where it has not been told, whatever was said before. -/
theorem effect_finish (n : Negotiator m) (r : CapState) (o : Outcome)
    (h : o.lines.count "CAP END" = 0) :
    Effect n (n.finish r).1 (o ++ (n.finish r).2).lines := by
  refine .ends rfl rfl rfl ?_
  rw [Outcome.lines_append, List.count_append, h, lines_finish]
  split <;> rfl

theorem EndsOnce.step {n n' : Negotiator m} {lines more : List String} (h : EndsOnce n lines)
    (e : Effect n n' more) : EndsOnce n' (lines ++ more) := by
  cases e with
  | goesOn state result told silent =>
    refine ⟨?_, ?_, ?_⟩
    · rw [state, told]
      exact h.state
    · rw [result, told]
      exact h.result
    · rw [List.count_append, h.count, silent, told]
      rfl
  | ends state result told once =>
    refine ⟨iff_of_true state told, by rw [result, told], ?_⟩
    rw [List.count_append, h.count, once, told]
    cases n.capEndSent <;> rfl

theorem endsOnce_start (fresh : m) :
    EndsOnce (new (some fresh)).start.1 (new (some fresh)).start.2.lines :=
  ⟨iff_of_false (by simp [start, new]) (by simp [start, new]), rfl, rfl⟩

/-! ## Calls -/

variable [SaslMechanism m]

/-- What can be asked of a negotiation that has begun. -/
inductive Call (m : Type) where
  | handle (net : Network) (msg : Message)
  | take
  | runStep (net : Network)
  | complete (net : Network) (step : CompletedStep m)
  | abandon (net : Network) (reason : String)

/-- What a call makes of a negotiation, and what it asks for. -/
def perform (n : Negotiator m) : Call m → Negotiator m × Outcome
  | .handle net msg => ((n.handle net msg).negotiator, (n.handle net msg).outcome)
  | .take => (n.take.1, .empty)
  | .runStep net => n.runStep net
  | .complete net step => n.complete net step
  | .abandon net reason => n.abandon net reason

/-- Calls one after another, with all the lines that they send. -/
def performAll : Negotiator m → List (Call m) → Negotiator m × List String
  | n, [] => (n, [])
  | n, call :: calls =>
    let (n, o) := n.perform call
    let (n, lines) := performAll n calls
    (n, o.lines ++ lines)

theorem effect_reaction {n n' : Negotiator m} {o : Outcome} (h : Reaction n n' o) :
    Effect n n' o.lines := by
  cases h with
  | noted => exact .goesOn Iff.rfl rfl rfl rfl
  | asked => exact .goesOn Iff.rfl rfl rfl (by decide)
  | began e hs =>
    refine .goesOn ?_ rfl rfl ?_
    · exact iff_of_false (by simp) (by simp [hs])
    · exact List.count_eq_zero.mpr fun hm =>
        authenticate_ne_capEnd _ (List.mem_singleton.mp hm).symm
  | refused r =>
    -- ending at once is ending after nothing was said
    rw [← Outcome.empty_append (n.finish r).2]
    exact effect_finish n r .empty rfl
  | judged v e => exact effect_finish n v.result (.emit e) rfl
  | gaveUp e => exact effect_finish n .authFailed (.send "AUTHENTICATE *" ++ .emit e) rfl

/-- An answer neither asks what is pending nor which mechanism there was. -/
theorem effect_answer (n : Negotiator m) (pending : Option Bytes) (mechanism : Option m)
    (net : Network) (response : Except SaslError Bytes) :
    Effect n ({ n with pending, mechanism }.answer net response).1
      ({ n with pending, mechanism }.answer net response).2.lines := by
  cases response with
  | ok payload =>
    exact .goesOn Iff.rfl rfl rfl
      (List.count_eq_zero.mpr (capEnd_notMem_authenticateLines payload))
  | error error =>
    obtain ⟨e, -, he⟩ := answer_error { n with pending, mechanism } net error
    rw [he]
    exact effect_finish n .authFailed (.send "AUTHENTICATE *" ++ .emit e) rfl

theorem effect_perform (n : Negotiator m) (call : Call m) :
    Effect n (n.perform call).1 (n.perform call).2.lines := by
  cases call with
  | handle net msg => exact effect_reaction (reaction_handle n net msg)
  | take =>
    unfold perform take
    cases n.pending with
    | none => exact .goesOn Iff.rfl rfl rfl rfl
    | some challenge => exact .goesOn Iff.rfl rfl rfl rfl
  | runStep net =>
    show Effect n (n.runStep net).1 (n.runStep net).2.lines
    rcases runStep_cases n net with ⟨_, he⟩ | ⟨_, _, he⟩ | ⟨_, _, _, _, he⟩
    · rw [he]
      exact .goesOn Iff.rfl rfl rfl rfl
    · rw [he]
      exact .goesOn Iff.rfl rfl rfl rfl
    · rw [he]
      exact effect_answer n _ _ net _
  | complete net step => exact effect_answer n n.pending (some step.mechanism) net step.response
  | abandon net reason =>
    exact effect_answer n n.pending n.mechanism net (.error (.internal reason))

/-! ## All calls -/

theorem endsOnce_performAll : ∀ (calls : List (Call m)) {n : Negotiator m} {lines : List String},
    EndsOnce n lines → EndsOnce (n.performAll calls).1 (lines ++ (n.performAll calls).2)
  | [], _, lines, h => by rwa [performAll, List.append_nil]
  | call :: calls, n, lines, h => by
    have h' := endsOnce_performAll calls (h.step (effect_perform n call))
    rw [List.append_assoc] at h'
    exact h'

theorem ended_performAll : ∀ (calls : List (Call m)) {n : Negotiator m},
    n.state = .capEnded → (n.performAll calls).1.state = .capEnded
  | [], _, h => h
  | call :: calls, n, h => by
    have h' : (n.perform call).1.state = .capEnded := by
      cases effect_perform n call with
      | goesOn state => exact state.mpr h
      | ends state => exact state
    exact ended_performAll calls h'

/--
**A negotiation ends once.** Whatever is asked of it, and in whatever order, it has told the
server of its end at most once; it has done so exactly where it has ended, and exactly where
there is a result; and it does not begin anew.
-/
theorem cap_end_once (identity : Identity) (nonce : String)
    (enabled : identity.sasl.enabled = true) (calls : List (Call Mechanism)) :
    let start := (Negotiator.new (identity.mechanism? nonce)).start
    let last := start.1.performAll calls
    let sent := (start.2.lines ++ last.2).count "CAP END"
    (sent = 0 ∨ sent = 1) ∧
    (sent = 1 ↔ last.1.state = .capEnded) ∧
    (sent = 1 ↔ last.1.result.isSome = true) ∧
    ∀ more, last.1.state = .capEnded → (last.1.performAll more).1.state = .capEnded := by
  intro start last sent
  obtain ⟨fresh, hm⟩ : ∃ fresh, identity.mechanism? nonce = some fresh :=
    ⟨_, by rw [Identity.mechanism?, if_pos enabled]⟩
  have hstart : start = (Negotiator.new (some fresh)).start := by rw [← hm]
  have h : EndsOnce last.1 (start.2.lines ++ last.2) := by
    refine endsOnce_performAll calls ?_
    rw [hstart]
    exact endsOnce_start fresh
  -- the flag counts what was said of the end, and state and result go with it
  have hsent : sent = if last.1.capEndSent then 1 else 0 := h.count
  refine ⟨?_, ?_, ?_, fun more => ended_performAll more⟩
  · rw [hsent]
    cases last.1.capEndSent
    · exact .inl rfl
    · exact .inr rfl
  · rw [hsent, h.state]
    cases last.1.capEndSent <;> decide
  · rw [hsent, h.result]
    cases last.1.capEndSent <;> decide

/-- A step that is given up after the server's rejection does not end the negotiation again. -/
theorem cap_end_once_rejected_then_given_up :
    let identity : Identity := {
      id := 1, name := "net", endpoints := [], nickname := "me", username := "me"
      realname := "me", sasl := { enabled := true } }
    let net : Network := .new 1 "net" "me"
    let start := (Negotiator.new (identity.mechanism? "")).start
    let last := start.1.performAll [
      .handle net ⟨[], none, "CAP", ["*", "ACK", "sasl"]⟩,
      .handle net ⟨[], none, "AUTHENTICATE", ["+"]⟩, .take,
      .handle net ⟨[], none, "904", ["me"]⟩, .abandon net "no answer"]
    identity.sasl.enabled = true ∧ (start.2.lines ++ last.2).count "CAP END" = 1 :=
  ⟨rfl, (cap_end_once _ "" rfl _).2.1.mpr (by decide)⟩

end IrcClient.Negotiator
