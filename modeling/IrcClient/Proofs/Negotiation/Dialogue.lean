import IrcClient.Identity
import IrcClient.Proofs.Negotiation.Reaction
import IrcClient.Proofs.Negotiation.Response

/-!
# What a negotiation says

A negotiation hears line after line, and runs the step that a line may leave before it hears
the next. The server is free to send what it likes; what the client says is fixed all the
same, up to how often it asks and what its mechanism answers (`Transcript`).

The negotiation is always at one of four points (`Point`), and takes one turn for each line
(`turn_hear`). What it has said on the way to a point is then a matter of putting turns
together, in which neither messages nor mechanisms occur any more (`told_turn`).
-/

namespace IrcClient.Negotiator

variable {m : Type} [SaslMechanism m]

/-! ## The conversation -/

/--
A line that is heard, with what is known of the network when it comes in and when the step
that it leaves is run.
-/
structure Heard where
  msg : Message
  before : Network
  after : Network

/-- Hears a line: handles it, and runs the step that it may have left. -/
def hear (n : Negotiator m) (h : Heard) : Negotiator m × Outcome :=
  let step := n.handle h.before h.msg
  let (n, o) := step.negotiator.runStep h.after
  (n, step.outcome ++ o)

/-- Hears lines one after another, and keeps what is to be done about each. -/
def dialogue : Negotiator m → List Heard → Negotiator m × List Outcome
  | n, [] => (n, [])
  | n, h :: rest =>
    let (n, o) := n.hear h
    let (n, os) := dialogue n rest
    (n, o :: os)

/-! ## Points and turns -/

/-- Where a negotiation can be between two lines. -/
inductive Point where
  /-- There is nothing to negotiate. -/
  | idle
  /-- It waits to learn whether it may authenticate. -/
  | requested
  /-- It authenticates. -/
  | inProgress
  /-- It is over. -/
  | ended (result : CapState)

/-- The state at a point. -/
def Point.state : Point → CapState
  | idle => .idle
  | requested => .capRequested
  | inProgress => .authInProgress
  | ended _ => .capEnded

/-- The result at a point. -/
def Point.result : Point → Option CapState
  | ended r => some r
  | _ => none

/-- A negotiation for a mechanism of a given name is at a point. -/
structure At (n : Negotiator m) (name : String) (p : Point) : Prop where
  name : n.freshName = name
  state : n.state = p.state
  result : n.result = p.result
  /-- It has told the server of its end if there is a result. -/
  told : n.capEndSent = p.result.isSome
  /-- A challenge can only be pending where there is somebody to answer it. -/
  pending : n.pending = none ∨ p = .inProgress

/-- A turn from point to point, and what is to be done in it. -/
inductive Turn (name : String) : Point → Outcome → Point → Prop where
  | silent (p : Point) : Turn name p .empty p
  | asked : Turn name .requested (.send "CAP REQ :sasl") .requested
  | began (e : Event) (he : e.type = "sasl.started") :
      Turn name .requested (.send ("AUTHENTICATE " ++ name) ++ .emit e) .inProgress
  | responded (payload : Bytes) :
      Turn name .inProgress { lines := authenticateLines payload } .inProgress
  | refused (p : Point) (r : CapState) (hp : p = .requested ∨ p = .inProgress)
      (hr : r = .capNaked ∨ r = .capNotSupported) :
      Turn name p (.send "CAP END") (.ended r)
  | judged (v : Verdict) (e : Event) (he : e.type = v.event) :
      Turn name .inProgress (.emit e ++ .send "CAP END") (.ended v.result)
  | gaveUp (e : Event) (he : e.type = "sasl.failed") :
      Turn name .inProgress (.send "AUTHENTICATE *" ++ .emit e ++ .send "CAP END")
        (.ended .authFailed)

variable {n n' : Negotiator m} {name : String} {p : Point} {o : Outcome}

theorem At.requested (h : n.At name p) (hs : n.state = .capRequested) : p = .requested := by
  rw [h.state] at hs
  cases p with
  | requested => rfl
  | idle | inProgress | ended => exact absurd hs (by simp [Point.state])

theorem At.inProgress (h : n.At name p) (hs : n.state = .authInProgress) : p = .inProgress := by
  rw [h.state] at hs
  cases p with
  | inProgress => rfl
  | idle | requested | ended => exact absurd hs (by simp [Point.state])

theorem At.active (h : n.At name p) (ha : n.isActive = true) :
    p = .requested ∨ p = .inProgress := by
  rw [isActive, h.state] at ha
  cases p with
  | requested => exact .inl rfl
  | inProgress => exact .inr rfl
  | idle | ended => exact absurd ha (by simp [Point.state])

/-- Where nothing has ended yet, the end is told. -/
theorem At.finish_eq (h : n.At name p) (hp : p = .requested ∨ p = .inProgress) (r : CapState) :
    (n.finish r).2 = .send "CAP END" := by
  have ht : n.capEndSent = false := by
    rw [h.told]
    rcases hp with rfl | rfl <;> rfl
  unfold finish
  rw [ht]
  rfl

theorem At.finish (h : n.At name p) (r : CapState) : (n.finish r).1.At name (.ended r) where
  name := h.name
  state := rfl
  result := rfl
  told := rfl
  pending := .inl rfl

/-- A reaction is a turn, and leaves a step only if it is silent. -/
theorem turn_reaction (h : n.At name p) (hr : Reaction n n' o) :
    ∃ p', Turn name p o p' ∧ n'.At name p' ∧ (n'.pending = none ∨ o = .empty ∧ p' = p) := by
  cases hr with
  | noted offers challenge pending hp =>
    refine ⟨p, .silent p, ⟨h.name, h.state, h.result, h.told, ?_⟩, .inr ⟨rfl, rfl⟩⟩
    rcases hp with rfl | hs
    · exact h.pending
    · exact .inr (h.inProgress hs)
  | asked offers hs =>
    -- nothing waits to be done before the authentication is under way
    obtain rfl := h.requested hs
    have hp : n.pending = none := h.pending.resolve_right (by simp)
    exact ⟨.requested, .asked, ⟨h.name, h.state, h.result, h.told, h.pending⟩, .inl hp⟩
  | began e hs he =>
    obtain rfl := h.requested hs
    have hp : n.pending = none := h.pending.resolve_right (by simp)
    refine ⟨.inProgress, ?_, ⟨h.name, rfl, h.result, h.told, .inr rfl⟩, .inl hp⟩
    rw [h.name]
    exact .began e he.type_eq
  | refused r ha hr =>
    refine ⟨.ended r, ?_, h.finish r, .inl rfl⟩
    rw [h.finish_eq (h.active ha)]
    exact .refused p r (h.active ha) hr
  | judged v e hs he =>
    obtain rfl := h.inProgress hs
    refine ⟨.ended v.result, ?_, h.finish v.result, .inl rfl⟩
    rw [h.finish_eq (.inr rfl)]
    exact .judged v e he.type_eq
  | gaveUp e hs he =>
    obtain rfl := h.inProgress hs
    refine ⟨.ended .authFailed, ?_, h.finish .authFailed, .inl rfl⟩
    rw [h.finish_eq (.inr rfl)]
    exact .gaveUp e he.type_eq

/-- So is what comes of a step. -/
theorem turn_runStep (h : n.At name p) (net : Network) :
    ∃ p', Turn name p (n.runStep net).2 p' ∧ (n.runStep net).1.At name p' := by
  rcases runStep_cases n net with ⟨hp, he⟩ | ⟨challenge, hp, he⟩ | ⟨challenge, mech, hp, _, he⟩
  · rw [he]
    exact ⟨p, .silent p, h⟩
  · rw [he]
    exact ⟨p, .silent p, ⟨h.name, h.state, h.result, h.told, .inl rfl⟩⟩
  · obtain rfl : p = .inProgress := h.pending.resolve_left (by simp [hp])
    have h' : ({ n with pending := none, mechanism := some (SaslMechanism.step mech challenge).1 } :
        Negotiator m).At name .inProgress := ⟨h.name, h.state, h.result, h.told, .inl rfl⟩
    rw [he]
    cases (SaslMechanism.step mech challenge).2 with
    | ok payload => exact ⟨.inProgress, .responded payload, h'⟩
    | error error =>
      obtain ⟨e, het, hea⟩ := answer_error
        { n with pending := none, mechanism := some (SaslMechanism.step mech challenge).1 }
        net error
      rw [hea, h'.finish_eq (.inr rfl)]
      exact ⟨.ended .authFailed, .gaveUp e het.type_eq, h'.finish .authFailed⟩

/-- **A line is one turn.** -/
theorem turn_hear (h : n.At name p) (l : Heard) :
    ∃ p', Turn name p (n.hear l).2 p' ∧ (n.hear l).1.At name p' := by
  obtain ⟨p', ht, h', hq⟩ := turn_reaction h (reaction_handle n l.before l.msg)
  have hs : n.hear l = (((n.handle l.before l.msg).negotiator.runStep l.after).1,
      (n.handle l.before l.msg).outcome ++
        ((n.handle l.before l.msg).negotiator.runStep l.after).2) := rfl
  rw [hs]
  -- either nothing is left to run, or nothing was said before it is run
  rcases hq with hq | ⟨ho, rfl⟩
  · rw [runStep_of_pending_none hq, Outcome.append_empty]
    exact ⟨p', ht, h'⟩
  · rw [ho, Outcome.empty_append]
    exact turn_runStep h' l.after

/-! ## What has been said -/

/-- A line that is part of a response, and does not give the authentication up. -/
def IsResponse (line : String) : Prop :=
  (∃ payload, line ∈ authenticateLines payload) ∧ line ≠ "AUTHENTICATE *"

/-- The first lines of every negotiation. -/
def opening (requests : Nat) : List String :=
  "CAP LS 302" :: List.replicate requests "CAP REQ :sasl"

/--
What a client may have said in a negotiation for a mechanism of a given name: its lines, and
the types of its events.
-/
inductive Transcript (name : String) : List String → List String → Prop where
  /-- It did not come to authenticate. -/
  | without (requests : Nat) (ending : List String) (h : ending = [] ∨ ending = ["CAP END"]) :
      Transcript name (opening requests ++ ending) []
  /-- It did. If it gave up, that was the last thing before the end. -/
  | authenticated (requests : Nat) (responses : List String)
      (hr : ∀ line ∈ responses, IsResponse line) (ending : List String) (verdict : Option Verdict)
      (h : ending = [] ∧ verdict = none ∨ ending = ["CAP END"] ∨
        ending = ["AUTHENTICATE *", "CAP END"] ∧ verdict = some .failed) :
      Transcript name (opening requests ++ ("AUTHENTICATE " ++ name) :: responses ++ ending)
        ("sasl.started" :: (verdict.map Verdict.event).toList)

/-- What has been said on the way to a point, by a client that means to authenticate. -/
inductive Told (name : String) : Point → List String → List String → Prop where
  | requested (k : Nat) : Told name .requested (opening k) []
  | inProgress (k : Nat) (responses : List String) (hr : ∀ line ∈ responses, IsResponse line) :
      Told name .inProgress (opening k ++ ("AUTHENTICATE " ++ name) :: responses)
        ["sasl.started"]
  | refused (k : Nat) (r : CapState) (h : r = .capNaked ∨ r = .capNotSupported) :
      Told name (.ended r) (opening k ++ ["CAP END"]) []
  | cutShort (k : Nat) (responses : List String) (hr : ∀ line ∈ responses, IsResponse line)
      (r : CapState) (h : r = .capNaked ∨ r = .capNotSupported) :
      Told name (.ended r)
        (opening k ++ ("AUTHENTICATE " ++ name) :: responses ++ ["CAP END"]) ["sasl.started"]
  | judged (k : Nat) (responses : List String) (hr : ∀ line ∈ responses, IsResponse line)
      (v : Verdict) : Told name (.ended v.result)
        (opening k ++ ("AUTHENTICATE " ++ name) :: responses ++ ["CAP END"])
        ["sasl.started", v.event]
  | gaveUp (k : Nat) (responses : List String) (hr : ∀ line ∈ responses, IsResponse line) :
      Told name (.ended .authFailed)
        (opening k ++ ("AUTHENTICATE " ++ name) :: responses ++ ["AUTHENTICATE *", "CAP END"])
        ["sasl.started", Verdict.failed.event]

/-- The types of the events of an outcome. -/
def eventTypes (o : Outcome) : List String :=
  o.events.map (·.type)

theorem opening_succ (k : Nat) : opening k ++ ["CAP REQ :sasl"] = opening (k + 1) := by
  rw [opening, opening, List.replicate_succ', List.cons_append]

theorem isResponse_of_mem {payload : Bytes} {line : String}
    (h : line ∈ authenticateLines payload) : IsResponse line := by
  refine ⟨⟨payload, h⟩, ?_⟩
  rintro rfl
  exact abort_notMem_authenticateLines payload h

/-- **What a turn adds is what may be said at its point.** -/
theorem told_turn {p' : Point} {lines types : List String} (h : Told name p lines types)
    (t : Turn name p o p') : Told name p' (lines ++ o.lines) (types ++ eventTypes o) := by
  cases t with
  | silent =>
    rw [Outcome.lines_empty, List.append_nil, eventTypes, Outcome.events_empty, List.map_nil,
      List.append_nil]
    exact h
  | asked =>
    cases h with
    | requested k =>
      rw [Outcome.lines_send, opening_succ]
      exact .requested (k + 1)
  | began e he =>
    cases h with
    | requested k =>
      have ht : eventTypes (.send ("AUTHENTICATE " ++ name) ++ .emit e) = ["sasl.started"] := by
        rw [← he]
        rfl
      rw [ht]
      exact .inProgress k [] (by simp)
  | responded payload =>
    cases h with
    | inProgress k responses hr =>
      show Told name _ (_ ++ authenticateLines payload) (_ ++ [])
      rw [List.append_nil, List.append_assoc, List.cons_append]
      -- the answer is written behind the responses so far
      refine .inProgress k _ fun line hl => ?_
      rcases List.mem_append.mp hl with hl | hl
      · exact hr line hl
      · exact isResponse_of_mem hl
  | refused _ r hp hr =>
    cases h with
    | requested k => exact .refused k r hr
    | inProgress k responses hresp => exact .cutShort k responses hresp r hr
    -- a negotiation that has ended is not refused once more
    | refused | cutShort | judged | gaveUp => exact absurd hp (by simp)
  | judged v e he =>
    cases h with
    | inProgress k responses hr =>
      have ht : eventTypes (.emit e ++ .send "CAP END") = [v.event] := by
        rw [← he]
        rfl
      rw [ht]
      exact .judged k responses hr v
  | gaveUp e he =>
    cases h with
    | inProgress k responses hr =>
      have ht : eventTypes (.send "AUTHENTICATE *" ++ .emit e ++ .send "CAP END") =
          [Verdict.failed.event] := by
        rw [Verdict.event, ← he]
        rfl
      rw [ht]
      exact .gaveUp k responses hr

/-- What has been said is a transcript. -/
theorem Told.transcript {lines types : List String} (h : Told name p lines types) :
    Transcript name lines types := by
  cases h with
  | requested k =>
    rw [← List.append_nil (opening k)]
    exact .without k [] (.inl rfl)
  | inProgress k responses hr =>
    rw [← List.append_nil (opening k ++ _)]
    exact .authenticated k responses hr [] none (.inl ⟨rfl, rfl⟩)
  | refused k => exact .without k _ (.inr rfl)
  | cutShort k responses hr => exact .authenticated k responses hr _ none (.inr (.inl rfl))
  | judged k responses hr v => exact .authenticated k responses hr _ (some v) (.inr (.inl rfl))
  | gaveUp k responses hr =>
    exact .authenticated k responses hr _ (some .failed) (.inr (.inr ⟨rfl, rfl⟩))

theorem Verdict.event_ne_started (v : Verdict) : v.event ≠ "sasl.started" := by
  cases v <;> decide

theorem Verdict.event_inj {v w : Verdict} : v.event = w.event ↔ v.result = w.result := by
  cases v <;> cases w <;> decide

theorem Verdict.result_ne {v : Verdict} {r : CapState}
    (h : r = .capNaked ∨ r = .capNotSupported) : r ≠ v.result := by
  rcases h with rfl | rfl <;> cases v <;> decide

theorem Verdict.mem_iff (v w : Verdict) :
    v.event ∈ ["sasl.started", w.event] ↔ some w.result = some v.result := by
  rw [List.mem_cons, List.mem_singleton, or_iff_right v.event_ne_started, v.event_inj,
    Option.some.injEq, eq_comm]

/-- A verdict has been told of exactly where it is the result. -/
theorem Told.verdict_iff {lines types : List String} (h : Told name p lines types) (v : Verdict) :
    v.event ∈ types ↔ p.result = some v.result := by
  cases h with
  | requested | inProgress => simp [Point.result, v.event_ne_started]
  | refused k r hr | cutShort k responses _ r hr =>
    simp [Point.result, v.event_ne_started, Verdict.result_ne hr]
  | judged k responses _ w => exact v.mem_iff w
  | gaveUp => exact v.mem_iff .failed

/-- Events come with the lines that they tell of. -/
theorem Turn.together {p' : Point} (t : Turn name p o p') {e : Event} (he : e ∈ o.events) :
    (e.type = "sasl.started" → o.lines = ["AUTHENTICATE " ++ name]) ∧
      ∀ v : Verdict, e.type = v.event → o.lines.getLast? = some "CAP END" := by
  cases t with
  | silent | asked | responded | refused => exact absurd he (by simp)
  | began e' he' =>
    obtain rfl := List.mem_singleton.mp he
    refine ⟨fun _ => rfl, fun v hv => ?_⟩
    exact absurd (hv.symm.trans he') v.event_ne_started
  | judged v e' he' =>
    obtain rfl := List.mem_singleton.mp he
    exact ⟨fun hs => absurd (he'.symm.trans hs) v.event_ne_started, fun _ _ => rfl⟩
  | gaveUp e' he' =>
    obtain rfl := List.mem_singleton.mp he
    exact ⟨fun hs => absurd (he'.symm.trans hs) (by decide), fun _ _ => rfl⟩

/-! ## Whole conversations -/

/-- All lines of some outcomes. -/
def allLines (os : List Outcome) : List String :=
  os.flatMap (·.lines)

/-- The types of all their events. -/
def allTypes (os : List Outcome) : List String :=
  os.flatMap eventTypes

theorem told_dialogue : ∀ (heard : List Heard) {n : Negotiator m} {p : Point}
    {lines types : List String}, n.At name p → Told name p lines types →
    ∃ p', (n.dialogue heard).1.At name p' ∧
      Told name p' (lines ++ allLines (n.dialogue heard).2) (types ++ allTypes (n.dialogue heard).2)
  | [], _, p, _, _, h, ht => ⟨p, h, by simpa [dialogue, allLines, allTypes] using ht⟩
  | l :: heard, n, p, lines, types, h, ht => by
    obtain ⟨p', t, h'⟩ := turn_hear h l
    obtain ⟨p'', h'', ht''⟩ := told_dialogue heard h' (told_turn ht t)
    refine ⟨p'', h'', ?_⟩
    show Told name p'' (lines ++ ((n.hear l).2.lines ++ allLines _))
      (types ++ (eventTypes (n.hear l).2 ++ allTypes _))
    rw [← List.append_assoc, ← List.append_assoc]
    exact ht''

theorem turn_of_mem_dialogue : ∀ (heard : List Heard) {n : Negotiator m} {p : Point},
    n.At name p → ∀ o ∈ (n.dialogue heard).2, ∃ q q', Turn name q o q'
  | [], _, _, _, o, ho => absurd ho (by simp [dialogue])
  | l :: heard, n, p, h, o, ho => by
    obtain ⟨p', t, h'⟩ := turn_hear h l
    rcases List.mem_cons.mp ho with rfl | ho
    · exact ⟨p, p', t⟩
    · exact turn_of_mem_dialogue heard h' o ho

theorem Turn.of_idle {p' : Point} (t : Turn name .idle o p') : o = .empty ∧ p' = .idle := by
  cases t with
  | silent => exact ⟨rfl, rfl⟩
  | refused _ _ hp => exact absurd hp (by simp)

/-- A negotiation that has nothing to negotiate stays as it is, and says nothing. -/
theorem dialogue_idle : ∀ (heard : List Heard) {n : Negotiator m}, n.At name .idle →
    (n.dialogue heard).1.At name .idle ∧ allLines (n.dialogue heard).2 = []
  | [], _, h => ⟨h, rfl⟩
  | l :: heard, n, h => by
    obtain ⟨p', t, h'⟩ := turn_hear h l
    obtain ⟨ho, rfl⟩ := t.of_idle
    obtain ⟨h'', hl⟩ := dialogue_idle heard h'
    refine ⟨h'', ?_⟩
    show (n.hear l).2.lines ++ allLines ((n.hear l).1.dialogue heard).2 = []
    rw [ho, hl]
    rfl

/-- A negotiation for a mechanism begins with a request. -/
theorem at_start (fresh : m) :
    (new (some fresh)).start.1.At (SaslMechanism.name fresh) .requested :=
  ⟨rfl, rfl, rfl, rfl, .inl rfl⟩

theorem at_start_none : (new (none : Option m)).start.1.At "" .idle :=
  ⟨rfl, rfl, rfl, rfl, .inl rfl⟩

/--
**What a negotiation says.** Whatever the server sends, a client that does not authenticate
says nothing. One that does says what a transcript allows. It tells of the beginning together
with the line that begins, and of a verdict together with the end; and it tells of a verdict
exactly where that is the result.
-/
theorem negotiation_transcript (identity : Identity) (nonce : String) (heard : List Heard) :
    let start := (Negotiator.new (identity.mechanism? nonce)).start
    let last := start.1.dialogue heard
    let outcomes := start.2 :: last.2
    let name := identity.sasl.mechanism.text
    (identity.sasl.enabled = false → allLines outcomes = [] ∧ last.1.state = .idle) ∧
    (identity.sasl.enabled = true →
      Transcript name (allLines outcomes) (allTypes outcomes) ∧
      (∀ v : Verdict, v.event ∈ allTypes outcomes ↔ last.1.result = some v.result) ∧
      ∀ o ∈ outcomes, ∀ e ∈ o.events,
        (e.type = "sasl.started" → o.lines = ["AUTHENTICATE " ++ name]) ∧
        ∀ v : Verdict, e.type = v.event → o.lines.getLast? = some "CAP END") := by
  intro start last outcomes name
  constructor
  · intro hs
    -- without authentication the negotiation stays idle
    have hm : identity.mechanism? nonce = none := by
      rw [Identity.mechanism?, hs]
      rfl
    have hstart : start = (Negotiator.new none).start := by rw [← hm]
    have h : start.1.At "" .idle := by
      rw [hstart]
      exact at_start_none
    obtain ⟨h', hl⟩ := dialogue_idle heard h
    refine ⟨?_, h'.state⟩
    show start.2.lines ++ allLines last.2 = []
    rw [hl, hstart]
    rfl
  · intro hs
    -- with it the run is told from the request on
    obtain ⟨fresh, hm, hname⟩ : ∃ fresh, identity.mechanism? nonce = some fresh ∧
        SaslMechanism.name fresh = name := by
      refine ⟨_, by rw [Identity.mechanism?, if_pos hs], ?_⟩
      exact Mechanism.name_new ..
    have hstart : start = (Negotiator.new (some fresh)).start := by rw [← hm]
    have h : start.1.At name .requested := by
      rw [hstart, ← hname]
      exact at_start fresh
    have ht : Told name .requested start.2.lines (eventTypes start.2) := by
      rw [hstart]
      exact .requested 0
    obtain ⟨p, hp, htold⟩ := told_dialogue heard h ht
    refine ⟨htold.transcript, fun v => ?_, fun o ho e he => ?_⟩
    · rw [hp.result]
      exact htold.verdict_iff v
    · rcases List.mem_cons.mp ho with rfl | ho
      · -- the outcome of the start tells of nothing yet
        rw [hstart] at he
        exact absurd he (by simp [Negotiator.start, Negotiator.new])
      · obtain ⟨q, q', t⟩ := turn_of_mem_dialogue heard h o ho
        exact t.together he

end IrcClient.Negotiator
