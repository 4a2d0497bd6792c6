import IrcClient.Proofs.Identity
import IrcClient.Proofs.Negotiation.Transport

/-!
# Where the mechanism is

A step takes the mechanism along with the challenge, and the negotiation has none until the step
comes back. It may not come back: whoever runs it can fail, and then it is given up (`Fate`). So
what the negotiation says of its mechanism depends on where the mechanism is at the time.

Between two lines it is in its place (`Holds`). So a challenge that is complete always finds the
mechanism that is to answer it, and what is told of the authentication names it. What is told of
a step that was given up does not, for the mechanism is gone with the step
(`events_name_mechanism`).
-/

namespace IrcClient

/-- No challenge makes another mechanism of SCRAM. -/
theorem Scram.digest_step (s : Scram) (challenge : Bytes) :
    (s.step challenge).1.digest = s.digest := by
  unfold step
  dsimp only
  split
  · rfl
  · split <;> rfl
  · rfl
  · rfl

/-- A mechanism keeps its name, whatever it is asked. -/
theorem Mechanism.name_step (mech : Mechanism) (challenge : Bytes) :
    (mech.step challenge).1.name = mech.name := by
  cases mech with
  | plain | external => rfl
  | scram s => exact congrArg Digest.mechanism (s.digest_step challenge)

namespace Negotiator

open SaslMechanism

/-! ## Steps that come back, and steps that do not -/

/-- What becomes of a step that is taken out: it is run, or given up for a reason. -/
inductive Fate where
  | run
  | givenUp (reason : String)

section

variable {m : Type} [SaslMechanism m]

/-- Takes out the pending step, if there is one, and hands it back or gives it up. -/
def conclude (n : Negotiator m) (net : Network) : Fate → Negotiator m × Outcome
  | .run => n.runStep net
  | .givenUp reason =>
    match n.take with
    | (n, none) => (n, .empty)
    | (n, some _) => n.abandon net reason

/-- Where there is no step, it does not matter what would become of it. -/
theorem conclude_of_pending_none {n : Negotiator m} (h : n.pending = none) (net : Network)
    (fate : Fate) : n.conclude net fate = (n, .empty) := by
  cases fate with
  | run => exact runStep_of_pending_none h net
  | givenUp reason => rw [conclude, take, h]

/-- Hears a line, given what becomes of the step that it may leave. -/
def hearWith (n : Negotiator m) (l : Heard) (fate : Fate) : Negotiator m × Outcome :=
  let step := n.handle l.before l.msg
  let (n, o) := step.negotiator.conclude l.after fate
  (n, step.outcome ++ o)

/-- Hears lines one after another, each with the fate of its step. -/
def hearAllWith : Negotiator m → List (Heard × Fate) → Negotiator m
  | n, [] => n
  | n, (l, fate) :: heard => hearAllWith (n.hearWith l fate).1 heard

/-- Where no step is given up, this is the dialogue. -/
theorem hearAllWith_run : ∀ (n : Negotiator m) (heard : List Heard),
    n.hearAllWith (heard.map fun l => (l, .run)) = (n.dialogue heard).1
  | _, [] => rfl
  | n, l :: heard => hearAllWith_run (n.hear l).1 heard

end

variable {n n' : Negotiator Mechanism} {name : String} {o : Outcome}

/-! ## Custody -/

/-- The mechanism of a name is where it is needed. -/
structure Holds (n : Negotiator Mechanism) (name : String) : Prop where
  configured : ∃ mech, n.fresh = some mech ∧ mech.name = name
  pending : n.pending = none ∨ n.state = .authInProgress
  mechanism : n.state = .authInProgress → ∃ mech, n.mechanism = some mech ∧ mech.name = name

theorem holds_start (fresh : Mechanism) : (new (some fresh)).start.1.Holds fresh.name where
  configured := ⟨fresh, rfl, rfl⟩
  pending := .inl rfl
  mechanism h := nomatch h

namespace Holds

theorem freshName (h : n.Holds name) : n.freshName = name := by
  obtain ⟨mech, hmech, hname⟩ := h.configured
  rw [Negotiator.freshName, hmech, ← hname]
  rfl

theorem mechanismName (h : n.Holds name) (hs : n.state = .authInProgress) :
    n.mechanismName = name := by
  obtain ⟨mech, hmech, hname⟩ := h.mechanism hs
  rw [Negotiator.mechanismName, hmech, ← hname]
  rfl

theorem finish (h : n.Holds name) (r : CapState) : (n.finish r).1.Holds name where
  configured := h.configured
  pending := .inl rfl
  mechanism hs := nomatch hs

theorem reaction (h : n.Holds name) (hr : Reaction n n' o) : n'.Holds name := by
  cases hr with
  | noted offers challenge pending hp =>
    refine ⟨h.configured, ?_, h.mechanism⟩
    obtain rfl | hs := hp
    · exact h.pending
    · exact .inr hs
  | asked offers hs => exact ⟨h.configured, h.pending, h.mechanism⟩
  | began e hs he => exact ⟨h.configured, .inr rfl, fun _ => h.configured⟩
  | refused r => exact h.finish r
  | judged v => exact h.finish v.result
  | gaveUp => exact h.finish .authFailed

/-- A pending step finds its mechanism. -/
theorem take (h : n.Holds name) {challenge : Bytes} (hp : n.pending = some challenge) :
    ∃ mech, mech.name = name ∧
      n.take = ({ n with pending := none, mechanism := none }, some ⟨mech, challenge⟩) := by
  have hs : n.state = .authInProgress := h.pending.resolve_left (by simp [hp])
  obtain ⟨mech, hmech, hname⟩ := h.mechanism hs
  refine ⟨mech, hname, ?_⟩
  rw [Negotiator.take, hp, hmech]
  rfl

/-- Where no step can be taken out, there is none. -/
theorem take_none_iff (h : n.Holds name) : n.take.2 = none ↔ n.pending = none := by
  cases hp : n.pending with
  | none => exact iff_of_true (by rw [Negotiator.take, hp]) rfl
  | some challenge =>
    obtain ⟨mech, -, htake⟩ := h.take hp
    exact iff_of_false (by simp [htake]) (by simp)

/-- An answer leaves the mechanism that gave it, or ends the negotiation. -/
theorem answer (h : n.Holds name) {mechanism : Option Mechanism} (net : Network)
    {response : Except SaslError Bytes}
    (hm : ∀ payload, response = .ok payload → ∃ mech, mechanism = some mech ∧ mech.name = name) :
    ({ n with pending := none, mechanism }.answer net response).1.Holds name := by
  cases response with
  | ok payload => exact ⟨h.configured, .inl rfl, fun _ => hm payload rfl⟩
  | error e => exact ⟨h.configured, .inl rfl, nofun⟩

/-- However a step ends, the mechanism is in its place again or is not needed any more. -/
theorem conclude (h : n.Holds name) (net : Network) (fate : Fate) :
    (n.conclude net fate).1.Holds name := by
  cases hp : n.pending with
  | none =>
    rw [conclude_of_pending_none hp]
    exact h
  | some challenge =>
    obtain ⟨mech, hname, htake⟩ := h.take hp
    cases fate with
    | run =>
      rw [Negotiator.conclude, runStep, htake]
      refine h.answer net fun _ _ => ⟨_, rfl, ?_⟩
      rw [← hname]
      exact mech.name_step challenge
    | givenUp reason =>
      rw [Negotiator.conclude, htake]
      exact h.answer net fun _ hr => by cases hr

theorem hearWith (h : n.Holds name) (l : Heard) (fate : Fate) :
    (n.hearWith l fate).1.Holds name :=
  (h.reaction (reaction_handle n l.before l.msg)).conclude l.after fate

/-- **Between two lines the mechanism is in its place.** -/
theorem hearAllWith : ∀ (heard : List (Heard × Fate)) {n : Negotiator Mechanism},
    n.Holds name → (n.hearAllWith heard).Holds name
  | [], _, h => h
  | (l, fate) :: heard, _, h => hearAllWith heard (h.hearWith l fate)

end Holds

/-! ## What is told -/

theorem events_finish (n : Negotiator Mechanism) (r : CapState) : (n.finish r).2.events = [] := by
  simp [finish]

/-- What a line has the negotiation tell names the mechanism. -/
theorem named_reaction (h : n.Holds name) (hr : Reaction n n' o) :
    ∀ e ∈ o.events, e.getText? "mechanism" = some name := by
  intro e he
  cases hr with
  | noted | asked => cases he
  | began e' hs he' =>
    rw [List.mem_singleton.mp he, ← h.freshName]
    exact he'.mechanism_eq
  | refused r =>
    rw [events_finish] at he
    cases he
  | judged v e' hs he' =>
    rw [Outcome.events_append, events_finish] at he
    rw [List.mem_singleton.mp he, ← h.mechanismName hs]
    exact he'.mechanism_eq
  | gaveUp e' hs he' =>
    rw [Outcome.events_append, events_finish] at he
    rw [List.mem_singleton.mp he, ← h.mechanismName hs]
    exact he'.mechanism_eq

/-- A line that leaves a step tells nothing itself. -/
theorem quiet_reaction (h : n.Holds name) (hr : Reaction n n' o) {challenge : Bytes}
    (hp : n'.pending = some challenge) : o = .empty := by
  cases hr with
  | noted => rfl
  | asked offers hs | began e hs he =>
    obtain hnone | hstate := h.pending
    · exact nomatch hnone.symm.trans hp
    · exact nomatch hstate.symm.trans hs
  | refused | judged | gaveUp => cases hp

/-- A step that fails is told of by the name of the mechanism that the negotiation has then. -/
theorem events_answer_error (n : Negotiator Mechanism) (net : Network) (error : SaslError) :
    ∃ e : Event, (n.answer net (.error error)).2.events = [e] ∧
      e.Tells "sasl.failed" n.mechanismName := by
  obtain ⟨e, he, hanswer⟩ := answer_error n net error
  refine ⟨e, ?_, he⟩
  rw [hanswer, Outcome.events_append, events_finish]
  rfl

theorem named_runStep (h : n.Holds name) (net : Network) :
    ∀ e ∈ (n.runStep net).2.events, e.getText? "mechanism" = some name := by
  intro e he
  cases hp : n.pending with
  | none =>
    rw [runStep_of_pending_none hp] at he
    cases he
  | some challenge =>
    obtain ⟨mech, hname, htake⟩ := h.take hp
    have hback : (PendingStep.run ⟨mech, challenge⟩).mechanism.name = name :=
      (mech.name_step challenge).trans hname
    rw [runStep, htake] at he
    dsimp only [complete] at he
    cases hr : (PendingStep.run ⟨mech, challenge⟩).response with
    | ok payload =>
      rw [hr] at he
      cases he
    | error error =>
      rw [hr] at he
      obtain ⟨e', hevents, htells⟩ := events_answer_error _ _ _
      rw [hevents] at he
      rw [List.mem_singleton.mp he, ← hback]
      exact htells.mechanism_eq

/-- A step that is given up is told of without a name. -/
theorem unnamed_givenUp (h : n.Holds name) {challenge : Bytes} (hp : n.pending = some challenge)
    (net : Network) (reason : String) :
    ∃ e : Event, (n.conclude net (.givenUp reason)).2.events = [e] ∧ e.Tells "sasl.failed" "" := by
  obtain ⟨mech, -, htake⟩ := h.take hp
  rw [conclude, htake]
  exact events_answer_error _ net _

/-! ## Challenges that are complete -/

/-- The chunk that a line brings. -/
def Heard.chunk (l : Heard) : String :=
  (l.msg.arg 0).getD "+"

/-- Whether a line completes a challenge: its chunk is not full. -/
def Heard.Completes (l : Heard) : Prop :=
  l.isChunk = true ∧ (l.chunk = "+" ∨ l.chunk.utf8ByteSize ≠ chunkLength)

/-- What a line adds to a challenge. A `+` adds nothing. -/
def Heard.added (l : Heard) : String :=
  if l.chunk = "+" then "" else l.chunk

theorem handle_completes (hs : n.state = .authInProgress) {l : Heard} (hl : l.Completes) :
    n.handle l.before l.msg =
      consumes l.before ({ n with challenge := n.challenge ++ l.added }.challenged l.before) := by
  rw [handle_chunk hs hl.1, Heard.added]
  unfold handleAuthenticate
  dsimp only
  rw [← Heard.chunk]
  by_cases hplus : l.chunk = "+"
  · rw [if_pos hplus, if_pos hplus, String.append_empty]
  · rw [if_neg hplus, if_neg hplus, if_neg (hl.2.resolve_left hplus)]

/-- A challenge that is complete is taken out with the mechanism, if it can be read at all. -/
theorem challenge_taken (h : n.Holds name) (hs : n.state = .authInProgress) {l : Heard}
    (hl : l.Completes) {challenge : Bytes}
    (hread : Base64.decode (n.challenge ++ l.added) = .ok challenge) :
    ∃ mech : Mechanism, mech.name = name ∧ n.stepOf l = some ⟨mech, challenge⟩ := by
  obtain ⟨mech, hmech, hname⟩ := h.mechanism hs
  refine ⟨mech, hname, ?_⟩
  rw [stepOf, handle_completes hs hl, challenged]
  dsimp only [consumes]
  rw [hread]
  dsimp only [Negotiator.take]
  rw [hmech]
  rfl

/-- If it cannot be read, this is told of the mechanism. -/
theorem challenge_unread (h : n.Holds name) (hs : n.state = .authInProgress) {l : Heard}
    (hl : l.Completes) {error : Base64.DecodeError}
    (hread : Base64.decode (n.challenge ++ l.added) = .error error) :
    ∃ e ∈ (n.handle l.before l.msg).outcome.events, e.Tells "sasl.failed" name := by
  rw [handle_completes hs hl, challenged]
  dsimp only [consumes]
  rw [hread]
  dsimp only
  obtain ⟨e, hevents, htells⟩ := events_answer_error { n with challenge := "" } l.before
    (.base64 error)
  rw [hevents]
  refine ⟨e, List.mem_singleton_self e, ?_⟩
  rw [← h.mechanismName hs]
  exact htells

/--
**What is told of an authentication names its mechanism, unless a step was given up.** Whatever
lines have come in, and whatever has become of the steps that they left: each event of the next
line names the mechanism that is configured, but for the one that tells of a step that is given
up, which names none. And while the authentication goes on, a challenge that is complete is taken
out with that mechanism to answer it; if it cannot be read, that is told of the mechanism.
-/
theorem events_name_mechanism (identity : Identity) (nonce : String)
    (enabled : identity.sasl.enabled = true) (heard : List (Heard × Fate)) (l : Heard)
    (fate : Fate) :
    let n := (Negotiator.new (identity.mechanism? nonce)).start.1.hearAllWith heard
    let name := identity.sasl.mechanism.text
    let events := (n.hearWith l fate).2.events
    (n.stepOf l = none ∨ fate = .run → ∀ e ∈ events, e.getText? "mechanism" = some name) ∧
    (∀ s reason, n.stepOf l = some s → fate = .givenUp reason →
      ∃ e, events = [e] ∧ e.Tells "sasl.failed" "") ∧
    (n.state = .authInProgress → l.Completes →
      (∀ challenge, Base64.decode (n.challenge ++ l.added) = .ok challenge →
        ∃ mech : Mechanism, mech.name = name ∧ n.stepOf l = some ⟨mech, challenge⟩) ∧
      (∀ error, Base64.decode (n.challenge ++ l.added) = .error error →
        ∃ e ∈ events, e.Tells "sasl.failed" name)) := by
  intro n name events
  obtain ⟨fresh, hfresh, hname⟩ := Identity.exists_mechanism enabled nonce
  have hn : n.Holds name := by
    show Holds (hearAllWith (new (identity.mechanism? nonce)).start.1 heard)
      identity.sasl.mechanism.text
    rw [hfresh, ← hname]
    exact (holds_start fresh).hearAllWith heard
  have hreaction := reaction_handle n l.before l.msg
  have hafter : (n.handle l.before l.msg).negotiator.Holds name := hn.reaction hreaction
  -- first what the line itself says, then what becomes of the step that it leaves
  have hevents : events = (n.handle l.before l.msg).outcome.events ++
      ((n.handle l.before l.msg).negotiator.conclude l.after fate).2.events := rfl
  refine ⟨fun hcase e he => ?named, fun s reason hs hfate => ?unnamed, fun hs hl => ?taken⟩
  case named =>
    rw [hevents, List.mem_append] at he
    obtain he | he := he
    · exact named_reaction hn hreaction e he
    · obtain hs | rfl := hcase
      · rw [conclude_of_pending_none (hafter.take_none_iff.mp hs)] at he
        cases he
      · exact named_runStep hafter l.after e he
  case unnamed =>
    -- a line that leaves a step says nothing itself
    obtain ⟨challenge, hp⟩ : ∃ challenge, (n.handle l.before l.msg).negotiator.pending =
        some challenge := by
      rw [← Option.ne_none_iff_exists', ne_eq, ← hafter.take_none_iff]
      exact fun hnone => Option.some_ne_none s (hs.symm.trans hnone)
    rw [hevents, quiet_reaction hn hreaction hp, hfate]
    exact unnamed_givenUp hafter hp l.after reason
  case taken =>
    refine ⟨fun challenge => challenge_taken hn hs hl, fun error hread => ?_⟩
    obtain ⟨e, he, htells⟩ := challenge_unread hn hs hl hread
    exact ⟨e, hevents ▸ List.mem_append_left _ he, htells⟩

/-- The server asks for the credentials, and PLAIN is there to give them. -/
theorem events_name_mechanism_plain :
    let identity : Identity := {
      id := 1, name := "net", endpoints := [], nickname := "me", username := "me"
      realname := "me", sasl := { enabled := true } }
    let net : Network := .new 1 "net" "me"
    let hears (command : String) (args : List String) : Heard :=
      ⟨⟨[], none, command, args⟩, net, net⟩
    let n := (Negotiator.new (identity.mechanism? "")).start.1.hearAllWith
      [(hears "CAP" ["*", "LS", "sasl"], .run), (hears "CAP" ["*", "ACK", "sasl"], .run)]
    let l := hears "AUTHENTICATE" ["+"]
    identity.sasl.enabled = true ∧ n.state = .authInProgress ∧ l.Completes ∧
      ∃ mech : Mechanism, mech.name = "PLAIN" ∧ n.stepOf l = some ⟨mech, []⟩ := by
  intro identity net hears n l
  have hs : n.state = .authInProgress := by decide +kernel
  have hl : l.Completes := ⟨by decide, .inl rfl⟩
  have hread : Base64.decode (n.challenge ++ l.added) = .ok [] := by
    have htext : n.challenge ++ l.added = "" := by decide +kernel
    rw [htext]
    rfl
  exact ⟨rfl, hs, hl, ((events_name_mechanism identity "" rfl _ l .run).2.2 hs hl).1 [] hread⟩

/-- What is told of a step that is given up names no mechanism. -/
theorem given_up_unnamed :
    let identity : Identity := {
      id := 1, name := "net", endpoints := [], nickname := "me", username := "me"
      realname := "me", sasl := { enabled := true } }
    let net : Network := .new 1 "net" "me"
    let hears (command : String) (args : List String) : Heard :=
      ⟨⟨[], none, command, args⟩, net, net⟩
    let n := (Negotiator.new (identity.mechanism? "")).start.1.hearAllWith
      [(hears "CAP" ["*", "LS", "sasl"], .run), (hears "CAP" ["*", "ACK", "sasl"], .run)]
    let told := n.hearWith (hears "AUTHENTICATE" ["+"]) (.givenUp "task panicked")
    identity.sasl.mechanism.text = "PLAIN" ∧
      told.2.events.map (fun e => (e.type, e.getText? "mechanism")) =
        [("sasl.failed", some "")] := by
  intro identity net hears n told
  exact ⟨rfl, by decide +kernel⟩

end Negotiator

end IrcClient
