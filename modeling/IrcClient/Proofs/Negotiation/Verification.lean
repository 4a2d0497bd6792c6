import IrcClient.Proofs.Negotiation.Dialogue
import IrcClient.Proofs.Sasl.Exchange

/-!
# Whether success was verified

Two parties speak of success. The mechanism is done when it has seen the server's signature; the
negotiation is done when the server says so. The negotiation does not ask the mechanism, so what
a success says of the mechanism is only this: nothing has gone wrong in it so far. The server was
verified exactly where the exchange had come to its third step by then, and a server is free to
declare success before that.

The steps that a negotiation runs are those of one mechanism, which answers one challenge after
another (`Stepped`), so all that is known of a mechanism's answers holds of the steps.
-/

namespace IrcClient

open SaslMechanism

/-- The digest of a mechanism that has one. -/
def MechanismName.digest? : MechanismName → Option Digest
  | scramSha256 => some .sha256
  | scramSha512 => some .sha512
  | plain | external => none

/-- The server has given the signature that only those who know the keys can give. -/
def Scram.ServerVerified (s : Scram) (challenges : List Bytes) : Prop :=
  ∃ c c' m, challenges[1]? = some c ∧ challenges[2]? = some c' ∧
    IsServerFirst s.nonce c m ∧ IsServerFinal c' (s.serverSignature m)

/-- An exchange in which nothing has gone wrong has at most three steps, and the third is the
verification. -/
theorem Scram.verified_iff {s : Scram} (h : s.stage = .initial) {challenges : List Bytes}
    (hok : ∀ a ∈ answers s challenges, ∃ payload, a = .ok payload) :
    challenges.length ≤ 3 ∧ (s.ServerVerified challenges ↔ challenges.length = 3) := by
  have hget : ∀ {i : Nat}, i < challenges.length →
      ∃ payload, (answers s challenges)[i]? = some (.ok payload) := fun {i} hi => by
    have hi' : i < (answers s challenges).length := by rwa [length_answers]
    obtain ⟨payload, hp⟩ := hok _ (List.getElem_mem hi')
    exact ⟨payload, by rw [List.getElem?_eq_getElem hi', hp]⟩
  have hle : challenges.length ≤ 3 := by
    refine Nat.le_of_not_lt fun hlt => ?_
    obtain ⟨payload, hp⟩ := hget hlt
    rw [answers_of_over (i := 2) (by decide) hlt (.inl rfl)] at hp
    cases hp
  refine ⟨hle, ?_, fun hlen => ?_⟩
  · rintro ⟨c, c', m, -, hc', -, -⟩
    have := (List.getElem?_eq_some_iff.mp hc').1
    omega
  · have hc := List.getElem?_eq_getElem (l := challenges) (i := 1) (by omega)
    have hc' := List.getElem?_eq_getElem (l := challenges) (i := 2) (by omega)
    obtain ⟨r, hr⟩ := hget (i := 1) (by omega)
    obtain ⟨r', hr'⟩ := hget (i := 2) (by omega)
    obtain ⟨m, hm, -⟩ := (second_answer h hc r).mp hr
    exact ⟨_, _, m, hc, hc', hm, ((third_answer h hc hc' hm r').mp hr').1⟩

/-- SCRAM answers for the mechanism. -/
theorem Mechanism.answers_scram : ∀ (challenges : List Bytes) (s : Scram),
    answers (Mechanism.scram s) challenges = answers s challenges
  | [], _ => rfl
  | c :: cs, s => congrArg ((s.step c).2 :: ·) (answers_scram cs (s.step c).1)

namespace Negotiator

variable {m : Type} [SaslMechanism m]

/-! ## The steps of a negotiation -/

/-- The step that a line leaves to be run. -/
def stepOf (n : Negotiator m) (l : Heard) : Option (PendingStep m) :=
  (n.handle l.before l.msg).negotiator.take.2

/-- All steps that are run while lines are heard. -/
def steps : Negotiator m → List Heard → List (PendingStep m)
  | _, [] => []
  | n, l :: heard => (n.stepOf l).toList ++ steps (n.hear l).1 heard

/-- What has been done with a mechanism so far: it has answered one challenge after another. -/
structure Stepped (fresh : m) (n : Negotiator m) (run : List (PendingStep m)) : Prop where
  configured : n.fresh = some fresh
  pending : n.pending = none ∨ n.state = .authInProgress
  /-- Each step was run with the mechanism as the steps before had left it. -/
  responses : run.map (·.run.response) = answers fresh (run.map (·.challenge))
  requested : n.state = .capRequested → run = []
  /-- The authentication goes on only as long as nothing goes wrong. -/
  inProgress : n.state = .authInProgress →
    n.mechanism = some (after fresh (run.map (·.challenge))) ∧
    ∀ s ∈ run, ∃ payload, s.run.response = .ok payload

variable {fresh : m} {n n' : Negotiator m} {run : List (PendingStep m)}

theorem stepped_start (fresh : m) : Stepped fresh (new (some fresh)).start.1 [] where
  configured := rfl
  pending := .inl rfl
  responses := rfl
  requested _ := rfl
  inProgress h := nomatch h

theorem Stepped.finish (h : Stepped fresh n run) (r : CapState) :
    Stepped fresh (n.finish r).1 run where
  configured := h.configured
  pending := .inl rfl
  responses := h.responses
  requested hs := nomatch hs
  inProgress hs := nomatch hs

theorem Stepped.reaction {o : Outcome} (h : Stepped fresh n run) (hr : Reaction n n' o) :
    Stepped fresh n' run := by
  cases hr with
  | noted offers challenge pending hp =>
    refine ⟨h.configured, ?_, h.responses, h.requested, h.inProgress⟩
    obtain rfl | hs := hp
    · exact h.pending
    · exact .inr hs
  | asked offers hs => exact ⟨h.configured, h.pending, h.responses, h.requested, h.inProgress⟩
  | began e hs he =>
    have hrun : run = [] := h.requested hs
    refine ⟨h.configured, .inr rfl, h.responses, nofun, fun _ => ?_⟩
    rw [hrun]
    exact ⟨h.configured, by simp⟩
  | refused r => exact h.finish r
  | judged v => exact h.finish v.result
  | gaveUp => exact h.finish .authFailed

theorem Stepped.runStep (h : Stepped fresh n run) (net : Network) :
    Stepped fresh (n.runStep net).1 (run ++ n.take.2.toList) := by
  cases hp : n.pending with
  | none =>
    have ht : n.take = (n, none) := by rw [take, hp]
    rw [runStep_of_pending_none hp, ht, Option.toList_none, List.append_nil]
    exact h
  | some challenge =>
    -- a challenge waits only while the authentication goes on, and the mechanism is there
    have hstate : n.state = .authInProgress := h.pending.resolve_left (by simp [hp])
    obtain ⟨hm, hok⟩ := h.inProgress hstate
    let s : PendingStep m := ⟨after fresh (run.map (·.challenge)), challenge⟩
    have ht : n.take = ({ n with pending := none, mechanism := none }, some s) := by
      rw [take, hp, hm]
      rfl
    have hr : n.runStep net =
        { n with pending := none, mechanism := some s.run.mechanism }.answer net
          s.run.response := by
      rw [Negotiator.runStep, ht]
      rfl
    have hresponses : (run ++ [s]).map (·.run.response) =
        answers fresh ((run ++ [s]).map (·.challenge)) := by
      rw [List.map_append, List.map_append, answers_append, h.responses]
      rfl
    have hafter : s.run.mechanism = after fresh ((run ++ [s]).map (·.challenge)) := by
      rw [List.map_append, after_append]
      rfl
    rw [hr, ht, Option.toList_some]
    cases hs : s.run.response with
    | ok payload =>
      refine ⟨h.configured, .inl rfl, hresponses, fun hrequested => ?_,
        fun _ => ⟨congrArg some hafter, ?_⟩⟩
      · exact absurd (hstate.symm.trans hrequested) (by decide)
      · rw [List.forall_mem_append, List.forall_mem_singleton]
        exact ⟨hok, payload, hs⟩
    | error error =>
      -- a mechanism that fails ends the authentication, and the run counts no more
      obtain ⟨e, -, he⟩ := answer_error
        { n with pending := none, mechanism := some s.run.mechanism } net error
      rw [he]
      exact ⟨h.configured, .inl rfl, hresponses, nofun, nofun⟩

theorem Stepped.hear (h : Stepped fresh n run) (l : Heard) :
    Stepped fresh (n.hear l).1 (run ++ (n.stepOf l).toList) :=
  (h.reaction (reaction_handle n l.before l.msg)).runStep l.after

theorem Stepped.dialogue : ∀ (heard : List Heard) {n : Negotiator m} {run : List (PendingStep m)},
    Stepped fresh n run → Stepped fresh (n.dialogue heard).1 (run ++ n.steps heard)
  | [], _, run, h => by rwa [Negotiator.dialogue, steps, List.append_nil]
  | l :: heard, n, run, h => by
    have h' := Stepped.dialogue heard (h.hear l)
    rwa [List.append_assoc] at h'

/-! ## What success says -/

/-- Success is told of only while the authentication goes on. -/
theorem inProgress_of_success {name : String} {p : Point} (h : n.At name p) {l : Heard}
    (hs : Verdict.success.event ∈ eventTypes (n.hear l).2) : n.state = .authInProgress := by
  obtain ⟨p', t, -⟩ := turn_hear h l
  generalize (n.hear l).2 = o at t hs
  cases t with
  | silent | asked | responded | refused => exact absurd hs (by simp [eventTypes])
  | began e he =>
    have : Verdict.success.event = e.type := by simpa [eventTypes] using hs
    exact absurd (this.trans he) (by decide)
  | judged | gaveUp => exact h.state

/-- What has been run by the time of a success has answered every challenge. -/
theorem Stepped.answered_of_success (h : Stepped fresh n run) {name : String} {p : Point}
    (hp : n.At name p) {l : Heard} (hs : Verdict.success.event ∈ eventTypes (n.hear l).2) :
    ∀ a ∈ answers fresh (run.map (·.challenge)), ∃ payload, a = .ok payload := by
  rw [← h.responses, List.forall_mem_map]
  exact (h.inProgress (inProgress_of_success hp hs)).2

theorem mechanism?_of_digest {identity : Identity} {digest : Digest}
    (enabled : identity.sasl.enabled = true)
    (hdigest : identity.sasl.mechanism.digest? = some digest) (nonce : String) :
    identity.mechanism? nonce =
      some (.scram (.new digest identity.sasl.username identity.sasl.password nonce)) := by
  rw [Identity.mechanism?, if_pos enabled]
  cases hname : identity.sasl.mechanism with
  | plain | external =>
    rw [hname] at hdigest
    cases hdigest
  | scramSha256 | scramSha512 =>
    rw [hname] at hdigest
    cases hdigest
    rfl

/--
**What a success says of the mechanism.** When a client that authenticates by SCRAM tells of
success, its mechanism has answered every challenge so far, and there were three of them at the
most. The server has been verified exactly if there were three.
-/
theorem success_verified_iff (identity : Identity) (nonce : String) {digest : Digest}
    (enabled : identity.sasl.enabled = true)
    (hdigest : identity.sasl.mechanism.digest? = some digest) (heard : List Heard) (last : Heard)
    (success : "sasl.success" ∈ eventTypes
      ((((Negotiator.new (identity.mechanism? nonce)).start.1.dialogue heard).1.hear last).2)) :
    let run := (Negotiator.new (identity.mechanism? nonce)).start.1.steps heard
    let client := Scram.new digest identity.sasl.username identity.sasl.password nonce
    (∀ s ∈ run, ∃ payload, s.run.response = .ok payload) ∧ run.length ≤ 3 ∧
    (client.ServerVerified (run.map (·.challenge)) ↔ run.length = 3) := by
  intro run client
  have hm : identity.mechanism? nonce = some (.scram client) :=
    mechanism?_of_digest enabled hdigest nonce
  have h : Stepped (.scram client)
      ((Negotiator.new (identity.mechanism? nonce)).start.1.dialogue heard).1 run := by
    simp only [run, hm]
    exact (stepped_start (Mechanism.scram client)).dialogue heard
  have hat : ∃ p, ((Negotiator.new (identity.mechanism? nonce)).start.1.dialogue heard).1.At
      (SaslMechanism.name (Mechanism.scram client)) p := by
    rw [hm]
    obtain ⟨p, hp, -⟩ := told_dialogue heard (at_start (Mechanism.scram client)) (.requested 0)
    exact ⟨p, hp⟩
  -- a success is told of only while all steps so far have been answered
  obtain ⟨p, hp⟩ := hat
  have hanswered := h.answered_of_success hp success
  rw [Mechanism.answers_scram] at hanswered
  have hverified := Scram.verified_iff rfl hanswered
  rw [List.length_map] at hverified
  exact ⟨(h.inProgress (inProgress_of_success hp success)).2, hverified⟩

/-- Who authenticates as alice by SCRAM. -/
def aliceByScram : Identity where
  id := 1
  name := "irc.example.net"
  endpoints := []
  nickname := "alice"
  username := "alice"
  realname := "alice"
  sasl := { enabled := true, mechanism := .scramSha256, username := "alice", password := "secret" }

/-- A line of the server. -/
def Heard.line (command : String) (args : List String) : Heard where
  msg := ⟨[], none, command, args⟩
  before := .new 1 "irc.example.net" "alice"
  after := .new 1 "irc.example.net" "alice"

/-- Success after the client's first message. -/
theorem success_verified_iff_one_step :
    let heard : List Heard := [.line "CAP" ["*", "LS", "sasl"], .line "CAP" ["*", "ACK", "sasl"],
      .line "AUTHENTICATE" ["+"]]
    let start := (Negotiator.new (aliceByScram.mechanism? "nonce")).start.1
    aliceByScram.sasl.enabled = true ∧
    aliceByScram.sasl.mechanism.digest? = some .sha256 ∧
    "sasl.success" ∈ eventTypes ((start.dialogue heard).1.hear (.line "903" ["alice"])).2 ∧
    (start.steps heard).length = 1 ∧
    ¬ (Scram.new .sha256 "alice" "secret" "nonce").ServerVerified
      ((start.steps heard).map (·.challenge)) := by
  intro heard start
  have success : "sasl.success" ∈
      eventTypes ((start.dialogue heard).1.hear (.line "903" ["alice"])).2 := by decide
  have hlength : (start.steps heard).length = 1 := by decide
  have h := success_verified_iff aliceByScram "nonce" rfl rfl heard (.line "903" ["alice"]) success
  exact ⟨rfl, rfl, success, hlength,
    fun hverified => absurd (hlength.symm.trans (h.2.2.mp hverified)) (by decide)⟩

/-- A server may declare success without having taken part in the exchange at all. -/
theorem success_unverified :
    let heard : List Heard := [.line "CAP" ["*", "LS", "sasl"], .line "CAP" ["*", "ACK", "sasl"]]
    let start := (Negotiator.new (aliceByScram.mechanism? "nonce")).start.1
    "sasl.success" ∈ eventTypes ((start.dialogue heard).1.hear (.line "903" ["alice"])).2 ∧
    start.steps (heard ++ [.line "903" ["alice"]]) = [] :=
  ⟨by decide, rfl⟩

end Negotiator

end IrcClient
