import IrcClient.Negotiator
import IrcClient.Proofs.Outcome

/-!
# What a line does to a negotiation

A server may send anything at any time, and `handle` tells its commands apart one by one.
But there are few things that a negotiation can do about a line, and each of them needs the
negotiation to have come so far (`Reaction`). Everything that holds of all lines is proved
from these, and not from the commands.

A step is answered in one of two ways, whenever it is: the response is sent, or the
negotiation gives up (`answer_ok`, `answer_error`).
-/

namespace IrcClient

/-- An event of an authentication: what it is, and by which mechanism. -/
structure Event.Tells (e : Event) (type mechanism : String) : Prop where
  type_eq : e.type = type
  mechanism_eq : e.getText? "mechanism" = some mechanism

/-- A text that is added under another name leaves the event what it is. -/
theorem Event.Tells.setText {e : Event} {type mechanism : String} (h : e.Tells type mechanism)
    {key : String} (hk : key ≠ "mechanism") (value : String) :
    (e.setText key value).Tells type mechanism where
  type_eq := h.type_eq
  mechanism_eq := by
    have := h.mechanism_eq
    rw [Event.getText?] at this ⊢
    rw [Event.setText, Event.get?_set, if_neg hk, this]

namespace Negotiator

variable {m : Type}

/-- What the server says of an authentication in the end. -/
inductive Verdict where
  | success | failed | aborted

/-- The event that tells of it. -/
def Verdict.event : Verdict → String
  | success => "sasl.success"
  | failed => "sasl.failed"
  | aborted => "sasl.aborted"

/-- The result of the negotiation. -/
def Verdict.result : Verdict → CapState
  | success => .authSucceeded
  | failed => .authFailed
  | aborted => .authAborted

/-! ## The end of a negotiation -/

@[simp] theorem lines_finish (n : Negotiator m) (r : CapState) :
    (n.finish r).2.lines = if n.capEndSent then [] else ["CAP END"] := by
  unfold finish
  cases n.capEndSent <;> rfl

theorem isActive_of_capRequested {n : Negotiator m} (h : n.state = .capRequested) :
    n.isActive = true := by
  rw [isActive, h]
  decide

theorem state_ne_of_inactive {n : Negotiator m} (h : n.isActive = false) {state : CapState}
    (hidle : state ≠ .idle) (hended : state ≠ .capEnded) : n.state ≠ state := by
  intro hs
  rw [isActive, hs, decide_eq_true hidle, decide_eq_true hended] at h
  cases h

variable [SaslMechanism m]

/-- The name of the mechanism that is configured. -/
def freshName (n : Negotiator m) : String :=
  (n.fresh.map SaslMechanism.name).getD ""

theorem tells_event (n : Negotiator m) (net : Network) (type : String) :
    (n.event net type).Tells type n.mechanismName where
  type_eq := rfl
  mechanism_eq := by
    rw [Event.getText?, event, Event.setText, Event.get?_set, if_pos rfl]
    rfl

/-! ## Reactions -/

/-- What a negotiation can do about a line: what becomes of it, and what it asks for. -/
inductive Reaction (n : Negotiator m) : Negotiator m → Outcome → Prop where
  /-- It takes note. A challenge is pending only while the authentication goes on. -/
  | noted (offers : List Offer) (challenge : String) (pending : Option Bytes)
      (h : pending = n.pending ∨ n.state = .authInProgress) :
      Reaction n { n with offers, challenge, pending } .empty
  /-- It asks for the capability, which is offered. -/
  | asked (offers : List Offer) (h : n.state = .capRequested) :
      Reaction n { n with offers } (.send "CAP REQ :sasl")
  /-- The capability is granted: it begins to authenticate. -/
  | began (e : Event) (h : n.state = .capRequested) (he : e.Tells "sasl.started" n.freshName) :
      Reaction n { n with mechanism := n.fresh, state := .authInProgress }
        (.send ("AUTHENTICATE " ++ n.freshName) ++ .emit e)
  /-- It ends before anything is known of the authentication. -/
  | refused (r : CapState) (h : n.isActive = true) (hr : r = .capNaked ∨ r = .capNotSupported) :
      Reaction n (n.finish r).1 (n.finish r).2
  /-- It ends as the server says. -/
  | judged (v : Verdict) (e : Event) (h : n.state = .authInProgress)
      (he : e.Tells v.event n.mechanismName) :
      Reaction n (n.finish v.result).1 (.emit e ++ (n.finish v.result).2)
  /-- It gives up, for a challenge that cannot be read. -/
  | gaveUp (e : Event) (h : n.state = .authInProgress)
      (he : e.Tells "sasl.failed" n.mechanismName) :
      Reaction n (n.finish .authFailed).1
        (.send "AUTHENTICATE *" ++ .emit e ++ (n.finish .authFailed).2)

theorem Reaction.ignored (n : Negotiator m) : Reaction n n .empty :=
  .noted n.offers n.challenge n.pending (.inl rfl)

/-- Offers that were noted before the end are forgotten by it. -/
theorem reaction_requestSasl {n : Negotiator m} (h : n.state = .capRequested)
    (offers : List Offer) :
    Reaction n { n with offers }.requestSasl.1 { n with offers }.requestSasl.2 := by
  unfold requestSasl
  split
  · exact .asked offers h
  · exact .refused .capNotSupported (isActive_of_capRequested h) (.inr rfl)

theorem reaction_listed {n : Negotiator m} (h : n.state = .capRequested) (msg : Message) :
    Reaction n (n.listed msg).1 (n.listed msg).2 := by
  obtain ⟨more, offers, he⟩ : ∃ (more : Bool) (offers : List Offer), n.listed msg =
      if more then ({ n with offers }, .empty) else { n with offers }.requestSasl := ⟨_, _, rfl⟩
  rw [he]
  cases more with
  | true => exact .noted offers n.challenge n.pending (.inl rfl)
  | false => exact reaction_requestSasl h offers

theorem reaction_acknowledged {n : Negotiator m} (h : n.state = .capRequested) (net : Network)
    (msg : Message) : Reaction n (n.acknowledged net msg).1 (n.acknowledged net msg).2 := by
  unfold acknowledged
  split
  · exact .began _ h (tells_event { n with mechanism := n.fresh, state := .authInProgress } net _)
  · exact .refused .capNaked (isActive_of_capRequested h) (.inl rfl)

theorem reaction_handleCap (n : Negotiator m) (net : Network) (msg : Message) :
    Reaction n (n.handleCap net msg).1 (n.handleCap net msg).2 := by
  unfold handleCap
  split
  · exact .ignored n
  · rename_i h
    have h : n.state = .capRequested := Decidable.not_not.mp h
    split
    · exact reaction_listed h msg
    · exact reaction_acknowledged h net msg
    · exact .refused .capNaked (isActive_of_capRequested h) (.inl rfl)
    · exact .ignored n

theorem reaction_challenged {n : Negotiator m} (h : n.state = .authInProgress) (net : Network)
    (challenge : String) : Reaction n ({ n with challenge }.challenged net).1
      ({ n with challenge }.challenged net).2 := by
  unfold challenged
  dsimp only
  split
  · exact .noted n.offers "" _ (.inr h)
  · refine .gaveUp _ h (Event.Tells.setText ?_ (by decide) _)
    exact tells_event { n with challenge := "" } net _

theorem reaction_handleAuthenticate {n : Negotiator m} (h : n.state = .authInProgress)
    (net : Network) (msg : Message) :
    Reaction n (n.handleAuthenticate net msg).1 (n.handleAuthenticate net msg).2 := by
  unfold handleAuthenticate
  dsimp only
  split
  · exact reaction_challenged h net n.challenge
  · split
    · exact .noted n.offers _ n.pending (.inl rfl)
    · exact reaction_challenged h net _

/-- The server's verdict counts while the authentication goes on, and is passed on otherwise. -/
theorem reaction_verdict (n : Negotiator m) (net : Network) (v : Verdict) {e : Event}
    (he : e.Tells v.event n.mechanismName) {s : Step m}
    (hs : s = if n.state = .authInProgress then consumes net (n.finishAfter (.emit e) v.result)
      else n.passes net) : Reaction n s.negotiator s.outcome := by
  rw [hs]
  split
  · rename_i h
    exact .judged v e h he
  · exact .ignored n

/-- **Whatever the line, a negotiation can do no more about it than this.** -/
theorem reaction_handle (n : Negotiator m) (net : Network) (msg : Message) :
    Reaction n (n.handle net msg).negotiator (n.handle net msg).outcome := by
  have hfailed : (((n.event net "sasl.failed").setText "code" msg.command).setText "reason"
      (msg.lastArg.getD "")).Tells "sasl.failed" n.mechanismName :=
    ((tells_event n net _).setText (by decide) _).setText (by decide) _
  unfold handle
  dsimp only
  split
  · exact reaction_handleCap n net msg
  · split
    · rename_i h
      exact reaction_handleAuthenticate h net msg
    · exact .ignored n
  · exact .ignored n
  · exact .ignored n
  · exact .ignored n
  · -- the verdicts: success, failure and abort
    exact reaction_verdict n net .success (tells_event n net _) rfl
  · exact reaction_verdict n net .success (tells_event n net _) rfl
  · exact reaction_verdict n net .failed hfailed rfl
  · exact reaction_verdict n net .failed hfailed rfl
  · exact reaction_verdict n net .failed hfailed rfl
  · exact reaction_verdict n net .aborted (tells_event n net _) rfl
  · split
    · rename_i h
      exact .refused .capNotSupported (Bool.and_eq_true_iff.mp h).1 (.inr rfl)
    · exact .ignored n
  · split
    · rename_i h
      exact .refused .capNotSupported h (.inr rfl)
    · exact .ignored n
  · exact .ignored n

/-- The welcome ends a negotiation and is passed on. -/
theorem handle_welcome (n : Negotiator m) (net : Network) {msg : Message}
    (h : msg.command = "001") : (n.handle net msg).consumed = false ∧
      (n.handle net msg).network = net ∧ (n.handle net msg).negotiator.isActive = false := by
  have heq : n.handle net msg =
      if n.isActive then { consumes net (n.finish .capNotSupported) with consumed := false }
      else n.passes net := by
    unfold handle
    rw [h]
    rfl
  rw [heq]
  cases ha : n.isActive with
  | true => exact ⟨rfl, rfl, rfl⟩
  | false => exact ⟨rfl, rfl, ha⟩

/-- A negotiation learns of a network under which account the client is known, and no more. -/
theorem network_handle (n : Negotiator m) (net : Network) (msg : Message) :
    ∃ account, (n.handle net msg).network = { net with account } := by
  unfold handle passes consumes
  dsimp only
  split <;> first | exact ⟨_, rfl⟩ | (split <;> exact ⟨net.account, rfl⟩)

/-- What is over does not begin anew. -/
theorem inactive_reaction {n n' : Negotiator m} {o : Outcome} (h : Reaction n n' o)
    (ha : n.isActive = false) : n'.isActive = false := by
  cases h with
  | noted | asked => exact ha
  | began e hs => exact absurd hs (state_ne_of_inactive ha (by decide) (by decide))
  | refused | judged | gaveUp => rfl

/-! ## Steps -/

theorem answer_ok (n : Negotiator m) (net : Network) (payload : Bytes) :
    n.answer net (.ok payload) = (n, { lines := authenticateLines payload }) := rfl

/-- A negotiation that gives up says so, to the server and in an event. -/
theorem answer_error (n : Negotiator m) (net : Network) (error : SaslError) :
    ∃ e : Event, e.Tells "sasl.failed" n.mechanismName ∧
      n.answer net (.error error) = ((n.finish .authFailed).1,
        .send "AUTHENTICATE *" ++ .emit e ++ (n.finish .authFailed).2) :=
  ⟨_, (tells_event n net _).setText (by decide) _, rfl⟩

theorem runStep_of_pending_none {n : Negotiator m} (h : n.pending = none) (net : Network) :
    n.runStep net = (n, .empty) := by
  unfold runStep take
  rw [h]

/-- A step is run only where a challenge is pending, and there is a mechanism to run it. -/
theorem runStep_cases (n : Negotiator m) (net : Network) :
    n.pending = none ∧ n.runStep net = (n, .empty) ∨
    (∃ challenge, n.pending = some challenge ∧
      n.runStep net = ({ n with pending := none, mechanism := none }, .empty)) ∨
    ∃ challenge mech, n.pending = some challenge ∧ n.mechanism = some mech ∧
      n.runStep net =
        { n with pending := none, mechanism := some (SaslMechanism.step mech challenge).1 }.answer
          net (SaslMechanism.step mech challenge).2 := by
  cases hp : n.pending with
  | none => exact .inl ⟨rfl, runStep_of_pending_none hp net⟩
  | some challenge =>
    unfold runStep take
    rw [hp]
    cases hm : n.mechanism with
    | none => exact .inr (.inl ⟨challenge, rfl, rfl⟩)
    | some mech => exact .inr (.inr ⟨challenge, mech, rfl, rfl, rfl⟩)

theorem inactive_runStep {n : Negotiator m} (ha : n.isActive = false) (net : Network) :
    (n.runStep net).1.isActive = false := by
  rcases runStep_cases n net with ⟨-, h⟩ | ⟨_, -, h⟩ | ⟨challenge, mech, -, -, h⟩
  · rw [h]
    exact ha
  · rw [h]
    exact ha
  · rw [h]
    cases (SaslMechanism.step mech challenge).2 with
    | ok payload => exact ha
    | error e => rfl

end Negotiator

end IrcClient
