import IrcClient.Proofs.Handling.Change
import IrcClient.Proofs.Handling.EventTypes
import IrcClient.Proofs.Negotiation.Reaction
import IrcClient.Proofs.Session

/-!
# Events within a connection

That a connection has come up or gone down is told by those who open and end it, and by nobody
else. A line can make the client tell of many things, but not of these, and it cannot make one
network pass for another (`Network.Within`). For the handlers this is read off the table of their
events. The negotiation needs a look at each reaction, and so it goes for all that a session does
while it lasts (`Session.Within`).
-/

namespace IrcClient

/-- The types of the events that tell of a connection. -/
def connectionTypes : List String :=
  ["connection.established", "connection.lost"]

/-- Whether an outcome tells nothing of connections. -/
def Outcome.Within (o : Outcome) : Prop :=
  ∀ e ∈ o.events, e.type ∉ connectionTypes

namespace Outcome.Within

theorem of_nil {o : Outcome} (h : o.events = []) : o.Within := by
  intro e he
  rw [h] at he
  cases he

theorem append {a b : Outcome} (ha : a.Within) (hb : b.Within) : (a ++ b).Within := by
  intro e he
  rw [Outcome.events_append, List.mem_append] at he
  rcases he with he | he
  · exact ha e he
  · exact hb e he

theorem emit {e : Event} (h : e.type ∉ connectionTypes) : (Outcome.emit e).Within := by
  intro e' he
  rw [Outcome.events_emit, List.mem_singleton] at he
  rw [he]
  exact h

theorem only {o : Outcome} (p : Bool) (h : o.Within) : (Outcome.only p o).Within := by
  cases p with
  | true => exact h
  | false => exact of_nil rfl

end Outcome.Within

/-- A network stays the one that it is, and nothing is told of its connection. -/
structure Network.Within (net : Network) (result : Network × Outcome) : Prop where
  id : result.1.id = net.id
  outcome : result.2.Within

/-- No verb tells of a connection. -/
theorem Verb.notMem_connectionTypes (v : Verb) : ∀ t ∈ v.eventTypes, t ∉ connectionTypes := by
  cases v <;> decide

theorem within_process (p : Persona) (net : Network) (msg : Message) :
    net.Within (process p net msg) := by
  refine ⟨(sameNetwork_process p net msg).id, ?_⟩
  unfold process
  split
  · exact .of_nil rfl
  · rename_i v _
    exact fun e he => v.notMem_connectionTypes _ (eventsIn_handler p v net msg e he)

/-! ## The negotiation -/

namespace Negotiator

variable {m : Type}

theorem within_finish (n : Negotiator m) (r : CapState) : (n.finish r).2.Within :=
  .only _ (.of_nil rfl)

theorem within_tells {e : Event} {type mechanism : String} (he : e.Tells type mechanism)
    (h : type ∉ connectionTypes) : (Outcome.emit e).Within := by
  refine .emit ?_
  rw [he.type_eq]
  exact h

variable [SaslMechanism m]

theorem within_reaction {n n' : Negotiator m} {o : Outcome} (h : Reaction n n' o) : o.Within := by
  cases h with
  | noted | asked => exact .of_nil rfl
  | began e _ he => exact .append (.of_nil rfl) (within_tells he (by decide))
  | refused r => exact within_finish n r
  | judged v e _ he =>
    refine .append (within_tells he ?_) (within_finish n _)
    cases v <;> decide
  | gaveUp e _ he =>
    exact .append (.append (.of_nil rfl) (within_tells he (by decide))) (within_finish n _)

theorem within_answer (n : Negotiator m) (net : Network) (r : Except SaslError Bytes) :
    (n.answer net r).2.Within := by
  cases r with
  | ok payload => exact .of_nil rfl
  | error error =>
    obtain ⟨e, he, heq⟩ := answer_error n net error
    rw [heq]
    exact .append (.append (.of_nil rfl) (within_tells he (by decide))) (within_finish n _)

theorem within_runStep (n : Negotiator m) (net : Network) : (n.runStep net).2.Within := by
  rcases runStep_cases n net with ⟨-, h⟩ | ⟨_, -, h⟩ | ⟨_, _, -, -, h⟩
  · rw [h]
    exact .of_nil rfl
  · rw [h]
    exact .of_nil rfl
  · rw [h]
    exact within_answer _ net _

theorem within_handle (n : Negotiator m) (net : Network) (msg : Message) :
    net.Within ((n.handle net msg).network, (n.handle net msg).outcome) := by
  refine ⟨?_, within_reaction (reaction_handle n net msg)⟩
  unfold handle passes consumes
  dsimp only
  split <;> first | rfl | (split <;> rfl)

end Negotiator

/-! ## Sessions -/

/-- A session stays where it stands, and tells nothing of its connection. -/
structure Session.Within (s : Session) (result : Session × Effects) : Prop where
  identity : result.1.identity = s.identity
  stage : result.1.stage = s.stage
  network : result.1.network.id = s.network.id
  events : ∀ e ∈ result.2.events, e.type ∉ connectionTypes

namespace Session

theorem Within.silent {s s' : Session} (h : s.SameStanding s') (hn : s'.network.id = s.network.id) :
    s.Within (s', .none) :=
  ⟨h.identity, h.stage, hn, nofun⟩

theorem within_respond (p : Persona) (s : Session) (msg : Message) :
    s.network.Within ((s.respond p msg).1.network, (s.respond p msg).2) := by
  obtain ⟨hid, ho⟩ := Negotiator.within_handle s.negotiator s.network msg
  unfold respond
  dsimp only
  split
  · exact ⟨hid, .append (.append ho (.of_nil rfl)) (Negotiator.within_runStep _ _)⟩
  · obtain ⟨hid', ho'⟩ := within_process p (s.negotiator.handle s.network msg).network msg
    exact ⟨hid'.trans hid, .append (.append ho ho') (Negotiator.within_runStep _ _)⟩

theorem within_handleLine (p : Persona) (s : Session) (line : String) :
    s.Within (s.handleLine p line) := by
  have hstanding := sameStanding_handleLine p s line
  refine ⟨hstanding.identity, hstanding.stage, ?_, ?_⟩
  · unfold handleLine
    split
    · rfl
    · rename_i msg _
      exact (congrArg Network.id (network_sendLines _ _)).trans (within_respond p s msg).id
  · unfold handleLine
    split
    · nofun
    · rename_i msg _
      exact (within_respond p s msg).outcome

theorem within_handleLines (p : Persona) : ∀ (lines : List String) (s : Session),
    s.Within (handleLines p s lines)
  | [], s => .silent (.refl s) rfl
  | line :: lines, s => by
    have hline := within_handleLine p s line
    have hrest := within_handleLines p lines (s.handleLine p line).1
    refine ⟨hrest.identity.trans hline.identity, hrest.stage.trans hline.stage,
      hrest.network.trans hline.network, fun e he => ?_⟩
    rcases List.mem_append.mp he with he | he
    · exact hline.events e he
    · exact hrest.events e he

theorem within_handleInbox (p : Persona) (s : Session) : s.Within (s.handleInbox p) := by
  have h := within_handleLines p s.inbox { s with inbox := [] }
  exact ⟨h.identity, h.stage, h.network, h.events⟩

theorem within_say (s : Session) (u : Utterance) (target text : String) :
    s.Within ((s.say u target text).1, (s.say u target text).2.1) := by
  have hstanding := sameStanding_say s u target text
  refine ⟨hstanding.identity, hstanding.stage, ?_, ?_⟩
  · rcases say_cases s u target text with he | he
    · rw [he]
    · rw [he]
      rfl
  · unfold say
    split
    · nofun
    · dsimp only
      split
      · nofun
      · intro e he
        rw [List.mem_singleton.mp he]
        simp [saidEvent, connectionTypes]

theorem within_tearDown (s : Session) (reason : Option String) :
    s.Within (s.tearDown reason, .none) := by
  refine .silent (sameStanding_tearDown s reason) ?_
  unfold tearDown
  split <;> rfl

end Session

end IrcClient
