import IrcClient.Session

/-!
# What a session keeps

Sending lines changes the link of a session and nothing else, so whatever a session starts
with, apart from its link, can be read off its definition.

Whose a session is, how far it has come and whether it was dismissed is for the client to
say (`SameStanding`). No line that the session handles changes any of it, and nor does
anything that is said through it.
-/

namespace IrcClient.Session

theorem sendLines_eq : ∀ (lines : List String) (s : Session),
    ∃ link, s.sendLines lines = { s with link }
  | [], s => ⟨s.link, rfl⟩
  | line :: lines, s => by
      obtain ⟨link, h⟩ := sendLines_eq lines (s.sendLine line)
      exact ⟨link, h⟩

theorem network_sendLines (s : Session) (lines : List String) :
    (s.sendLines lines).network = s.network := by
  obtain ⟨link, h⟩ := sendLines_eq lines s
  rw [h]

theorem negotiator_sendLines (s : Session) (lines : List String) :
    (s.sendLines lines).negotiator = s.negotiator := by
  obtain ⟨link, h⟩ := sendLines_eq lines s
  rw [h]

/-! ## The beginning -/

/-- A new session has not come any further, and its link has been given the first lines. -/
theorem start_eq (identity : Identity) (endpoint : Endpoint) (records : List ChannelRecord)
    (nonce : String) : ∃ link, start identity endpoint records nonce =
      { identity, endpoint, link
        network := (Network.new identity.id endpoint.address identity.nickname).seed records
        negotiator := (Negotiator.new (identity.mechanism? nonce)).start.1 } :=
  sendLines_eq _ _

/-- A session starts on the channels that are stored, and knows nothing else of its network. -/
theorem network_start (identity : Identity) (endpoint : Endpoint)
    (records : List ChannelRecord) (nonce : String) :
    (start identity endpoint records nonce).network =
      (Network.new identity.id endpoint.address identity.nickname).seed records := by
  obtain ⟨link, h⟩ := start_eq identity endpoint records nonce
  rw [h]

theorem identity_start (identity : Identity) (endpoint : Endpoint)
    (records : List ChannelRecord) (nonce : String) :
    (start identity endpoint records nonce).identity = identity := by
  obtain ⟨link, h⟩ := start_eq identity endpoint records nonce
  rw [h]

/-! ## What is said -/

/-- What is said through a session is queued, if anything is. -/
theorem say_cases (s : Session) (u : Utterance) (target text : String) :
    (s.say u target text).1 = s ∨
      (s.say u target text).1 = (s.send (u.request target text)).1 := by
  unfold say
  split
  · exact .inl rfl
  · dsimp only
    split <;> rename_i h
    · exact .inr (congrArg Prod.fst h).symm
    · exact .inr (congrArg Prod.fst h).symm

/-! ## Where a session stands -/

/-- Two sessions of one identity that have come equally far. -/
structure SameStanding (s s' : Session) : Prop where
  identity : s'.identity = s.identity
  stage : s'.stage = s.stage
  dismissed : s'.dismissed = s.dismissed

namespace SameStanding

theorem refl (s : Session) : SameStanding s s :=
  ⟨rfl, rfl, rfl⟩

theorem symm {s s' : Session} (h : SameStanding s s') : SameStanding s' s :=
  ⟨h.identity.symm, h.stage.symm, h.dismissed.symm⟩

theorem trans {s s' s'' : Session} (h : SameStanding s s') (h' : SameStanding s' s'') :
    SameStanding s s'' where
  identity := h'.identity.trans h.identity
  stage := h'.stage.trans h.stage
  dismissed := h'.dismissed.trans h.dismissed

end SameStanding

theorem sameStanding_sendLines (s : Session) (lines : List String) :
    SameStanding s (s.sendLines lines) := by
  obtain ⟨link, h⟩ := sendLines_eq lines s
  rw [h]
  exact ⟨rfl, rfl, rfl⟩

theorem sameStanding_handleLine (p : Persona) (s : Session) (line : String) :
    SameStanding s (s.handleLine p line).1 := by
  unfold handleLine
  split
  · exact .refl s
  · rename_i msg _
    -- the response changes the network and the negotiation, carrying it out the link
    have hr : SameStanding s (s.respond p msg).1 := ⟨rfl, rfl, rfl⟩
    exact hr.trans (sameStanding_sendLines _ _)

theorem sameStanding_handleLines (p : Persona) : ∀ (lines : List String) (s : Session),
    SameStanding s (handleLines p s lines).1
  | [], s => .refl s
  | line :: lines, s =>
      (sameStanding_handleLine p s line).trans (sameStanding_handleLines p lines _)

theorem sameStanding_handleInbox (p : Persona) (s : Session) :
    SameStanding s (s.handleInbox p).1 := by
  have h : SameStanding s { s with inbox := [] } := ⟨rfl, rfl, rfl⟩
  exact h.trans (sameStanding_handleLines p s.inbox _)

theorem sameStanding_say (s : Session) (u : Utterance) (target text : String) :
    SameStanding s (s.say u target text).1 := by
  rcases say_cases s u target text with he | he
  · rw [he]
    exact .refl s
  · rw [he]
    exact ⟨rfl, rfl, rfl⟩

theorem sameStanding_tearDown (s : Session) (reason : Option String) :
    SameStanding s (s.tearDown reason) := by
  unfold tearDown
  split
  · exact .refl s
  · exact ⟨rfl, rfl, rfl⟩

end IrcClient.Session
