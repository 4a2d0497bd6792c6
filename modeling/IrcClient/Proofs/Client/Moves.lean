import IrcClient.Client
import IrcClient.Proofs.Session

/-!
# What can happen to a client

The client is shared by whoever attempts to connect, by the readers of its sessions and by
callers. Each of them takes one step at a time, which nothing can interrupt, and nobody
waits for the others. A `Move` is such a step, and `run` lets moves follow one another in
whatever order; a move that is not due, such as one of an attempt that is over, does nothing.

Most moves matter little to the registry, so what matters is said here once for each:

* `progress?` — the network of an attempt, and how far it has come;
* `standing?` — the network of a session, and whether it is active: it counts as connected,
  and no disconnect has taken it out.

What the client does in one go, such as answering an endpoint or leaving every network, is a
run of moves (`reaches_answered`, `reaches_disconnectAll`), so nothing is lost by looking at
moves only.
-/

namespace IrcClient

namespace Session

/-- Whether the session counts as connected, and no disconnect has taken it out. -/
def isActive (s : Session) : Bool :=
  s.isConnected && !s.dismissed

/-- What callers and the link do to a session. -/
inductive Call where
  | receive (bytes : Bytes)
  | endOfInput
  | flush
  | send (request : Request)
  | say (u : Utterance) (target text : String)
  | setAutoJoin (channel : String) (autoJoin : Bool)

/-- What a call makes of a session, and what it asks for. -/
def call (s : Session) : Call → Session × Effects
  | .receive bytes => (s.receive bytes, .none)
  | .endOfInput => (s.endOfInput, .none)
  | .flush => (s.flush.1, .none)
  | .send request => ((s.send request).1, .none)
  | .say u target text => ((s.say u target text).1, (s.say u target text).2.1)
  | .setAutoJoin channel flag => s.setAutoJoin channel flag

theorem isActive_of_sameStanding {s s' : Session} (h : SameStanding s s') :
    s'.isActive = s.isActive := by
  rw [isActive, isConnected, h.stage, h.dismissed, isActive, isConnected]

theorem sameStanding_call (s : Session) (call : Call) : SameStanding s (s.call call).1 := by
  cases call with
  | receive | endOfInput | flush | send | setAutoJoin => exact ⟨rfl, rfl, rfl⟩
  | say u target text => exact sameStanding_say s u target text

end Session

namespace Client

/-- One step of one party, which nothing can interrupt. -/
inductive Move where
  /-- Somebody wants to connect. -/
  | acquire (identity : Identity)
  /-- An endpoint refuses an attempt, or does not answer in time. -/
  | endpointFails (a : AttemptId) (error : LinkError)
  /-- An attempt is given up, or nothing is left to it. -/
  | dropAttempt (a : AttemptId)
  /-- An endpoint accepts an attempt. -/
  | openSession (a : AttemptId)
  /-- The session of an attempt takes its place. -/
  | install (a : AttemptId)
  /-- A session is announced and begins to read. -/
  | announce (sid : SessionId)
  /-- A disconnect takes the session of a network out of the registry. -/
  | dismiss (network : NetworkId)
  /-- A disconnect tears down what it has taken out. -/
  | tearDown (sid : SessionId) (reason : Option String)
  /-- A session handles what it was sent. -/
  | handleInbox (sid : SessionId)
  /-- Something else is done to a session. -/
  | call (sid : SessionId) (call : Session.Call)
  /-- The lines of a session have come to their end. -/
  | endReading (sid : SessionId)
  /-- The end of a session is reported. -/
  | reportLoss (sid : SessionId)
  /-- A session that has ended leaves the registry. -/
  | release (sid : SessionId)

/-- What a move makes of the client. -/
def move (c : Client) : Move → Client
  | .acquire identity => (c.acquire identity).1
  | .endpointFails a error => c.endpointFails a error
  | .dropAttempt a => c.dropAttempt a
  | .openSession a => c.openSession a
  | .install a => c.install a
  | .announce sid => c.announce sid
  | .dismiss network => (c.dismiss network).1
  | .tearDown sid reason => c.tearDown sid reason
  | .handleInbox sid => c.handleInbox sid
  | .call sid call => c.updateSession sid (·.call call)
  | .endReading sid => c.endReading sid
  | .reportLoss sid => c.reportLoss sid
  | .release sid => c.release sid

/-- Moves one after another. -/
def run (c : Client) (moves : List Move) : Client :=
  moves.foldl move c

/-! ## What matters to the registry -/

/-- The network of an attempt, and how far it has come. -/
def progress? (c : Client) (a : AttemptId) : Option (NetworkId × Phase) :=
  (c.attempt? a).map fun x => (x.identity.id, x.phase)

/-- The network of a session, and whether it is active. -/
def standing? (c : Client) (sid : SessionId) : Option (NetworkId × Bool) :=
  (c.session? sid).map fun s => (s.identity.id, s.isActive)

@[simp] theorem progress?_carryOut (c : Client) (n : NetworkId) (e : Effects) (a : AttemptId) :
    (c.carryOut n e).progress? a = c.progress? a := rfl

@[simp] theorem standing?_carryOut (c : Client) (n : NetworkId) (e : Effects) (sid : SessionId) :
    (c.carryOut n e).standing? sid = c.standing? sid := rfl

@[simp] theorem progress?_unmark (c : Client) (n : NetworkId) (a : AttemptId) :
    (c.unmark n).progress? a = c.progress? a := by
  unfold unmark
  split <;> rfl

theorem carryOut_none (c : Client) (n : NetworkId) : c.carryOut n .none = c := by
  simp [carryOut, Effects.none, Store.attemptAll]

theorem progress?_of_attempt? {c : Client} {a : AttemptId} {x : Attempt}
    (h : c.attempt? a = some x) : c.progress? a = some (x.identity.id, x.phase) := by
  rw [progress?, h, Option.map_some]

theorem standing?_of_session? {c : Client} {sid : SessionId} {s : Session}
    (h : c.session? sid = some s) : c.standing? sid = some (s.identity.id, s.isActive) := by
  rw [standing?, h, Option.map_some]

/-- Setting the record of an attempt that there is changes that one and no other. -/
theorem progress?_setAttempt {c : Client} {a : AttemptId} {x : Attempt}
    (h : c.attempt? a = some x) (y : Attempt) (b : AttemptId) :
    (c.setAttempt a y).progress? b =
      if b = a then some (y.identity.id, y.phase) else c.progress? b := by
  have hlt : a < c.attempts.length := (List.getElem?_eq_some_iff.mp h).1
  unfold progress? attempt? setAttempt
  dsimp only
  by_cases hb : b = a
  · subst hb
    rw [List.getElem?_set_self hlt, if_pos rfl, Option.map_some]
  · rw [List.getElem?_set_ne (Ne.symm hb), if_neg hb]

/-- So it is with sessions. -/
theorem standing?_setSession {c : Client} {sid : SessionId} {s : Session}
    (h : c.session? sid = some s) (s' : Session) (t : SessionId) :
    (c.setSession sid s').standing? t =
      if t = sid then some (s'.identity.id, s'.isActive) else c.standing? t := by
  have hlt : sid < c.sessions.length := (List.getElem?_eq_some_iff.mp h).1
  unfold standing? session? setSession
  dsimp only
  by_cases ht : t = sid
  · subst ht
    rw [List.getElem?_set_self hlt, if_pos rfl, Option.map_some]
  · rw [List.getElem?_set_ne (Ne.symm ht), if_neg ht]

theorem getElem?_concat {α : Type} (l : List α) (x : α) (i : Nat) :
    (l ++ [x])[i]? = if i = l.length then some x else l[i]? := by
  rw [List.getElem?_append, List.getElem?_singleton]
  by_cases hi : i < l.length
  · rw [if_pos hi, if_neg (by omega)]
  · rw [if_neg hi]
    by_cases he : i = l.length
    · rw [if_pos (by omega), if_pos he]
    · rw [if_neg (by omega), if_neg he, List.getElem?_eq_none (by omega)]

/-- A new attempt is the one of the next number. -/
theorem progress?_concat (c : Client) (registry : Table NetworkId Slot) (x : Attempt)
    (a : AttemptId) : progress? { c with registry, attempts := c.attempts ++ [x] } a =
      if a = c.attempts.length then some (x.identity.id, x.phase) else c.progress? a := by
  unfold progress? attempt?
  dsimp only
  rw [getElem?_concat]
  split <;> rfl

/-- So is a new session. -/
theorem standing?_concat (c : Client) (s : Session) (sid : SessionId) :
    standing? { c with sessions := c.sessions ++ [s] } sid =
      if sid = c.sessions.length then some (s.identity.id, s.isActive)
      else c.standing? sid := by
  unfold standing? session?
  dsimp only
  rw [getElem?_concat]
  split <;> rfl

/-- A change of a session that there is not changes nothing. -/
theorem updateSession_none {c : Client} {sid : SessionId} (h : c.session? sid = none)
    (f : Session → Session × Effects) : c.updateSession sid f = c := by
  unfold updateSession withSession
  rw [h]

theorem updateSession_some {c : Client} {sid : SessionId} {s : Session}
    (h : c.session? sid = some s) (f : Session → Session × Effects) :
    c.updateSession sid f =
      (c.setSession sid (f s).1).carryOut (f s).1.identity.id (f s).2 := by
  unfold updateSession withSession
  rw [h]

@[simp] theorem registry_updateSession (c : Client) (sid : SessionId)
    (f : Session → Session × Effects) : (c.updateSession sid f).registry = c.registry := by
  cases h : c.session? sid with
  | none => rw [updateSession_none h]
  | some s => rw [updateSession_some h]; rfl

@[simp] theorem attempt?_updateSession (c : Client) (sid : SessionId)
    (f : Session → Session × Effects) (a : AttemptId) :
    (c.updateSession sid f).attempt? a = c.attempt? a := by
  cases h : c.session? sid with
  | none => rw [updateSession_none h]
  | some s => rw [updateSession_some h]; rfl

@[simp] theorem progress?_updateSession (c : Client) (sid : SessionId)
    (f : Session → Session × Effects) (a : AttemptId) :
    (c.updateSession sid f).progress? a = c.progress? a := by
  rw [progress?, attempt?_updateSession, progress?]

/-- An attempt may be set behind a change of a session. -/
theorem progress?_setAttempt_updateSession {c : Client} {a : AttemptId} {x : Attempt}
    (h : c.attempt? a = some x) (sid : SessionId) (f : Session → Session × Effects)
    (y : Attempt) (b : AttemptId) :
    ((c.updateSession sid f).setAttempt a y).progress? b =
      if b = a then some (y.identity.id, y.phase) else c.progress? b := by
  rw [progress?_setAttempt (by rw [attempt?_updateSession, h]), progress?_updateSession]

theorem standing?_updateSession (c : Client) (sid : SessionId)
    (f : Session → Session × Effects) (t : SessionId) :
    (c.updateSession sid f).standing? t =
      if t = sid then (c.session? sid).map fun s => ((f s).1.identity.id, (f s).1.isActive)
      else c.standing? t := by
  cases h : c.session? sid with
  | none =>
    rw [updateSession_none h]
    split
    · rename_i ht
      rw [ht, standing?, h, Option.map_none, Option.map_none]
    · rfl
  | some s => rw [updateSession_some h, standing?_carryOut, standing?_setSession h, Option.map_some]

/-! ## What a move can do

Each of these moves changes nothing, or it was due and changes what is said here.
-/

theorem acquire_cases (c : Client) (identity : Identity) :
    (c.acquire identity).1 = c ∨ c.obstacle? identity.id = none ∧
      (c.acquire identity).1 = { c with
        registry := c.registry.insert identity.id .connecting
        attempts := c.attempts ++ [.new identity] } := by
  unfold acquire
  split
  · exact .inl rfl
  · rename_i h
    exact .inr ⟨h, rfl⟩

theorem endpointFails_cases (c : Client) (a : AttemptId) (error : LinkError) :
    c.endpointFails a error = c ∨ ∃ x y e, c.attempt? a = some x ∧
      y.identity = x.identity ∧ y.phase = x.phase ∧
      c.endpointFails a error = (c.setAttempt a y).carryOut x.identity.id e := by
  unfold endpointFails
  split
  · rename_i rest _ h
    dsimp only
    exact .inr ⟨_, { identity := _, remaining := rest, lastError := some error }, _, h, rfl, rfl,
      rfl⟩
  · exact .inl rfl

theorem dropAttempt_cases (c : Client) (a : AttemptId) :
    c.dropAttempt a = c ∨ ∃ x, c.attempt? a = some x ∧ x.phase = .trying ∧
      c.dropAttempt a = (c.setAttempt a { x with phase := .ended }).unmark x.identity.id := by
  unfold dropAttempt
  split
  · rename_i h
    exact .inr ⟨_, h, rfl, rfl⟩
  · exact .inl rfl

theorem openSession_cases (c : Client) (a : AttemptId) :
    c.openSession a = c ∨ ∃ x e records, c.attempt? a = some x ∧ x.phase = .trying ∧
      c.openSession a = { c.setAttempt a { x with phase := .binding c.sessions.length } with
        sessions := c.sessions ++ [.start x.identity e records c.nonce] } := by
  unfold openSession
  split
  · rename_i h
    exact .inr ⟨_, _, _, h, rfl, rfl⟩
  · exact .inl rfl

theorem install_cases (c : Client) (a : AttemptId) :
    c.install a = c ∨ ∃ x sid, c.attempt? a = some x ∧ x.phase = .binding sid ∧
      c.install a =
        { (c.updateSession sid fun s => ({ s with stage := .installed }, .none)).setAttempt a
            { x with phase := .bound sid } with
          registry := c.registry.insert x.identity.id (.live sid) } := by
  unfold install
  split
  · rename_i h
    refine .inr ⟨_, _, h, rfl, ?_⟩
    dsimp only
    rw [registry_updateSession]
  · exact .inl rfl

theorem dismiss_cases (c : Client) (n : NetworkId) :
    (∃ e, c.dismiss n = (c, .error e)) ∨ ∃ sid, c.registry.get? n = some (.live sid) ∧
      c.dismiss n =
        ({ c.updateSession sid fun s => ({ s with dismissed := true }, .none) with
            registry := c.registry.erase n }, .ok sid) := by
  unfold dismiss
  split
  · exact .inl ⟨_, rfl⟩
  · exact .inl ⟨_, rfl⟩
  · rename_i sid h
    refine .inr ⟨sid, h, ?_⟩
    dsimp only
    rw [registry_updateSession]

theorem release_cases (c : Client) (sid : SessionId) :
    c.release sid = c ∨ ∃ s, c.session? sid = some s ∧ s.stage = .reported ∧
      c.release sid =
        if c.find? s.identity.id = some sid then
          { c.setSession sid { s with stage := .gone } with
            registry := c.registry.erase s.identity.id }
        else c.setSession sid { s with stage := .gone } := by
  unfold release
  split
  · rename_i h
    exact .inr ⟨_, h, rfl, rfl⟩
  · exact .inl rfl

theorem find?_eq_some_iff {c : Client} {n : NetworkId} {sid : SessionId} :
    c.find? n = some sid ↔ c.registry.get? n = some (.live sid) := by
  unfold find?
  split
  · rename_i h
    rw [h, Option.some.injEq, Option.some.injEq, Slot.live.injEq]
  · rename_i h
    constructor
    · intro hc
      exact absurd hc (by simp)
    · intro hc
      exact absurd hc (h sid)

/-! ## Operations as runs -/

/-- Some run of moves leads from the one client to the other. -/
def Reaches (c c' : Client) : Prop :=
  ∃ moves, c.run moves = c'

theorem Reaches.refl (c : Client) : Reaches c c :=
  ⟨[], rfl⟩

theorem Reaches.trans {c c' c'' : Client} (h : Reaches c c') (h' : Reaches c' c'') :
    Reaches c c'' := by
  obtain ⟨moves, rfl⟩ := h
  obtain ⟨moves', rfl⟩ := h'
  exact ⟨moves ++ moves', List.foldl_append ..⟩

theorem reaches_move (c : Client) (m : Move) : Reaches c (c.move m) :=
  ⟨[m], rfl⟩

theorem reaches_accept (c : Client) (a : AttemptId) : Reaches c (c.accept a) := by
  have h : Reaches c ((c.openSession a).install a) :=
    ⟨[.openSession a, .install a], rfl⟩
  unfold accept
  dsimp only
  split
  · exact h.trans (reaches_move _ (.announce _))
  · exact h

theorem reaches_answered (c : Client) (a : AttemptId) (r : Except LinkError Unit) :
    Reaches c (c.answered a r) := by
  cases r with
  | ok => exact reaches_accept c a
  | error e =>
    have h : Reaches c (c.endpointFails a e) := reaches_move c (.endpointFails a e)
    unfold answered
    dsimp only
    split
    · exact h
    · exact h.trans (reaches_move _ (.dropAttempt a))

theorem reaches_finishSession (c : Client) (sid : SessionId) : Reaches c (c.finishSession sid) :=
  ⟨[.endReading sid, .reportLoss sid, .release sid], rfl⟩

theorem reaches_disconnect (c : Client) (n : NetworkId) (reason : Option String) :
    Reaches c (c.disconnect n reason).1 := by
  have h : Reaches c (c.dismiss n).1 := reaches_move c (.dismiss n)
  unfold disconnect
  split
  · rename_i he
    rwa [he] at h
  · rename_i sid he
    rw [he] at h
    exact h.trans (reaches_move _ (.tearDown sid reason))

theorem reaches_disconnectAll (c : Client) (reason : Option String) :
    Reaches c (c.disconnectAll reason) := by
  unfold disconnectAll
  generalize c.liveNetworks = networks
  induction networks generalizing c with
  | nil => exact .refl c
  | cons n networks ih => exact (reaches_disconnect c n reason).trans (ih _)

end Client

end IrcClient
