import IrcClient.Proofs.Client.Moves

/-!
# The store does not interfere

Any write may fail, for whatever reason, and nobody waits to hear of it. So a store that fails
must not be noticed but by those who read it: what a session knows, what it sends, what it answers
its callers and what it tells the bus is the same whichever writes fail
(`storage_does_not_interfere`).

A schedule says of each write whether it fails (`Faults`), and a client may run under any
(`runUnder`). While a session lasts others may come and go, and a session that is opened does read
the store, so the others may go different ways in two runs. What they cannot differ in is where
they stand, and that is all that one session can see of another (`Alike`).
-/

namespace IrcClient

/-! ## Writes that fail -/

/-- Whether a write fails, for each one in the order in which they are tried. -/
abbrev Faults := Nat → Bool

/-- No write fails. -/
def Faults.never : Faults := fun _ => false

/-- Every write fails. -/
def Faults.always : Faults := fun _ => true

/-- What is left of a schedule after some writes. -/
def Faults.after (faults : Faults) (writes : Nat) : Faults :=
  fun k => faults (writes + k)

/-- Tries writes one after another. One that fails has no consequence, and nor has one that the
store refuses of itself. -/
def Store.attemptUnder (network : NetworkId) : Faults → Store → List Write → Store
  | _, s, [] => s
  | faults, s, w :: ws =>
    attemptUnder network (faults.after 1) (if faults 0 then s else s.attempt network w) ws

/-- Where nothing fails, the store does what it can. -/
theorem Store.attemptUnder_never (network : NetworkId) : ∀ (ws : List Write) (s : Store),
    attemptUnder network .never s ws = s.attemptAll network ws
  | [], _ => rfl
  | w :: ws, s => attemptUnder_never network ws (s.attempt network w)

/-! ## What callers are told -/

/-- The answer to a call, if the caller gets one. -/
def Session.reply? (s : Session) : Session.Call → Option (Except LinkError Unit)
  | .send request => some (s.send request).2
  | .say u target text => some (s.say u target text).2.2
  | .receive _ | .endOfInput | .flush | .setAutoJoin .. => none

namespace Client

/-! ## What occurs -/

/-- What can occur in a client. -/
inductive Occurrence where
  /-- A session handles one line. -/
  | line (sid : SessionId) (line : String)
  | move (m : Move)

/-- What is done to a session, and by it, where that is all that occurs. -/
def Occurrence.deed? (p : Persona) :
    Occurrence → Option (SessionId × (Session → Session × Effects))
  | .line sid text => some (sid, fun s =>
      if s.stage = .reading then s.handleLine p text else (s, .none))
  | .move (.announce sid) => some (sid, fun s =>
      if s.stage = .installed then ({ s with stage := .reading }, s.announcement) else (s, .none))
  | .move (.tearDown sid reason) => some (sid, fun s => (s.tearDown reason, .none))
  | .move (.handleInbox sid) => some (sid, fun s =>
      if s.stage = .reading then s.handleInbox p else (s, .none))
  | .move (.call sid call) => some (sid, (·.call call))
  | .move (.endReading sid) => some (sid, fun s =>
      if s.stage = .reading then ({ s with stage := .lost, link := s.link.close }, .none)
      else (s, .none))
  | .move (.reportLoss sid) => some (sid, fun s =>
      if s.stage = .lost then ({ s with stage := .reported }, s.lossReport) else (s, .none))
  | .move (.acquire _) | .move (.endpointFails ..) | .move (.dropAttempt _)
  | .move (.openSession _) | .move (.install _) | .move (.dismiss _) | .move (.release _) => none

/-- A session handles one line, if it is reading. -/
def handleLine (c : Client) (sid : SessionId) (line : String) : Client :=
  c.updateSession sid fun s =>
    if s.stage = .reading then s.handleLine c.persona line else (s, .none)

/-- What becomes of the client if no write fails. -/
def occur (c : Client) : Occurrence → Client
  | .line sid line => c.handleLine sid line
  | .move m => c.move m

/-- What is asked for by what is done to a session, and for which network. -/
def asksOf (c : Client) (sid : SessionId) (f : Session → Session × Effects) :
    NetworkId × Effects :=
  match c.session? sid with
  | some s => ((f s).1.identity.id, (f s).2)
  | none => (0, .none)

/-- What anything else asks for: that an endpoint has failed is written down. -/
def asksAside (c : Client) : Occurrence → NetworkId × Effects
  | .move (.endpointFails a error) =>
    match c.attempt? a with
    | some { identity, phase := .trying, remaining := e :: _, .. } =>
      (identity.id, ⟨[.line (.status identity.id
        ("Could not connect to " ++ e.text ++ ": " ++ error.message))], []⟩)
    | _ => (0, .none)
  | _ => (0, .none)

/-- What an occurrence asks for. -/
def asks (c : Client) (o : Occurrence) : NetworkId × Effects :=
  match o.deed? c.persona with
  | some deed => c.asksOf deed.1 deed.2
  | none => c.asksAside o

/-- What becomes of the client if writes fail by a schedule. -/
def occurUnder (c : Client) (faults : Faults) (o : Occurrence) : Client :=
  { c.occur o with store := .attemptUnder (c.asks o).1 faults c.store (c.asks o).2.writes }

theorem occur_of_deed? {c : Client} {o : Occurrence} {sid : SessionId}
    {f : Session → Session × Effects} (h : o.deed? c.persona = some (sid, f)) :
    c.occur o = c.updateSession sid f := by
  cases o with
  | line t text =>
      cases h
      rfl
  | move m => cases m <;> cases h <;> rfl

theorem asks_of_deed? {c : Client} {o : Occurrence}
    {deed : SessionId × (Session → Session × Effects)} (h : o.deed? c.persona = some deed) :
    c.asks o = c.asksOf deed.1 deed.2 := by
  rw [asks, h]

/-- Whether a client is as it would be if just this had been asked for. -/
def CarriesOut (c c' : Client) (asked : NetworkId × Effects) : Prop :=
  c'.store = c.store.attemptAll asked.1 asked.2.writes ∧
    c'.published = c.published ++ asked.2.events

theorem CarriesOut.nothing {c c' : Client} (hs : c'.store = c.store)
    (hp : c'.published = c.published) : c.CarriesOut c' (0, .none) :=
  ⟨hs, hp.trans (List.append_nil _).symm⟩

theorem carriesOut_updateSession (c : Client) (sid : SessionId)
    (f : Session → Session × Effects) :
    c.CarriesOut (c.updateSession sid f) (c.asksOf sid f) := by
  unfold asksOf
  cases h : c.session? sid with
  | none =>
      rw [updateSession_none h]
      exact .nothing rfl rfl
  | some s =>
      rw [updateSession_some h]
      exact ⟨rfl, rfl⟩

/-- Neither the store nor the bus has anything to show for what came between. -/
def SameTraces (c c' : Client) : Prop := c'.store = c.store ∧ c'.published = c.published

theorem sameTraces_refl (c : Client) : c.SameTraces c := ⟨rfl, rfl⟩

theorem sameTraces_updateSession (c : Client) (sid : SessionId) (g : Session → Session) :
    c.SameTraces (c.updateSession sid fun s => (g s, .none)) := by
  cases hs : c.session? sid with
  | none =>
      rw [updateSession_none hs]
      exact c.sameTraces_refl
  | some s =>
      rw [updateSession_some hs]
      exact ⟨rfl, List.append_nil _⟩

/-- A move that is no deed of a session leaves no trace, but where an endpoint fails. -/
theorem sameTraces_move (c : Client) {m : Move}
    (h : (Occurrence.move m).deed? c.persona = none)
    (hfails : ∀ a error, m ≠ .endpointFails a error) : c.SameTraces (c.move m) := by
  cases m with
  | announce | tearDown | handleInbox | call | endReading | reportLoss => cases h
  | endpointFails a error => exact absurd rfl (hfails a error)
  | acquire identity =>
      show c.SameTraces (c.acquire identity).1
      unfold acquire
      split <;> exact ⟨rfl, rfl⟩
  | dropAttempt a =>
      show c.SameTraces (c.dropAttempt a)
      unfold dropAttempt unmark
      split
      · split <;> exact ⟨rfl, rfl⟩
      · exact c.sameTraces_refl
  | openSession a =>
      show c.SameTraces (c.openSession a)
      unfold openSession
      split <;> exact ⟨rfl, rfl⟩
  | install a =>
      show c.SameTraces (c.install a)
      unfold install
      split
      · exact c.sameTraces_updateSession _ fun s => { s with stage := .installed }
      · exact c.sameTraces_refl
  | dismiss n =>
      show c.SameTraces (c.dismiss n).1
      rcases c.dismiss_cases n with ⟨e, he⟩ | ⟨sid, -, he⟩ <;> rw [he]
      · exact c.sameTraces_refl
      · exact c.sameTraces_updateSession sid fun s => { s with dismissed := true }
  | release sid =>
      show c.SameTraces (c.release sid)
      rcases c.release_cases sid with he | ⟨s, -, -, he⟩ <;> rw [he]
      · exact c.sameTraces_refl
      · split <;> exact ⟨rfl, rfl⟩

/-- What is written down of an endpoint that fails is all that is asked for aside from sessions. -/
theorem carriesOut_aside (c : Client) {o : Occurrence} (h : o.deed? c.persona = none) :
    c.CarriesOut (c.occur o) (c.asksAside o) := by
  cases o with
  | line sid text => cases h
  | move m =>
      cases m with
      | announce | tearDown | handleInbox | call | endReading | reportLoss => cases h
      | acquire | dropAttempt | openSession | install | dismiss | release =>
          obtain ⟨hstore, hpublished⟩ := c.sameTraces_move h nofun
          exact .nothing hstore hpublished
      | endpointFails a error =>
          show c.CarriesOut (c.endpointFails a error) _
          unfold endpointFails asksAside
          dsimp only
          split
          · rename_i h
            rw [h]
            exact ⟨rfl, rfl⟩
          · -- the line in the store hangs on the same look at the attempt
            rename_i hnot
            split
            · rename_i h
              exact absurd h (hnot _ _ _ _)
            · exact .nothing rfl rfl

/-- What is asked for is what is written and published. -/
theorem carriesOut_occur (c : Client) (o : Occurrence) :
    c.CarriesOut (c.occur o) (c.asks o) := by
  cases h : o.deed? c.persona with
  | none =>
      rw [asks, h]
      exact carriesOut_aside c h
  | some deed =>
      rw [occur_of_deed? h, asks_of_deed? h]
      exact carriesOut_updateSession c deed.1 deed.2

/-- Where nothing fails, the client does what it does. -/
theorem occurUnder_never (c : Client) (o : Occurrence) : c.occurUnder .never o = c.occur o := by
  rw [occurUnder, Store.attemptUnder_never, ← (carriesOut_occur c o).1]

/-- Whatever fails, what is published is what was asked for. -/
theorem published_occurUnder (c : Client) (faults : Faults) (o : Occurrence) :
    (c.occurUnder faults o).published.drop c.published.length = (c.asks o).2.events := by
  show (c.occur o).published.drop c.published.length = _
  rw [(carriesOut_occur c o).2, List.drop_left]

/-! ## What a session is seen to do -/

/-- What can be seen of a session when something occurs. -/
structure Observation where
  /-- The session afterwards: what it knows of its network, what is queued, all of it. -/
  session : Option Session
  /-- The answer, where somebody has called the session. -/
  reply : Option (Except LinkError Unit)
  /-- What the session has published. -/
  events : List Event

/-- The answer that an occurrence gives to a caller of a session. -/
def reply? (c : Client) (sid : SessionId) : Occurrence → Option (Except LinkError Unit)
  | .move (.call t call) => if t = sid then (c.session? sid).bind (·.reply? call) else none
  | _ => none

/-- What an occurrence has published, if it is something that a session does. -/
def publishedBy (c : Client) (sid : SessionId) (faults : Faults) (o : Occurrence) : List Event :=
  match o.deed? c.persona with
  | some deed =>
    if deed.1 = sid then (c.occurUnder faults o).published.drop c.published.length else []
  | none => []

/-- What is seen of a session when something occurs. -/
def observe (c : Client) (sid : SessionId) (faults : Faults) (o : Occurrence) : Observation where
  session := (c.occurUnder faults o).session? sid
  reply := c.reply? sid o
  events := c.publishedBy sid faults o

/-- One thing after another, while writes fail by a schedule, and what is seen of a session. -/
def runUnder (sid : SessionId) : Client → Faults → List Occurrence → Client × List Observation
  | c, _, [] => (c, [])
  | c, faults, o :: os =>
    let left := faults.after (c.asks o).2.writes.length
    let (c', seen) := runUnder sid (c.occurUnder faults o) left os
    (c', c.observe sid faults o :: seen)

/-- A session leaves the registry if its end was reported, and it still stands there. -/
theorem release_of_session? {c : Client} {sid : SessionId} {s : Session}
    (h : c.session? sid = some s) : c.release sid =
      if s.stage = .reported then
        if c.find? s.identity.id = some sid then
          { c.setSession sid { s with stage := .gone } with
            registry := c.registry.erase s.identity.id }
        else c.setSession sid { s with stage := .gone }
      else c := by
  unfold release
  rw [h]
  obtain ⟨identity, endpoint, link, network, negotiator, inbox, stage, dismissed, tornDown⟩ := s
  cases stage <;> rfl

/-! ## What may differ in two runs -/

/-- Whether two clients differ in nothing but what is stored and published, and in what sessions
from a number on know and send. -/
structure Alike (n : SessionId) (c c' : Client) : Prop where
  settings : c'.settings = c.settings
  date : c'.date = c.date
  nonce : c'.nonce = c.nonce
  registry : c'.registry = c.registry
  attempts : c'.attempts = c.attempts
  count : c'.sessions.length = c.sessions.length
  early : n ≤ c.sessions.length
  sessions : ∀ t, (c.session? t = none ∧ c'.session? t = none) ∨
    ∃ s s', c.session? t = some s ∧ c'.session? t = some s' ∧ s.SameStanding s' ∧
      (t < n → s' = s)

namespace Alike

variable {n : SessionId} {c c' : Client}

/-- The store may be anything. -/
theorem of_store (c : Client) (store : Store) :
    Alike c.sessions.length c { c with store } := by
  refine ⟨rfl, rfl, rfl, rfl, rfl, rfl, Nat.le_refl _, ?_⟩
  intro t
  cases h : c.session? t with
  | none => exact .inl ⟨rfl, h⟩
  | some s => exact .inr ⟨s, s, rfl, h, .refl s, fun _ => rfl⟩

theorem persona (h : Alike n c c') : c'.persona = c.persona := by
  rw [Client.persona, h.settings, h.date, Client.persona]

theorem attempt? (h : Alike n c c') (a : AttemptId) : c'.attempt? a = c.attempt? a := by
  rw [Client.attempt?, h.attempts, Client.attempt?]

theorem session? (h : Alike n c c') {sid : SessionId} (hs : sid < n) :
    c'.session? sid = c.session? sid := by
  rcases h.sessions sid with ⟨hc, hc'⟩ | ⟨s, s', hc, hc', -, heq⟩
  · rw [hc, hc']
  · rw [hc, hc', heq hs]

/-- How far sessions have come is the same, and so is what stands in the way of an attempt. -/
theorem isConnected (h : Alike n c c') (sid : SessionId) :
    c'.isConnected sid = c.isConnected sid := by
  unfold Client.isConnected
  rcases h.sessions sid with ⟨hc, hc'⟩ | ⟨s, s', hc, hc', hstanding, -⟩
  · rw [hc, hc']
  · rw [hc, hc', Option.any_some, Option.any_some, Session.isConnected, hstanding.stage,
      Session.isConnected]

theorem obstacle? (h : Alike n c c') (network : NetworkId) :
    c'.obstacle? network = c.obstacle? network := by
  unfold Client.obstacle?
  rw [h.registry]
  split
  · rfl
  · rw [h.isConnected]
  · rfl

/-- The same may become of the registry. -/
theorem setRegistry (h : Alike n c c') (registry : Table NetworkId Slot) :
    Alike n { c with registry } { c' with registry } :=
  ⟨h.settings, h.date, h.nonce, rfl, h.attempts, h.count, h.early, h.sessions⟩

/-- So may of an attempt. -/
theorem setAttempt (h : Alike n c c') (a : AttemptId) (x : Attempt) :
    Alike n (c.setAttempt a x) (c'.setAttempt a x) := by
  refine ⟨h.settings, h.date, h.nonce, h.registry, ?_, h.count, h.early, h.sessions⟩
  show c'.attempts.set a x = c.attempts.set a x
  rw [h.attempts]

/-- Whatever may be written and published. -/
theorem carryOut (h : Alike n c c') (network network' : NetworkId) (e e' : Effects) :
    Alike n (c.carryOut network e) (c'.carryOut network' e') :=
  ⟨h.settings, h.date, h.nonce, h.registry, h.attempts, h.count, h.early, h.sessions⟩

/-- A session is set in the one client and in the other. -/
theorem setSession (h : Alike n c c') {sid : SessionId} {s s' : Session}
    (hc : (c.session? sid).isSome = true) (hs : s.SameStanding s') (heq : sid < n → s' = s) :
    Alike n (c.setSession sid s) (c'.setSession sid s') := by
  have hlt : sid < c.sessions.length := by
    obtain ⟨x, hx⟩ := Option.isSome_iff_exists.mp hc
    exact (List.getElem?_eq_some_iff.mp hx).1
  have hlt' : sid < c'.sessions.length := by
    rw [h.count]
    exact hlt
  refine ⟨h.settings, h.date, h.nonce, h.registry, h.attempts, ?_, ?_, ?_⟩
  · show (c'.sessions.set sid s').length = (c.sessions.set sid s).length
    rw [List.length_set, List.length_set, h.count]
  · show n ≤ (c.sessions.set sid s).length
    rw [List.length_set]
    exact h.early
  · intro t
    unfold Client.setSession Client.session?
    dsimp only
    by_cases ht : t = sid
    · rw [ht, List.getElem?_set_self hlt, List.getElem?_set_self hlt']
      exact .inr ⟨s, s', rfl, rfl, hs, heq⟩
    · rw [List.getElem?_set_ne (Ne.symm ht), List.getElem?_set_ne (Ne.symm ht)]
      exact h.sessions t

/-- What is done to a session, and leaves those alike that stand alike, keeps clients alike. -/
theorem updateSession (h : Alike n c c') (sid : SessionId) (f : Session → Session × Effects)
    (hf : ∀ s s', s.SameStanding s' → (f s).1.SameStanding (f s').1) :
    Alike n (c.updateSession sid f) (c'.updateSession sid f) := by
  rcases h.sessions sid with ⟨hc, hc'⟩ | ⟨s, s', hc, hc', hstanding, heq⟩
  · rw [updateSession_none hc, updateSession_none hc']
    exact h
  · rw [updateSession_some hc, updateSession_some hc']
    have hset : Alike n (c.setSession sid (f s).1) (c'.setSession sid (f s').1) := by
      refine h.setSession (by rw [hc]; rfl) (hf s s' hstanding) ?_
      intro hlt
      rw [heq hlt]
    exact hset.carryOut _ _ _ _

/-- A session is opened in the one client and in the other. -/
theorem concat (h : Alike n c c') {s s' : Session} (hs : s.SameStanding s') :
    Alike n { c with sessions := c.sessions ++ [s] }
      { c' with sessions := c'.sessions ++ [s'] } := by
  refine ⟨h.settings, h.date, h.nonce, h.registry, h.attempts, ?_, ?_, ?_⟩
  · show (c'.sessions ++ [s']).length = (c.sessions ++ [s]).length
    rw [List.length_append, List.length_append, h.count]
    rfl
  · show n ≤ (c.sessions ++ [s]).length
    rw [List.length_append]
    exact Nat.le_add_right_of_le h.early
  · intro t
    unfold Client.session?
    dsimp only
    rw [getElem?_concat, getElem?_concat, h.count]
    by_cases ht : t = c.sessions.length
    · rw [if_pos ht, if_pos ht]
      refine .inr ⟨s, s', rfl, rfl, hs, ?_⟩
      intro hlt
      rw [ht] at hlt
      exact absurd hlt (Nat.not_lt.mpr h.early)
    · rw [if_neg ht, if_neg ht]
      exact h.sessions t

/-! ## Whatever occurs -/

theorem acquire (h : Alike n c c') (identity : Identity) :
    Alike n (c.acquire identity).1 (c'.acquire identity).1 := by
  unfold Client.acquire
  rw [h.obstacle?]
  split
  · exact h
  · refine ⟨h.settings, h.date, h.nonce, ?_, ?_, h.count, h.early, h.sessions⟩
    · show c'.registry.insert _ _ = c.registry.insert _ _
      rw [h.registry]
    · show c'.attempts ++ _ = c.attempts ++ _
      rw [h.attempts]

theorem endpointFails (h : Alike n c c') (a : AttemptId) (error : LinkError) :
    Alike n (c.endpointFails a error) (c'.endpointFails a error) := by
  unfold Client.endpointFails
  rw [h.attempt?]
  split
  · exact (h.setAttempt a _).carryOut _ _ _ _
  · exact h

theorem dropAttempt (h : Alike n c c') (a : AttemptId) :
    Alike n (c.dropAttempt a) (c'.dropAttempt a) := by
  unfold Client.dropAttempt
  rw [h.attempt?]
  split
  · rename_i identity remaining lastError _
    have hset := h.setAttempt a ⟨identity, remaining, lastError, .ended⟩
    unfold unmark
    rw [hset.registry]
    split
    · exact hset.setRegistry _
    · exact hset
  · exact h

/-- Sessions that are opened from different records stand alike all the same. -/
theorem openSession (h : Alike n c c') (a : AttemptId) :
    Alike n (c.openSession a) (c'.openSession a) := by
  have hstart : ∀ identity endpoint records records',
      (Session.start identity endpoint records c.nonce).SameStanding
        (Session.start identity endpoint records' c'.nonce) := by
    intro identity endpoint records records'
    obtain ⟨link, hs⟩ := Session.start_eq identity endpoint records c.nonce
    obtain ⟨link', hs'⟩ := Session.start_eq identity endpoint records' c'.nonce
    rw [hs, hs']
    exact ⟨rfl, rfl, rfl⟩
  unfold Client.openSession
  rw [h.attempt?]
  split
  · dsimp only
    rw [h.count]
    exact (h.setAttempt a _).concat (hstart _ _ _ _)
  · exact h

theorem install (h : Alike n c c') (a : AttemptId) :
    Alike n (c.install a) (c'.install a) := by
  unfold Client.install
  rw [h.attempt?]
  split
  · rename_i sid _
    have hstage := h.updateSession sid (fun s => ({ s with stage := .installed }, .none))
      fun s s' hs => ⟨hs.identity, rfl, hs.dismissed⟩
    dsimp only
    rw [hstage.registry]
    exact (hstage.setAttempt a _).setRegistry _
  · exact h

theorem dismiss (h : Alike n c c') (network : NetworkId) :
    Alike n (c.dismiss network).1 (c'.dismiss network).1 := by
  unfold Client.dismiss
  rw [h.registry]
  split
  · exact h
  · exact h
  · rename_i sid _
    have hset := h.updateSession sid (fun s => ({ s with dismissed := true }, .none))
      fun s s' hs => ⟨hs.identity, hs.stage, rfl⟩
    dsimp only
    rw [hset.registry]
    exact hset.setRegistry _

theorem release (h : Alike n c c') (sid : SessionId) :
    Alike n (c.release sid) (c'.release sid) := by
  rcases h.sessions sid with ⟨hc, hc'⟩ | ⟨s, s', hc, hc', hstanding, heq⟩
  · unfold Client.release
    rw [hc, hc']
    exact h
  · have hfind : c'.find? s'.identity.id = c.find? s.identity.id := by
      rw [Client.find?, h.registry, hstanding.identity, Client.find?]
    have hregistry : c'.registry.erase s'.identity.id = c.registry.erase s.identity.id := by
      rw [h.registry, hstanding.identity]
    have hset : Alike n (c.setSession sid { s with stage := .gone })
        (c'.setSession sid { s' with stage := .gone }) := by
      refine h.setSession (by rw [hc]; rfl) ⟨hstanding.identity, rfl, hstanding.dismissed⟩ ?_
      intro hlt
      rw [heq hlt]
    rw [release_of_session? hc, release_of_session? hc', hstanding.stage, hfind, hregistry]
    split
    · split
      · exact hset.setRegistry _
      · exact hset
    · exact h

end Alike

/-- Where a session stands after a deed depends on where it stood, and on nothing else. -/
theorem sameStanding_deed {p : Persona} {o : Occurrence} {sid : SessionId}
    {f : Session → Session × Effects} (h : o.deed? p = some (sid, f)) {s s' : Session}
    (hs : s.SameStanding s') : (f s).1.SameStanding (f s').1 := by
  -- most of what is done to a session leaves it where it stands
  have hkeeps : ∀ g : Session → Session × Effects, (∀ s, Session.SameStanding s (g s).1) →
      (g s).1.SameStanding (g s').1 := by
    intro g hg
    exact ((hg s).symm.trans hs).trans (hg s')
  -- and whether anything is done depends on how far the session has come
  have hif : ∀ (stage : Stage) (g : Session → Session × Effects),
      (g s).1.SameStanding (g s').1 →
      (if s.stage = stage then g s else (s, .none)).1.SameStanding
        (if s'.stage = stage then g s' else (s', .none)).1 := by
    intro stage g hg
    rw [hs.stage]
    split
    · exact hg
    · exact hs
  cases o with
  | line t text =>
      cases h
      exact hif .reading (·.handleLine p text)
        (hkeeps _ fun s => Session.sameStanding_handleLine p s text)
  | move m =>
      cases m with
      | acquire | endpointFails | dropAttempt | openSession | install | dismiss | release =>
          cases h
      | call t call =>
          cases h
          exact hkeeps _ fun s => Session.sameStanding_call s call
      | tearDown t reason =>
          cases h
          exact hkeeps (fun s => (s.tearDown reason, .none)) fun s =>
            Session.sameStanding_tearDown s reason
      | handleInbox t =>
          cases h
          exact hif .reading (·.handleInbox p)
            (hkeeps _ fun s => Session.sameStanding_handleInbox p s)
      | announce t =>
          cases h
          exact hif .installed (fun s => ({ s with stage := .reading }, s.announcement))
            ⟨hs.identity, rfl, hs.dismissed⟩
      | endReading t =>
          cases h
          exact hif .reading (fun s => ({ s with stage := .lost, link := s.link.close }, .none))
            ⟨hs.identity, rfl, hs.dismissed⟩
      | reportLoss t =>
          cases h
          exact hif .lost (fun s => ({ s with stage := .reported }, s.lossReport))
            ⟨hs.identity, rfl, hs.dismissed⟩

variable {n : SessionId} {c c' : Client}

/-- **Whatever occurs, and whichever writes fail**, clients that are alike stay so. -/
theorem alike_occurUnder (h : Alike n c c') (faults faults' : Faults) (o : Occurrence) :
    Alike n (c.occurUnder faults o) (c'.occurUnder faults' o) := by
  have hoccur : Alike n (c.occur o) (c'.occur o) := by
    cases hdeed : o.deed? c.persona with
    | some deed =>
        have hdeed' : o.deed? c'.persona = some deed := by
          rw [h.persona]
          exact hdeed
        rw [occur_of_deed? hdeed, occur_of_deed? hdeed']
        exact h.updateSession deed.1 deed.2 fun s s' hs => sameStanding_deed hdeed hs
    | none =>
        cases o with
        | line sid text => cases hdeed
        | move m =>
            cases m with
            | announce | tearDown | handleInbox | call | endReading | reportLoss => cases hdeed
            | acquire identity => exact h.acquire identity
            | endpointFails a error => exact h.endpointFails a error
            | dropAttempt a => exact h.dropAttempt a
            | openSession a => exact h.openSession a
            | install a => exact h.install a
            | dismiss network => exact h.dismiss network
            | release sid => exact h.release sid
  exact ⟨hoccur.settings, hoccur.date, hoccur.nonce, hoccur.registry, hoccur.attempts,
    hoccur.count, hoccur.early, hoccur.sessions⟩

/-- What is seen of an early session is the same in clients that are alike. -/
theorem Alike.observe (h : Alike n c c') {sid : SessionId} (hsid : sid < n)
    (faults faults' : Faults) (o : Occurrence) :
    c'.observe sid faults' o = c.observe sid faults o := by
  have hsession := (alike_occurUnder h faults faults' o).session? hsid
  have hreply : c'.reply? sid o = c.reply? sid o := by
    unfold reply?
    rw [h.session? hsid]
  have hevents : c'.publishedBy sid faults' o = c.publishedBy sid faults o := by
    unfold publishedBy
    rw [h.persona]
    split
    · rename_i deed hdeed
      have hdeed' : o.deed? c'.persona = some deed := by
        rw [h.persona]
        exact hdeed
      split
      · rename_i hsame
        rw [published_occurUnder, published_occurUnder, asks_of_deed? hdeed', asks_of_deed? hdeed,
          asksOf, hsame, h.session? hsid, asksOf]
      · rfl
    · rfl
  rw [Client.observe, hsession, hreply, hevents, Client.observe]

theorem Alike.seen (h : Alike n c c') {sid : SessionId} (hsid : sid < n)
    (os : List Occurrence) (faults faults' : Faults) :
    (runUnder sid c' faults' os).2 = (runUnder sid c faults os).2 := by
  induction os generalizing c c' faults faults' with
  | nil => rfl
  | cons o os ih =>
      have hrest := ih (alike_occurUnder h faults faults' o)
        (faults.after (c.asks o).2.writes.length) (faults'.after (c'.asks o).2.writes.length)
      show c'.observe sid faults' o :: _ = c.observe sid faults o :: _
      rw [h.observe hsid faults faults' o]
      exact congrArg _ hrest

/--
**The store does not interfere.** Let there be a session, and let anything occur, to it or in the
client around it, while writes fail by one schedule or by another, on one store or on another. At
every step the session is the same afterwards, so it knows the same of its network and has the
same lines queued; it has answered its caller the same, and published the same.
-/
theorem storage_does_not_interfere {c : Client} {sid : SessionId}
    (h : (c.session? sid).isSome = true) (store : Store) (faults faults' : Faults)
    (os : List Occurrence) :
    (runUnder sid c faults os).2 = (runUnder sid { c with store } faults' os).2 := by
  have hsid : sid < c.sessions.length := by
    obtain ⟨s, hs⟩ := Option.isSome_iff_exists.mp h
    exact (List.getElem?_eq_some_iff.mp hs).1
  exact ((Alike.of_store c store).seen hsid os faults faults').symm

/-- A session is welcomed, enters a channel, and two things are said through it, of which one is
refused. One store keeps everything, the other nothing. -/
theorem storage_does_not_interfere_failing :
    let identity : Identity := ⟨1, "Libera", [⟨"irc.libera.chat", 6697, true, 0⟩], "ada", "ada",
      "Ada", none, {}, false⟩
    let c := (Client.new {} "noon" "nonce" .empty).run
      [.acquire identity, .openSession 0, .install 0, .announce 0]
    let os : List Occurrence := [
      .line 0 ":irc.libera.chat 001 ada :Welcome",
      .line 0 ":ada JOIN #lean",
      .move (.call 0 (.say .message "#lean" "hello")),
      .move (.call 0 (.say .notice "#lean" "two\nlines"))]
    (c.session? 0).isSome = true ∧
      (runUnder 0 c .never os).1.store.history.length = 3 ∧
      (runUnder 0 { c with store := .empty } .always os).1.store.history.length = 0 ∧
      (runUnder 0 c .never os).2.map (fun seen => seen.events.map (·.type)) =
        [[], ["user.joined", "channels.changed"], ["message.sent"], []] ∧
      (runUnder 0 c .never os).2 = (runUnder 0 { c with store := .empty } .always os).2 := by
  intro identity c os
  have h : (c.session? 0).isSome = true := by decide +kernel
  exact ⟨h, by decide +kernel, by decide +kernel, by decide +kernel,
    storage_does_not_interfere h .empty .never .always os⟩

end Client

end IrcClient
