import IrcClient.Proofs.Client.Exclusivity
import IrcClient.Proofs.Handling.Events

/-!
# What is told of connections

Whoever connects a session announces it, and the session's own reader reports its end. Both
publish an event with the number of the network, and nobody else publishes any such
(`Session.Within`). So what has been told of a network can be read off how far each of its
sessions has come (`Stage.notices`), but for the order.

A move advances one session by one stage, opens a session, or does nothing that would be told of
(`Telling`). That an attempt advances the session that it has opened, and no other, is due to
the registry.
-/

namespace IrcClient

/-! ## Notices -/

/-- What an event tells of a connection. -/
inductive Notice where
  | established | lost
deriving DecidableEq, Repr

/-- The notice that a type of events stands for. -/
def Notice.ofType? : String → Option Notice
  | "connection.established" => some established
  | "connection.lost" => some lost
  | _ => none

namespace Event

/-- The network that an event is about. -/
def network? (e : Event) : Option NetworkId :=
  match e.get? "networkId" with
  | some (.int n) => some n
  | _ => none

/-- What an event tells of the connection to a network. -/
def notice? (e : Event) (n : NetworkId) : Option Notice :=
  if e.network? = some n then Notice.ofType? e.type else none

theorem notice?_of_within {e : Event} (h : e.type ∉ connectionTypes) (n : NetworkId) :
    e.notice? n = none := by
  unfold notice?
  split
  · unfold Notice.ofType?
    split
    · rename_i _ htype
      exact absurd (htype ▸ List.mem_cons_self) h
    · rename_i _ htype
      exact absurd (htype ▸ List.mem_cons_of_mem _ List.mem_cons_self) h
    · rfl
  · rfl

theorem notice?_event (net : Network) (type : String) (n : NetworkId) :
    (net.event type).notice? n = if net.id = n then Notice.ofType? type else none := by
  have hnetwork : (net.event type).network? = some net.id := by
    simp [network?, Network.event, get?_set]
  rw [notice?, hnetwork, Network.type_event]
  simp only [Option.some.injEq]

end Event

/-- What some events tell of the connection to a network. -/
def noticesOf (n : NetworkId) (events : List Event) : List Notice :=
  events.filterMap (·.notice? n)

theorem noticesOf_of_within {events : List Event} (h : ∀ e ∈ events, e.type ∉ connectionTypes)
    (n : NetworkId) : noticesOf n events = [] := by
  rw [noticesOf, List.filterMap_eq_nil_iff]
  intro e he
  exact Event.notice?_of_within (h e he) n

theorem noticesOf_event (net : Network) (type : String) (n : NetworkId) :
    noticesOf n [net.event type] =
      if net.id = n then (Notice.ofType? type).toList else [] := by
  rw [noticesOf, List.filterMap_cons, Event.notice?_event]
  by_cases h : net.id = n
  · rw [if_pos h, if_pos h]
    cases Notice.ofType? type <;> rfl
  · rw [if_neg h, if_neg h, List.filterMap_nil]

/-! ## Stages -/

/-- One stage of a session that was installed follows another, and what is told of it. -/
inductive Stage.Next : Stage → Stage → List Notice → Prop where
  | announced : Next installed reading [.established]
  | ended : Next reading lost []
  | reported : Next lost reported [.lost]
  | released : Next reported gone []

/-- What has been told of a session that has come so far. -/
def Stage.notices : Stage → List Notice
  | opening | installed => []
  | reading | lost => [.established]
  | reported | gone => [.established, .lost]

theorem Stage.Next.notices_eq {a b : Stage} {told : List Notice} (h : a.Next b told) :
    b.notices = a.notices ++ told := by
  cases h <;> rfl

theorem Stage.Next.ne_opening {a b : Stage} {told : List Notice} (h : a.Next b told) :
    a ≠ opening := by
  cases h <;> nofun

theorem Session.within_call (s : Session) (call : Call) : s.Within (s.call call) := by
  cases call with
  | receive | endOfInput | flush | send => exact .silent ⟨rfl, rfl, rfl⟩ rfl
  | say u target text => exact within_say s u target text
  | setAutoJoin channel flag => exact ⟨rfl, rfl, rfl, nofun⟩

namespace Client

/-- What has been told of the connection to a network. -/
def notices (c : Client) (n : NetworkId) : List Notice :=
  noticesOf n c.published

/-- The network of each session, and how far the session has come. -/
def stages (c : Client) : List (NetworkId × Stage) :=
  c.sessions.map fun s => (s.identity.id, s.stage)

variable {c c' : Client}

theorem getElem?_stages {sid : SessionId} {s : Session} (h : c.session? sid = some s) :
    c.stages[sid]? = some (s.identity.id, s.stage) := by
  have hs : c.sessions[sid]? = some s := h
  rw [stages, List.getElem?_map, hs, Option.map_some]

theorem exists_of_getElem?_stages {sid : SessionId} {n : NetworkId} {stage : Stage}
    (h : c.stages[sid]? = some (n, stage)) :
    ∃ s, c.session? sid = some s ∧ s.identity.id = n ∧ s.stage = stage := by
  rw [stages, List.getElem?_map] at h
  obtain ⟨s, hs, he⟩ := Option.map_eq_some_iff.mp h
  obtain ⟨hn, hstage⟩ := Prod.mk.inj he
  exact ⟨s, hs, hn, hstage⟩

theorem stages_setSession (c : Client) (sid : SessionId) (s : Session) :
    (c.setSession sid s).stages = c.stages.set sid (s.identity.id, s.stage) := by
  rw [stages, setSession, List.map_set, stages]

theorem notices_carryOut (c : Client) (k : NetworkId) (e : Effects) (n : NetworkId) :
    (c.carryOut k e).notices n = c.notices n ++ noticesOf n e.events := by
  rw [notices, carryOut, noticesOf, List.filterMap_append]
  rfl

theorem stages_updateSession {sid : SessionId} {s : Session} (h : c.session? sid = some s)
    (f : Session → Session × Effects) :
    (c.updateSession sid f).stages = c.stages.set sid ((f s).1.identity.id, (f s).1.stage) := by
  rw [updateSession_some h]
  exact stages_setSession c sid (f s).1

theorem notices_updateSession {sid : SessionId} {s : Session} (h : c.session? sid = some s)
    (f : Session → Session × Effects) (n : NetworkId) :
    (c.updateSession sid f).notices n = c.notices n ++ noticesOf n (f s).2.events := by
  rw [updateSession_some h, notices_carryOut]
  rfl

theorem set_of_getElem? {α : Type} {l : List α} {i : Nat} {x : α} (h : l[i]? = some x) :
    l.set i x = l := by
  obtain ⟨hlt, rfl⟩ := List.getElem?_eq_some_iff.mp h
  exact List.set_getElem_self hlt

/-- What a session does while it lasts does not take it any further, and is not told of. -/
theorem updateSession_within (sid : SessionId) {f : Session → Session × Effects}
    (hf : ∀ s : Session, s.Within (f s)) : (c.updateSession sid f).stages = c.stages ∧
      ∀ n, (c.updateSession sid f).notices n = c.notices n := by
  cases hs : c.session? sid with
  | none =>
    rw [updateSession_none hs]
    exact ⟨rfl, fun _ => rfl⟩
  | some s =>
    obtain ⟨hidentity, hstage, -, hevents⟩ := hf s
    refine ⟨?_, fun n => ?_⟩
    · rw [stages_updateSession hs, hidentity, hstage, set_of_getElem? (getElem?_stages hs)]
    · rw [notices_updateSession hs, noticesOf_of_within hevents, List.append_nil]

/-! ## What holds of sessions at any time -/

/-- Every session knows the network that it was made for. -/
def Keyed (c : Client) : Prop :=
  ∀ s ∈ c.sessions, s.network.id = s.identity.id

/-- A session that an attempt binds has not come any further yet. -/
def BoundOpening (c : Client) : Prop :=
  ∀ a sid n, c.Binds a sid n → c.stages[sid]? = some (n, .opening)

/-- What holds of the client at any time. -/
structure Orderly (c : Client) : Prop where
  exclusive : Exclusive c
  keyed : Keyed c
  opening : BoundOpening c

theorem Keyed.setSession (h : Keyed c) (sid : SessionId) {s : Session}
    (hs : s.network.id = s.identity.id) : Keyed (c.setSession sid s) := by
  intro s' hs'
  rcases List.mem_or_eq_of_mem_set hs' with hs' | rfl
  · exact h s' hs'
  · exact hs

theorem Keyed.updateSession (h : Keyed c) (sid : SessionId) {f : Session → Session × Effects}
    (hf : ∀ s, (f s).1.network.id = s.network.id ∧ (f s).1.identity = s.identity) :
    Keyed (c.updateSession sid f) := by
  cases hs : c.session? sid with
  | none =>
    rw [updateSession_none hs]
    exact h
  | some s =>
    have hkey : s.network.id = s.identity.id := h s (List.mem_of_getElem? hs)
    rw [updateSession_some hs]
    exact h.setSession sid (by rw [(hf s).1, (hf s).2, hkey])

theorem keyed_move (h : Keyed c) (m : Move) : Keyed (c.move m) := by
  cases m with
  | acquire identity =>
    show Keyed (c.acquire identity).1
    rcases acquire_cases c identity with he | ⟨-, he⟩ <;> rw [he] <;> exact h
  | endpointFails a error =>
    show Keyed (c.endpointFails a error)
    rcases endpointFails_cases c a error with he | ⟨x, y, e, -, -, -, he⟩ <;> rw [he] <;> exact h
  | dropAttempt a =>
    show Keyed (c.dropAttempt a)
    rcases dropAttempt_cases c a with he | ⟨x, -, -, he⟩ <;> rw [he]
    · exact h
    · unfold unmark
      split <;> exact h
  | openSession a =>
    show Keyed (c.openSession a)
    rcases openSession_cases c a with he | ⟨x, e, records, -, -, he⟩ <;> rw [he]
    · exact h
    · -- the session that is new has the network of its identity
      intro s hs
      rcases List.mem_append.mp hs with hs | hs
      · exact h s hs
      · rw [List.mem_singleton.mp hs, Session.network_start, Session.identity_start]
        rfl
  | install a =>
    show Keyed (c.install a)
    rcases install_cases c a with he | ⟨x, sid, -, -, he⟩ <;> rw [he]
    · exact h
    · exact h.updateSession (f := fun s => ({ s with stage := .installed }, .none)) sid
        fun s => ⟨rfl, rfl⟩
  | announce sid => exact h.updateSession sid fun s => by split <;> exact ⟨rfl, rfl⟩
  | dismiss n =>
    show Keyed (c.dismiss n).1
    rcases dismiss_cases c n with ⟨e, he⟩ | ⟨sid, -, he⟩ <;> rw [he]
    · exact h
    · exact h.updateSession (f := fun s => ({ s with dismissed := true }, .none)) sid
        fun s => ⟨rfl, rfl⟩
  | tearDown sid reason =>
    -- whatever a session does, it keeps its identity and its network
    exact h.updateSession sid fun s =>
      ⟨(s.within_tearDown reason).network, (s.within_tearDown reason).identity⟩
  | handleInbox sid =>
    refine h.updateSession sid fun s => ?_
    split
    · exact ⟨(s.within_handleInbox _).network, (s.within_handleInbox _).identity⟩
    · exact ⟨rfl, rfl⟩
  | call sid call =>
    exact h.updateSession sid fun s => ⟨(s.within_call call).network, (s.within_call call).identity⟩
  | endReading sid => exact h.updateSession sid fun s => by split <;> exact ⟨rfl, rfl⟩
  | reportLoss sid => exact h.updateSession sid fun s => by split <;> exact ⟨rfl, rfl⟩
  | release sid =>
    show Keyed (c.release sid)
    rcases release_cases c sid with he | ⟨s, hs, -, he⟩ <;> rw [he]
    · exact h
    · have hkey : s.network.id = s.identity.id := h s (List.mem_of_getElem? hs)
      split <;> exact h.setSession sid hkey

/-! ## What a move does to attempts -/

theorem progress_unique {a : AttemptId} {n n' : NetworkId} {p p' : Phase}
    (h : c.progress? a = some (n, p)) (h' : c.progress? a = some (n', p')) : n = n' ∧ p = p' :=
  Prod.mk.inj (Option.some.inj (h.symm.trans h'))

/-- What a move can do to an attempt. -/
inductive Passing (c : Client) (m : Move) (a : AttemptId) : Prop where
  | stays (h : (c.move m).progress? a = c.progress? a)
  | began (identity : Identity) (hm : m = .acquire identity)
      (free : c.obstacle? identity.id = none)
      (h : (c.move m).progress? a = some (identity.id, .trying))
  | gaveUp (n : NetworkId) (h : (c.move m).progress? a = some (n, .ended))
  /-- It has led to a session, which it goes on to bind. -/
  | opened (n : NetworkId) (trying : c.progress? a = some (n, .trying))
      (h : (c.move m).progress? a = some (n, .binding c.sessions.length))
      (stages : (c.move m).stages = c.stages ++ [(n, .opening)])
  | bound (n : NetworkId) (sid : SessionId) (h : (c.move m).progress? a = some (n, .bound sid))

theorem stages_openSession {a : AttemptId} {x : Attempt} {e : Endpoint}
    {records : List ChannelRecord} {d : Client}
    (h : d = { c.setAttempt a { x with phase := .binding c.sessions.length } with
      sessions := c.sessions ++ [.start x.identity e records c.nonce] }) :
    d.stages = c.stages ++ [(x.identity.id, .opening)] := by
  obtain ⟨link, hstart⟩ := Session.start_eq x.identity e records c.nonce
  rw [h, hstart]
  exact List.map_append

/-- Where a move sets one attempt, only that one has to be looked at. -/
theorem Passing.of_set {m : Move} {a b : AttemptId} {y : Option (NetworkId × Phase)}
    (hset : (c.move m).progress? b = if b = a then y else c.progress? b)
    (hself : b = a → (c.move m).progress? b = y → Passing c m b) : Passing c m b := by
  by_cases hb : b = a
  · rw [if_pos hb] at hset
    exact hself hb hset
  · rw [if_neg hb] at hset
    exact .stays hset

theorem passing_move (c : Client) (m : Move) (b : AttemptId) : Passing c m b := by
  cases m with
  | acquire identity =>
    rcases acquire_cases c identity with he | ⟨hfree, he⟩
    · exact .stays (congrArg (·.progress? b) he)
    · -- the attempt that is new has the number behind all others
      have hset : (c.acquire identity).1.progress? b = _ :=
        (congrArg (·.progress? b) he).trans (progress?_concat c _ _ b)
      exact .of_set hset fun _ hb => .began identity rfl hfree hb
  | endpointFails a error => exact .stays ((quiet_endpointFails a error).progress b)
  | dropAttempt a =>
    rcases dropAttempt_cases c a with he | ⟨x, hx, -, he⟩
    · exact .stays (congrArg (·.progress? b) he)
    · -- the mark goes with the attempt, but it stands in the registry
      have hset : (c.dropAttempt a).progress? b = _ :=
        (congrArg (·.progress? b) he).trans
          ((progress?_unmark _ _ b).trans (progress?_setAttempt hx _ b))
      exact .of_set hset fun _ hb => .gaveUp _ hb
  | openSession a =>
    rcases openSession_cases c a with he | ⟨x, e, records, hx, hp, he⟩
    · exact .stays (congrArg (·.progress? b) he)
    · have hset : (c.openSession a).progress? b = _ :=
        (congrArg (·.progress? b) he).trans (progress?_setAttempt hx _ b)
      -- the session that is opened is the next one, and it is there at once
      refine .of_set hset fun hba hb => .opened x.identity.id ?_ hb (stages_openSession he)
      rw [hba, progress?_of_attempt? hx, hp]
  | install a =>
    rcases install_cases c a with he | ⟨x, sid, hx, -, he⟩
    · exact .stays (congrArg (·.progress? b) he)
    · have hset : (c.install a).progress? b = _ :=
        (congrArg (·.progress? b) he).trans (progress?_setAttempt_updateSession hx _ _ _ b)
      exact .of_set hset fun _ hb => .bound _ sid hb
  | announce sid => exact .stays ((quiet_announce sid).progress b)
  | dismiss n =>
    rcases dismiss_cases c n with ⟨e, he⟩ | ⟨sid, -, he⟩
    · exact .stays (congrArg (·.1.progress? b) he)
    · exact .stays ((congrArg (·.1.progress? b) he).trans (progress?_updateSession c sid _ b))
  | tearDown sid reason | handleInbox sid | call sid call | endReading sid | reportLoss sid =>
    -- a session goes on by itself: no attempt has a part in it
    exact .stays (progress?_updateSession c sid _ b)
  | release sid =>
    rcases release_cases c sid with he | ⟨s, -, -, he⟩
    · exact .stays (congrArg (·.progress? b) he)
    · refine .stays ((congrArg (·.progress? b) he).trans ?_)
      split <;> rfl

/-! ## What a move tells -/

/-- What a move can do to sessions, and to what is told of them. -/
inductive Telling (c c' : Client) : Prop where
  /-- No session comes any further. -/
  | still (stages : c'.stages = c.stages) (notices : ∀ n, c'.notices n = c.notices n)
  /-- An attempt has led to a session, and goes on to bind it. -/
  | opened (a : AttemptId) (n : NetworkId) (trying : c.progress? a = some (n, .trying))
      (binding : c'.progress? a = some (n, .binding c.sessions.length))
      (stages : c'.stages = c.stages ++ [(n, .opening)])
      (notices : ∀ m, c'.notices m = c.notices m)
  /-- The session that an attempt binds takes its place. -/
  | installed (a : AttemptId) (sid : SessionId) (n : NetworkId) (binding : c.Binds a sid n)
      (bound : c'.progress? a = some (n, .bound sid))
      (before : c.stages[sid]? = some (n, .opening))
      (stages : c'.stages = c.stages.set sid (n, .installed))
      (notices : ∀ m, c'.notices m = c.notices m)
  /-- A session comes to its next stage. -/
  | advanced (sid : SessionId) (n : NetworkId) (old new : Stage) (told : List Notice)
      (before : c.stages[sid]? = some (n, old)) (next : old.Next new told)
      (stages : c'.stages = c.stages.set sid (n, new))
      (notices : ∀ m, c'.notices m = c.notices m ++ if n = m then told else [])

theorem telling_of_within (sid : SessionId) {f : Session → Session × Effects}
    (hf : ∀ s : Session, s.Within (f s)) : Telling c (c.updateSession sid f) :=
  .still (updateSession_within sid hf).1 (updateSession_within sid hf).2

/-- A session advances, unless it is not its turn. -/
theorem telling_advance (hk : Keyed c) (sid : SessionId) {old new : Stage} {told : List Notice}
    (hnext : old.Next new told) {f : Session → Session × Effects}
    (hf : ∀ s, f s = (s, .none) ∨ s.stage = old ∧ (f s).1.identity = s.identity ∧
      (f s).1.stage = new ∧
      ∀ m, noticesOf m (f s).2.events = if s.network.id = m then told else []) :
    Telling c (c.updateSession sid f) := by
  cases hs : c.session? sid with
  | none =>
    rw [updateSession_none hs]
    exact .still rfl fun _ => rfl
  | some s =>
    rcases hf s with he | ⟨hold, hidentity, hnew, htold⟩
    · refine .still ?_ fun n => ?_
      · rw [stages_updateSession hs, he, set_of_getElem? (getElem?_stages hs)]
      · rw [notices_updateSession hs, he]
        exact List.append_nil _
    · refine .advanced sid s.identity.id old new told ?_ hnext ?_ fun m => ?_
      · rw [getElem?_stages hs, hold]
      · rw [stages_updateSession hs, hidentity, hnew]
      · rw [notices_updateSession hs, htold, hk s (List.mem_of_getElem? hs)]

theorem telling_openSession (c : Client) (a : AttemptId) : Telling c (c.openSession a) := by
  rcases openSession_cases c a with he | ⟨x, e, records, hx, hp, he⟩
  · rw [he]
    exact .still rfl fun _ => rfl
  · refine .opened a x.identity.id ?_ ?_ (stages_openSession he) fun m => by rw [he]; rfl
    · rw [progress?_of_attempt? hx, hp]
    · rw [he]
      exact (progress?_setAttempt hx _ a).trans (if_pos rfl)

theorem telling_install (h : Orderly c) (a : AttemptId) : Telling c (c.install a) := by
  rcases install_cases c a with he | ⟨x, sid, hx, hp, he⟩
  · rw [he]
    exact .still rfl fun _ => rfl
  · have hbinds : c.Binds a sid x.identity.id := by
      rw [Binds, progress?_of_attempt? hx, hp]
    have hbefore := h.opening a sid _ hbinds
    obtain ⟨s, hs, hn, -⟩ := exists_of_getElem?_stages hbefore
    refine .installed a sid x.identity.id hbinds ?_ hbefore ?_ fun m => ?_
    · rw [he]
      exact (progress?_setAttempt_updateSession hx _ _ _ a).trans (if_pos rfl)
    · rw [he, ← hn]
      exact stages_updateSession hs _
    · rw [he]
      exact (notices_updateSession hs _ m).trans (List.append_nil _)

theorem telling_announce (h : Keyed c) (sid : SessionId) : Telling c (c.announce sid) := by
  refine telling_advance h sid .announced fun s => ?_
  split
  · rename_i hstage
    exact .inr ⟨hstage, rfl, rfl, noticesOf_event s.network "connection.established"⟩
  · exact .inl rfl

theorem telling_endReading (h : Keyed c) (sid : SessionId) : Telling c (c.endReading sid) := by
  refine telling_advance h sid .ended fun s => ?_
  split
  · rename_i hstage
    exact .inr ⟨hstage, rfl, rfl, fun m => (ite_self _).symm⟩
  · exact .inl rfl

theorem telling_reportLoss (h : Keyed c) (sid : SessionId) : Telling c (c.reportLoss sid) := by
  refine telling_advance h sid .reported fun s => ?_
  split
  · rename_i hstage
    exact .inr ⟨hstage, rfl, rfl, noticesOf_event s.network "connection.lost"⟩
  · exact .inl rfl

theorem telling_release (c : Client) (sid : SessionId) : Telling c (c.release sid) := by
  rcases release_cases c sid with he | ⟨s, hs, hstage, he⟩
  · rw [he]
    exact .still rfl fun _ => rfl
  · refine .advanced sid s.identity.id .reported .gone [] ?_ .released ?_ fun m => ?_
    · rw [getElem?_stages hs, hstage]
    · have hset := stages_setSession c sid { s with stage := .gone }
      rw [he]
      split <;> exact hset
    · rw [he, ite_self, List.append_nil]
      split <;> rfl

/-- **A move is told of only where it advances a session.** -/
theorem telling_move (h : Orderly c) (m : Move) : Telling c (c.move m) := by
  cases m with
  | acquire identity =>
    show Telling c (c.acquire identity).1
    rcases acquire_cases c identity with he | ⟨-, he⟩ <;> rw [he] <;> exact .still rfl fun _ => rfl
  | endpointFails a error =>
    show Telling c (c.endpointFails a error)
    unfold endpointFails
    split
    · -- the failure is told of the attempt, and no session has a part in it
      exact .still rfl fun n => (notices_carryOut _ _ _ n).trans (List.append_nil _)
    · exact .still rfl fun _ => rfl
  | dropAttempt a =>
    show Telling c (c.dropAttempt a)
    rcases dropAttempt_cases c a with he | ⟨x, -, -, he⟩ <;> rw [he]
    · exact .still rfl fun _ => rfl
    · unfold unmark
      split <;> exact .still rfl fun _ => rfl
  | openSession a => exact telling_openSession c a
  | install a => exact telling_install h a
  | announce sid => exact telling_announce h.keyed sid
  | dismiss n =>
    show Telling c (c.dismiss n).1
    rcases dismiss_cases c n with ⟨e, he⟩ | ⟨sid, -, he⟩ <;> rw [he]
    · exact .still rfl fun _ => rfl
    · -- a session that is dismissed stays at its stage until its reading has ended
      obtain ⟨hstages, hnotices⟩ := updateSession_within (c := c) sid
        (f := fun s => ({ s with dismissed := true }, .none)) fun s => ⟨rfl, rfl, rfl, nofun⟩
      exact .still hstages hnotices
  | tearDown sid reason => exact telling_of_within sid fun s => s.within_tearDown reason
  | handleInbox sid =>
    refine telling_of_within sid fun s => ?_
    split
    · exact s.within_handleInbox _
    · exact .silent (.refl s) rfl
  | call sid call => exact telling_of_within sid fun s => s.within_call call
  | endReading sid => exact telling_endReading h.keyed sid
  | reportLoss sid => exact telling_reportLoss h.keyed sid
  | release sid => exact telling_release c sid

/-! ## Runs -/

/-- What an attempt binds it has bound before, unless it has just led to it. -/
theorem binds_of_move {m : Move} {a : AttemptId} {sid : SessionId} {n : NetworkId}
    (h : (c.move m).Binds a sid n) : c.Binds a sid n ∨
      sid = c.stages.length ∧ (c.move m).stages = c.stages ++ [(n, .opening)] := by
  unfold Binds at h
  cases passing_move c m a with
  | stays hp => exact .inl (hp.symm.trans h)
  | began identity _ _ hp => cases (progress_unique h hp).2
  | gaveUp n' hp => cases (progress_unique h hp).2
  | bound n' sid' hp => cases (progress_unique h hp).2
  | opened n' _ hp hstages =>
    obtain ⟨rfl, hphase⟩ := progress_unique h hp
    refine .inr ⟨?_, hstages⟩
    rw [Phase.binding.inj hphase, stages, List.length_map]

theorem boundOpening_move (h : Orderly c) (m : Move) : BoundOpening (c.move m) := by
  intro a sid n hbinds
  rcases binds_of_move hbinds with hbefore | ⟨hsid, hstages⟩
  · have hopening := h.opening a sid n hbefore
    cases telling_move h m with
    | still hstages => rw [hstages, hopening]
    | opened _ _ _ _ hstages =>
      rw [hstages, List.getElem?_append_left (List.getElem?_eq_some_iff.mp hopening).1, hopening]
    | installed b sid' n' hb hbound hold hstages =>
      have hne : sid' ≠ sid := by
        intro he
        rw [he, hopening] at hold
        obtain ⟨rfl, -⟩ := Prod.mk.inj (Option.some.inj hold)
        obtain rfl : a = b := h.exclusive.unique a b n hbefore.holds hb.holds
        cases (progress_unique hbinds hbound).2
      rw [hstages, List.getElem?_set_ne hne, hopening]
    | advanced sid' n' old new told hold hnext hstages =>
      have hne : sid' ≠ sid := by
        intro he
        rw [he, hopening] at hold
        exact hnext.ne_opening (Prod.mk.inj (Option.some.inj hold)).2.symm
      rw [hstages, List.getElem?_set_ne hne, hopening]
  · rw [hstages, hsid, List.getElem?_concat_length]

theorem orderly_init (settings : Settings) (date nonce : String) (store : Store) :
    Orderly (Client.new settings date nonce store) where
  exclusive := exclusive_init settings date nonce store
  keyed := by
    intro s hs
    exact absurd hs List.not_mem_nil
  opening := by
    intro a sid n h
    simp [Binds, progress?, attempt?, Client.new] at h

theorem orderly_move (h : Orderly c) (m : Move) : Orderly (c.move m) where
  exclusive := exclusive_move h.exclusive m
  keyed := keyed_move h.keyed m
  opening := boundOpening_move h m

/-! ## Each session is told of once -/

/-- What the stages of all sessions of a network amount to. -/
def toldOf (n : NetworkId) (stages : List (NetworkId × Stage)) : List Notice :=
  stages.flatMap fun x => if x.1 = n then x.2.notices else []

/-- What has been told of a network is what its sessions have come to, one way or another. -/
def Faithful (c : Client) : Prop :=
  ∀ n, (c.notices n).Perm (toldOf n c.stages)

theorem toldOf_append (n : NetworkId) (a b : List (NetworkId × Stage)) :
    toldOf n (a ++ b) = toldOf n a ++ toldOf n b :=
  List.flatMap_append

theorem toldOf_cons (m n : NetworkId) (stage : Stage) (rest : List (NetworkId × Stage)) :
    toldOf m ((n, stage) :: rest) = (if n = m then stage.notices else []) ++ toldOf m rest :=
  List.flatMap_cons

/-- Where one session advances, what is told of it is told in addition. -/
theorem toldOf_set {stages : List (NetworkId × Stage)} {sid : Nat} {n : NetworkId}
    {old new : Stage} {told : List Notice} (h : stages[sid]? = some (n, old))
    (hnew : new.notices = old.notices ++ told) (m : NetworkId) :
    (toldOf m stages ++ if n = m then told else []).Perm
      (toldOf m (stages.set sid (n, new))) := by
  obtain ⟨hlt, hget⟩ := List.getElem?_eq_some_iff.mp h
  obtain ⟨front, back, hstages, -, hset⟩ := List.exists_of_set hlt
  rw [hget] at hstages
  have hself : (if n = m then new.notices else []) =
      (if n = m then old.notices else []) ++ if n = m then told else [] := by
    rw [hnew]
    split <;> rfl
  rw [hset, hstages, toldOf_append, toldOf_append, toldOf_cons, toldOf_cons, hself,
    List.append_assoc, List.append_assoc, List.append_assoc]
  exact (List.perm_append_comm.append_left _).append_left _

theorem faithful_init (settings : Settings) (date nonce : String) (store : Store) :
    Faithful (Client.new settings date nonce store) :=
  fun _ => .refl []

theorem faithful_move (h : Orderly c) (hf : Faithful c) (m : Move) : Faithful (c.move m) := by
  intro n
  cases telling_move h m with
  | still hstages hnotices =>
    rw [hstages, hnotices]
    exact hf n
  | opened a k _ _ hstages hnotices =>
    have hnothing : toldOf n [(k, .opening)] = [] := by
      rw [toldOf, List.flatMap_singleton]
      exact ite_self _
    rw [hstages, hnotices, toldOf_append, hnothing, List.append_nil]
    exact hf n
  | installed a sid k _ _ hbefore hstages hnotices =>
    have htold : Stage.installed.notices = Stage.opening.notices ++ [] := rfl
    have hset := toldOf_set hbefore htold n
    rw [ite_self, List.append_nil] at hset
    rw [hstages, hnotices]
    exact (hf n).trans hset
  | advanced sid k old new told hbefore hnext hstages hnotices =>
    rw [hstages, hnotices]
    exact ((hf n).append_right _).trans (toldOf_set hbefore hnext.notices_eq n)

theorem faithful_run (h : Orderly c) (hf : Faithful c) (moves : List Move) :
    Orderly (c.run moves) ∧ Faithful (c.run moves) := by
  induction moves generalizing c with
  | nil => exact ⟨h, hf⟩
  | cons m moves ih => exact ih (orderly_move h m) (faithful_move h hf m)

end Client

end IrcClient
