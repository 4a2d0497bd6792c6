import IrcClient.Proofs.Client.Moves
import IrcClient.Proofs.Identity
import IrcClient.Proofs.Table

/-!
# Falling back from one endpoint to the next

Whoever connects begins an attempt, and gives it the answers of the endpoints one after another
for as long as it wants one (`Client.dial`). In the end the attempt is let go, which matters only
if it has led to nothing (`Client.connect`).

While the attempt goes on, the failures so far are in the store and the network is marked
(`Client.Dialling`). It ends in one of two ways: an endpoint has accepted
(`Client.IsConnected`), or none has (`Client.IsGivenUp`). Which of them it is, and how many
endpoints have been tried by then, is a matter of the first answer that accepts (`dial_spec`).
-/

namespace IrcClient

/-- What an endpoint answers: it accepts, or something is wrong. Being late is an error too. -/
abbrev Answer := Except LinkError Unit

/-- The endpoints that are tried, with their answers: all up to the first that accepts. -/
def attempted (endpoints : List Endpoint) (answers : List Answer) : List (Endpoint × Answer) :=
  (endpoints.zip answers).take (answers.findIdx (·.isOk) + 1)

/-- The error of an endpoint that does not accept. -/
def failure? : Endpoint × Answer → Option (Endpoint × LinkError)
  | (e, .error error) => some (e, error)
  | (_, .ok ()) => none

/-- The line that tells of an endpoint that does not accept. -/
def failureLine (network : NetworkId) (failure : Endpoint × LinkError) : HistoryLine :=
  .status network ("Could not connect to " ++ failure.1.text ++ ": " ++ failure.2.message)

/-- The line that tells of an endpoint that accepts. -/
def connectedLine (network : NetworkId) (e : Endpoint) : HistoryLine :=
  .status network ("Connected to " ++ e.text)

/-- The event that tells of a connection. -/
def establishedEvent (identity : Identity) (e : Endpoint) : Event :=
  (Network.new identity.id e.address identity.nickname).event "connection.established"

section Attempted

variable {e : Endpoint} {es : List Endpoint} {answers : List Answer} {error : LinkError}

theorem attempted_ok : attempted (e :: es) (.ok () :: answers) = [(e, .ok ())] := rfl

theorem attempted_error : attempted (e :: es) (.error error :: answers) =
    (e, .error error) :: attempted es answers := by
  simp [attempted, List.findIdx_cons, Except.isOk, Except.toBool]

/-- As many endpoints are tried as there are answers up to the first that accepts. -/
theorem map_attempted (h : es.length ≤ answers.length) :
    (attempted es answers).map (·.1) = es.take (answers.findIdx (·.isOk) + 1) := by
  rw [attempted, List.map_take, List.map_fst_zip h]

/-- Where an endpoint accepts, all before it have failed. -/
theorem attempted_of_mem : ∀ {es : List Endpoint} {answers : List Answer},
    (e, .ok ()) ∈ attempted es answers →
      (attempted es answers).map (·.1) =
        ((attempted es answers).filterMap failure?).map (·.1) ++ [e]
  | [], _, h => by cases h
  | _ :: _, [], h => by cases h
  | _ :: _, .ok () :: _, h => by
      rw [attempted_ok] at h ⊢
      cases List.mem_singleton.mp h
      rfl
  | first :: _, .error _ :: _, h => by
      rw [attempted_error] at h ⊢
      rcases List.mem_cons.mp h with h | h
      · cases h
      · exact congrArg (first :: ·) (attempted_of_mem h)

/-- Where none accepts, all are tried and have failed. -/
theorem attempted_of_notMem : ∀ {es : List Endpoint} {answers : List Answer},
    es.length ≤ answers.length → (∀ e, (e, .ok ()) ∉ attempted es answers) →
      (attempted es answers).map (·.1) = es ∧
        ((attempted es answers).filterMap failure?).map (·.1) = es
  | [], _, _, _ => ⟨rfl, rfl⟩
  | _ :: _, [], hlen, _ => absurd hlen (by simp)
  | e :: _, .ok () :: _, _, h => by
      rw [attempted_ok] at h
      exact absurd (List.mem_singleton_self _) (h e)
  | first :: _, .error _ :: _, hlen, h => by
      rw [attempted_error] at h ⊢
      obtain ⟨htried, hfailed⟩ := attempted_of_notMem (Nat.le_of_succ_le_succ hlen)
        fun e he => h e (List.mem_cons_of_mem _ he)
      exact ⟨congrArg (first :: ·) htried, congrArg (first :: ·) hfailed⟩

end Attempted

/-! ## The store -/

namespace Store

/-- The store with more lines of history; a failing store keeps none. -/
def withLines (s : Store) (lines : List HistoryLine) : Store :=
  if s.failing then s else { s with history := s.history ++ lines }

theorem withLines_nil (s : Store) : s.withLines [] = s := by
  unfold withLines
  split
  · rfl
  · rw [List.append_nil]

theorem withLines_append (s : Store) (a b : List HistoryLine) :
    (s.withLines a).withLines b = s.withLines (a ++ b) := by
  unfold withLines
  cases h : s.failing with
  | true => simp [h]
  | false => simp [List.append_assoc]

theorem attemptAll_line (s : Store) (network : NetworkId) (line : HistoryLine) :
    s.attemptAll network [.line line] = s.withLines [line] := by
  show s.attempt network (.line line) = _
  unfold attempt apply withLines
  cases h : s.failing with
  | true => rfl
  | false => simp [perform, h]

end Store

namespace Client

/-! ## Connecting -/

/-- The endpoints that an attempt tries when it is given some answers, one after another. -/
def dial (a : AttemptId) : List Answer → Client → Client × List Endpoint
  | [], c => (c, [])
  | r :: answers, c =>
    match c.trying? a with
    | none => (c, [])
    | some e =>
      let (c, tried) := dial a answers (c.answered a r)
      (c, e :: tried)

/-- Connects, and gives the endpoints that were tried and the result. -/
def connect (c : Client) (identity : Identity) (answers : List Answer) :
    Client × List Endpoint × Option (Except ConnectError SessionId) :=
  match c.acquire identity with
  | (c, .error e) => (c, [], some (.error e))
  | (c, .ok a) =>
    let (c, tried) := c.dial a answers
    let c := c.dropAttempt a
    (c, tried, c.result? a)

variable {before c : Client} {identity : Identity} {a : AttemptId} {e : Endpoint}
  {es : List Endpoint} {failed : List (Endpoint × LinkError)} {error : LinkError}
  {answers : List Answer}

theorem dial_of_not_trying (h : c.trying? a = none) (answers : List Answer) :
    c.dial a answers = (c, []) := by
  cases answers with
  | nil => rfl
  | cons r answers => rw [dial, h]

theorem dial_of_trying (h : c.trying? a = some e) (r : Answer) (answers : List Answer) :
    c.dial a (r :: answers) =
      (((c.answered a r).dial a answers).1, e :: ((c.answered a r).dial a answers).2) := by
  rw [dial, h]

/-- An attempt that has a result already is not affected by being let go. -/
theorem dropAttempt_of_result {r : Except ConnectError SessionId} (h : c.result? a = some r) :
    c.dropAttempt a = c := by
  rcases dropAttempt_cases c a with he | ⟨x, hx, hphase, -⟩
  · exact he
  · obtain ⟨identity, left, last, phase⟩ := x
    obtain rfl : phase = .trying := hphase
    rw [result?, hx] at h
    cases h

theorem attempt?_setAttempt {x : Attempt} (h : c.attempt? a = some x) (y : Attempt) :
    (c.setAttempt a y).attempt? a = some y :=
  List.getElem?_set_self (List.getElem?_eq_some_iff.mp h).1

/-! ## The session that is made last -/

section Last

variable {ss : List Session} {s : Session}

theorem session?_last (h : c.sessions = ss ++ [s]) : c.session? ss.length = some s := by
  rw [session?, h, getElem?_concat, if_pos rfl]

theorem updateSession_last (h : c.sessions = ss ++ [s]) (f : Session → Session × Effects) :
    c.updateSession ss.length f =
      { c with sessions := ss ++ [(f s).1] }.carryOut (f s).1.identity.id (f s).2 := by
  rw [updateSession_some (session?_last h), setSession, h, List.set_append_right _ _ (by simp),
    Nat.sub_self, List.set_cons_zero]

theorem openSession_of_trying {last : Option LinkError}
    (h : c.attempt? a = some ⟨identity, e :: es, last, .trying⟩) :
    ∃ records, c.openSession a =
      { c.setAttempt a ⟨identity, e :: es, last, .binding c.sessions.length⟩ with
        sessions := c.sessions ++ [.start identity e records c.nonce] } := by
  rw [openSession, h]
  exact ⟨_, rfl⟩

theorem install_last {x : Attempt} (hx : c.attempt? a = some x)
    (hphase : x.phase = .binding ss.length) (h : c.sessions = ss ++ [s]) :
    c.install a = { c.setAttempt a { x with phase := .bound ss.length } with
      sessions := ss ++ [{ s with stage := .installed }]
      registry := c.registry.insert x.identity.id (.live ss.length) } := by
  obtain ⟨identity, left, last, phase⟩ := x
  obtain rfl : phase = .binding ss.length := hphase
  rw [install, hx]
  dsimp only
  rw [updateSession_last h, carryOut_none]
  rfl

theorem announce_last (h : c.sessions = ss ++ [s]) (hstage : s.stage = .installed) :
    c.announce ss.length =
      { c with sessions := ss ++ [{ s with stage := .reading }] }.carryOut s.identity.id
        s.announcement := by
  rw [announce, updateSession_last h, if_pos hstage]

end Last

/-! ## While endpoints are tried -/

/-- An attempt goes on: some endpoints have failed, and others are left. -/
structure Dialling (before : Client) (identity : Identity) (a : AttemptId) (left : List Endpoint)
    (failed : List (Endpoint × LinkError)) (c : Client) : Prop where
  attempt : c.attempt? a = some ⟨identity, left, failed.getLast?.map (·.2), .trying⟩
  registry : c.registry = before.registry.insert identity.id .connecting
  store : c.store = before.store.withLines (failed.map (failureLine identity.id))
  published : c.published = before.published
  sessions : c.sessions = before.sessions

/--
An endpoint has accepted. The session on it reads its lines and stands in the registry, it was
announced once, and behind the failures there is a line that tells of it.
-/
structure IsConnected (before : Client) (identity : Identity)
    (failed : List (Endpoint × LinkError)) (e : Endpoint) (c : Client) : Prop where
  session : ∃ s, c.sessions = before.sessions ++ [s] ∧ s.identity = identity ∧ s.endpoint = e ∧
    s.stage = .reading
  registry : c.registry = before.registry.insert identity.id (.live before.sessions.length)
  store : c.store = before.store.withLines
    (failed.map (failureLine identity.id) ++ [connectedLine identity.id e])
  published : c.published = before.published ++ [establishedEvent identity e]

/--
No endpoint has accepted. There are lines that tell of the failures, and nothing else has come of
the attempt; the network is free again.
-/
structure IsGivenUp (before : Client) (identity : Identity)
    (failed : List (Endpoint × LinkError)) (c : Client) : Prop where
  sessions : c.sessions = before.sessions
  registry : c.registry = before.registry.erase identity.id
  store : c.store = before.store.withLines (failed.map (failureLine identity.id))
  published : c.published = before.published

/-- The error of an attempt by its failures: that of the last one, if there was any. -/
def failureOf (network : NetworkId) (failed : List (Endpoint × LinkError)) : ConnectError :=
  match failed.getLast? with
  | none => .noEndpoints network
  | some failure => .allEndpointsFailed network failure.2

namespace Dialling

theorem trying?_nil (h : Dialling before identity a [] failed c) : c.trying? a = none := by
  rw [trying?, h.attempt]

theorem trying?_cons (h : Dialling before identity a (e :: es) failed c) :
    c.trying? a = some e := by
  rw [trying?, h.attempt]

/-- An endpoint that fails leaves the next ones, and a line of history. -/
theorem endpointFails (h : Dialling before identity a (e :: es) failed c) (error : LinkError) :
    Dialling before identity a es (failed ++ [(e, error)]) (c.endpointFails a error) := by
  have hfails : c.endpointFails a error =
      (c.setAttempt a ⟨identity, es, some error, .trying⟩).carryOut identity.id
        ⟨[.line (failureLine identity.id (e, error))], []⟩ := by
    rw [Client.endpointFails, h.attempt]
    rfl
  rw [hfails]
  refine ⟨?_, h.registry, ?_, ?_, h.sessions⟩
  · rw [List.getLast?_concat]
    exact attempt?_setAttempt h.attempt _
  · show c.store.attemptAll identity.id _ = _
    rw [Store.attemptAll_line, h.store, Store.withLines_append, List.map_append]
    rfl
  · show c.published ++ [] = _
    rw [List.append_nil, h.published]

/-- Where no endpoint is left, the attempt has come to nothing. -/
theorem dropAttempt (h : Dialling before identity a [] failed c) :
    IsGivenUp before identity failed (c.dropAttempt a) ∧
      (c.dropAttempt a).result? a = some (.error (failureOf identity.id failed)) ∧
      (c.dropAttempt a).trying? a = none := by
  let ended : Attempt := ⟨identity, [], failed.getLast?.map (·.2), .ended⟩
  have hmarked : (c.setAttempt a ended).registry.get? identity.id = some .connecting := by
    show c.registry.get? identity.id = _
    rw [h.registry, Table.get?_insert, if_pos rfl]
  have hdrop : c.dropAttempt a =
      { c.setAttempt a ended with registry := c.registry.erase identity.id } := by
    rw [Client.dropAttempt, h.attempt]
    show (c.setAttempt a ended).unmark identity.id = _
    rw [unmark, if_pos hmarked]
    rfl
  have hended : (c.dropAttempt a).attempt? a = some ended := by
    rw [hdrop]
    exact attempt?_setAttempt h.attempt ended
  refine ⟨?_, ?_, ?_⟩
  · rw [hdrop]
    refine ⟨h.sessions, ?_, h.store, h.published⟩
    show c.registry.erase identity.id = _
    rw [h.registry, Table.erase_insert]
  · rw [result?, hended]
    show some (Except.error ended.error) = _
    rw [Attempt.error, failureOf]
    cases hlast : failed.getLast? <;> simp [ended, hlast]
  · rw [trying?, hended]

/-- An endpoint that accepts has a session, which takes its place and is announced. -/
theorem accept (h : Dialling before identity a (e :: es) failed c) :
    IsConnected before identity failed e (c.accept a) ∧
      (c.accept a).attempt? a = some ⟨identity, e :: es, failed.getLast?.map (·.2),
        .bound before.sessions.length⟩ := by
  let x (phase : Phase) : Attempt := ⟨identity, e :: es, failed.getLast?.map (·.2), phase⟩
  let ss := before.sessions
  obtain ⟨s, hidentity, hendpoint, hevent, hopen⟩ : ∃ s : Session, s.identity = identity ∧
      s.endpoint = e ∧ s.network.event "connection.established" = establishedEvent identity e ∧
      c.openSession a = { c.setAttempt a (x (.binding ss.length)) with sessions := ss ++ [s] } := by
    obtain ⟨records, hopen⟩ := openSession_of_trying h.attempt
    rw [h.sessions] at hopen
    refine ⟨_, ?_, ?_, ?_, hopen⟩
    · exact Session.identity_start ..
    · obtain ⟨link, hstart⟩ := Session.start_eq identity e _ c.nonce
      rw [hstart]
    · rw [Session.network_start]
      rfl
  -- the session is there, and the attempt is to bind it
  have hbinding : (c.openSession a).attempt? a = some (x (.binding ss.length)) := by
    rw [hopen]
    exact attempt?_setAttempt h.attempt _
  have hinstall : (c.openSession a).install a =
      { c.setAttempt a (x (.bound ss.length)) with
        sessions := ss ++ [{ s with stage := .installed }]
        registry := c.registry.insert identity.id (.live ss.length) } := by
    rw [install_last hbinding rfl (by rw [hopen]), hopen]
    simp [setAttempt, x]
  have hbound : ((c.openSession a).install a).attempt? a = some (x (.bound ss.length)) := by
    rw [hinstall]
    exact attempt?_setAttempt h.attempt _
  -- the session takes the place of the mark, and is told of last
  have haccept : c.accept a = ((c.openSession a).install a).announce ss.length := by
    rw [Client.accept, hbound]
  have hannounce := announce_last (s := { s with stage := .installed })
    (c := (c.openSession a).install a) (by rw [hinstall]) rfl
  rw [haccept, hannounce, hinstall]
  refine ⟨⟨⟨_, rfl, hidentity, hendpoint, rfl⟩, ?_, ?_, ?_⟩, attempt?_setAttempt h.attempt _⟩
  · show c.registry.insert identity.id _ = _
    rw [h.registry, Table.insert_insert]
  · show c.store.attemptAll s.identity.id [.line (.status s.identity.id _)] = _
    rw [Store.attemptAll_line, h.store, Store.withLines_append, hidentity, hendpoint]
    rfl
  · show c.published ++ [s.network.event "connection.established"] = _
    rw [h.published, hevent]

/-- An endpoint that accepts is the last one, and it is too late to let go of the attempt. -/
theorem dial_accept (h : Dialling before identity a (e :: es) failed c) (answers : List Answer) :
    c.dial a (.ok () :: answers) = (c.accept a, [e]) ∧ (c.accept a).dropAttempt a = c.accept a ∧
      (c.accept a).result? a = some (.ok before.sessions.length) := by
  obtain ⟨-, hbound⟩ := h.accept
  have hover : (c.accept a).trying? a = none := by rw [trying?, hbound]
  have hresult : (c.accept a).result? a = some (.ok before.sessions.length) := by
    rw [result?, hbound]
  refine ⟨?_, dropAttempt_of_result hresult, hresult⟩
  rw [dial_of_trying h.trying?_cons, answered, dial_of_not_trying hover]

/-- To let go of an attempt early or at the end is all the same. -/
theorem answered_error (h : Dialling before identity a (e :: es) failed c) (error : LinkError)
    (answers : List Answer) :
    let failing := c.endpointFails a error
    (((c.answered a (.error error)).dial a answers).1.dropAttempt a =
      (failing.dial a answers).1.dropAttempt a) ∧
    ((c.answered a (.error error)).dial a answers).2 = (failing.dial a answers).2 := by
  intro failing
  have hfailing : Dialling before identity a es (failed ++ [(e, error)]) failing :=
    h.endpointFails error
  rw [answered]
  cases es with
  | cons next es =>
    rw [hfailing.trying?_cons, if_pos (by rfl)]
    exact ⟨rfl, rfl⟩
  | nil =>
    -- the last endpoint: the attempt is let go of at once, and once more later, in vain
    obtain ⟨-, hresult, hover⟩ := hfailing.dropAttempt
    rw [hfailing.trying?_nil, if_neg (by simp), dial_of_not_trying hover,
      dial_of_not_trying hfailing.trying?_nil]
    exact ⟨dropAttempt_of_result hresult, rfl⟩

/-- **What becomes of an attempt** is a matter of the first answer that accepts. -/
theorem dial_spec (hlen : es.length ≤ answers.length)
    (h : Dialling before identity a es failed c) :
    let tries := attempted es answers
    let done := (c.dial a answers).1.dropAttempt a
    (c.dial a answers).2 = tries.map (·.1) ∧
    ((∃ e, (e, .ok ()) ∈ tries ∧ IsConnected before identity (failed ++ tries.filterMap failure?)
        e done ∧ done.result? a = some (.ok before.sessions.length)) ∨
      (∀ e, (e, .ok ()) ∉ tries) ∧
        IsGivenUp before identity (failed ++ tries.filterMap failure?) done ∧
        done.result? a =
          some (.error (failureOf identity.id (failed ++ tries.filterMap failure?)))) := by
  induction es generalizing answers failed c with
  | nil =>
    intro tries done
    -- no endpoint is left, so no answer is looked at, and letting go of the attempt ends it
    have hdial : c.dial a answers = (c, []) := dial_of_not_trying h.trying?_nil answers
    have hdone : done = c.dropAttempt a := by
      show (c.dial a answers).1.dropAttempt a = _
      rw [hdial]
    have hfailed : failed ++ tries.filterMap failure? = failed := List.append_nil _
    obtain ⟨hgiven, hresult, -⟩ := h.dropAttempt
    rw [hfailed, hdone, hdial]
    exact ⟨rfl, .inr ⟨fun _ => List.not_mem_nil, hgiven, hresult⟩⟩
  | cons e es ih =>
    cases answers with
    | nil => exact absurd hlen (by simp)
    | cons r answers =>
      intro tries done
      cases r with
      | ok =>
        -- the answers behind the first that accepts are not looked at
        obtain ⟨hconnected, -⟩ := h.accept
        obtain ⟨hdial, hdrop, hresult⟩ := h.dial_accept answers
        have hdone : done = c.accept a := by
          show (c.dial a (.ok () :: answers)).1.dropAttempt a = _
          rw [hdial, hdrop]
        have htries : tries = [(e, .ok ())] := attempted_ok
        have hfailed : failed ++ tries.filterMap failure? = failed := by
          rw [htries]
          exact List.append_nil _
        rw [hfailed, hdone, hdial, htries]
        exact ⟨rfl, .inl ⟨e, List.mem_singleton_self _, hconnected, hresult⟩⟩
      | error error =>
        -- one endpoint fewer and one failure more: the induction says the rest
        have hdial := dial_of_trying h.trying?_cons (.error error) answers
        obtain ⟨hdrop, htried⟩ := h.answered_error error answers
        obtain ⟨ihtried, ih⟩ := ih (Nat.le_of_succ_le_succ hlen) (h.endpointFails error)
        have hdone : done = ((c.endpointFails a error).dial a answers).1.dropAttempt a := by
          show (c.dial a (.error error :: answers)).1.dropAttempt a = _
          rw [hdial, hdrop]
        have htries : tries = (e, .error error) :: attempted es answers := attempted_error
        have hfailed : failed ++ tries.filterMap failure? =
            failed ++ [(e, error)] ++ (attempted es answers).filterMap failure? := by
          rw [htries, List.append_assoc]
          rfl
        rw [hfailed, hdone, hdial, htried, ihtried, htries]
        refine ⟨rfl, ih.imp ?_ ?_⟩
        · rintro ⟨accepting, hmem, hconnected⟩
          exact ⟨accepting, List.mem_cons_of_mem _ hmem, hconnected⟩
        · rintro ⟨hnone, hgiven⟩
          refine ⟨fun accepting hmem => ?_, hgiven⟩
          rcases List.mem_cons.mp hmem with hmem | hmem
          · -- this endpoint is the one that has just failed
            cases hmem
          · exact hnone accepting hmem

end Dialling

/-! ## The whole way -/

/-- An attempt that may begin has its network marked, and all endpoints are left to it. -/
theorem acquire_of_free (hfree : c.obstacle? identity.id = none) :
    ∃ c', c.acquire identity = (c', .ok c.attempts.length) ∧
      Dialling c identity c.attempts.length identity.endpointsByPriority [] c' := by
  let begun : Client := { c with
    registry := c.registry.insert identity.id .connecting
    attempts := c.attempts ++ [.new identity] }
  have hacquire : c.acquire identity = (begun, .ok c.attempts.length) := by rw [acquire, hfree]
  refine ⟨begun, hacquire, ?_, rfl, c.store.withLines_nil.symm, rfl, rfl⟩
  show (c.attempts ++ [Attempt.new identity])[c.attempts.length]? = _
  rw [getElem?_concat, if_pos rfl]
  rfl

theorem obstacle?_of_disconnected {network : NetworkId} (h : c.lifecycle network = .disconnected) :
    c.obstacle? network = none := by
  unfold lifecycle at h
  unfold obstacle?
  split at h
  · rename_i hslot
    rw [hslot]
  · cases h
  · rename_i hslot
    rw [hslot]
    split at h
    · cases h
    · rename_i hconnected
      exact if_neg hconnected

end Client

end IrcClient
