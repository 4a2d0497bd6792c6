import IrcClient.World
import IrcClient.Proofs.Client.Fallback

/-!
# Connecting, with nothing else going on

Whoever connects in an idle world waits for nobody but the endpoints, and these answer sooner or
later: an endpoint that does not say anything is late in the end (`World.answerOf`). So what comes
of it is what comes of giving the attempt these answers (`connect_eq`).

The answers come in two ways. Some endpoints answer at once, and `World.tryEndpoints` goes on with
the next one; for others it sets a timer and leaves off, and the next one has its turn when the
timer comes. A world that `World.tryEndpoints` has left is therefore looked at by what becomes of
it when its timers come (`World.Dialled`), and it takes no more of them than endpoints are left.

With that, falling back from one endpoint to the next is told as a whole at the end, for any answers
and for a world that gives them.
-/

namespace IrcClient

namespace Client

variable {before c : Client} {identity : Identity} {a : AttemptId} {e : Endpoint}
  {es : List Endpoint} {failed : List (Endpoint × LinkError)}

/-- The endpoints that are left to an attempt stay when it is let go. -/
theorem remaining_dropAttempt (c : Client) (a : AttemptId) :
    ((c.dropAttempt a).attempt? a).map (·.remaining) = (c.attempt? a).map (·.remaining) := by
  rcases dropAttempt_cases c a with he | ⟨x, hx, -, he⟩
  · rw [he]
  · have hended : (c.dropAttempt a).attempt? a = some { x with phase := .ended } := by
      rw [he, unmark]
      split
      all_goals exact attempt?_setAttempt hx _
    rw [hended, hx]
    rfl

namespace Dialling

theorem result?_eq (h : Dialling before identity a es failed c) : c.result? a = none := by
  rw [result?, h.attempt]

theorem answered_of_more {next : Endpoint} (error : LinkError)
    (h : Dialling before identity a (e :: next :: es) failed c) :
    Dialling before identity a (next :: es) (failed ++ [(e, error)])
      (c.answered a (.error error)) := by
  have hfailing := h.endpointFails error
  rw [answered, hfailing.trying?_cons, if_pos (by rfl)]
  exact hfailing

theorem remaining_answered (error : LinkError)
    (h : Dialling before identity a (e :: es) failed c) :
    ((c.answered a (.error error)).attempt? a).map (·.remaining) = some es := by
  cases es with
  | cons next es => rw [(h.answered_of_more error).attempt, Option.map_some]
  | nil =>
    have hfailing := h.endpointFails error
    rw [answered, hfailing.trying?_nil, if_neg (by simp), remaining_dropAttempt, hfailing.attempt,
      Option.map_some]

end Dialling

end Client

/-- What an endpoint that behaves so answers in the end. -/
def Behaviour.answer (e : Endpoint) : Behaviour → Answer
  | .accept => .ok ()
  | .refuse => .error (.io "connection refused")
  | .closed => .error .closed
  | .badName => .error (.invalidServerName e.address)
  | .hang | .hold => .error .timeout

namespace World

/-- What an endpoint answers in the end. -/
def answerOf (w : World) (e : Endpoint) : Answer :=
  (w.behaviour e).answer e

/-- Nothing is waited for. -/
structure Idle (w : World) : Prop where
  timers : w.timers = []
  released : w.released = []
  abandoned : w.abandoned = []

/-- Waits for an attempt, but for no more than so many timers. -/
def awaitWithin (w : World) (a : AttemptId) (fuel : Nat) : World :=
  fireWhile (some a) (fun w _ => (w.client.result? a).isNone) fuel w

/--
A world that is reached from `w` by trying endpoints. As many timers as there are endpoints left
to the attempt are enough for it to get all their answers.
-/
structure Dialled (a : AttemptId) (es : List Endpoint) (w w' : World) : Prop where
  remaining : (w'.remaining a).length ≤ es.length
  client : ∀ fuel, (w'.remaining a).length ≤ fuel →
    (w'.awaitWithin a fuel).client = (w.client.dial a (es.map w.answerOf)).1.dropAttempt a
  tried : ∀ fuel, (w'.remaining a).length ≤ fuel →
    (w'.awaitWithin a fuel).tried = w.tried ++ (w.client.dial a (es.map w.answerOf)).2

variable {w w' : World} {before : Client} {identity : Identity} {a : AttemptId} {e : Endpoint}
  {es : List Endpoint} {failed : List (Endpoint × LinkError)} {error : LinkError}

namespace Idle

theorem tries (h : w.Idle) (e : Endpoint) : ({ w with tried := w.tried ++ [e] } : World).Idle :=
  ⟨h.timers, h.released, h.abandoned⟩

theorem answer (h : w.Idle) (a : AttemptId) (r : Answer) : (w.answer a r).Idle := by
  constructor
  · simp [World.answer, forget, disarm, h.timers]
  · simp [World.answer, forget, disarm, h.released]
  · simp [World.answer, forget, disarm, h.abandoned]

theorem awaitWithin (h : w.Idle) (a : AttemptId) (fuel : Nat) : w.awaitWithin a fuel = w := by
  cases fuel with
  | zero => rfl
  | succ fuel =>
    have hnone : w.nextTimer? (some a) = none := by simp [nextTimer?, earliest?, h.timers]
    rw [World.awaitWithin, fireWhile, hnone]

end Idle

/-- Where no endpoint is left, there is nothing to wait for. -/
theorem dialled_nil (hidle : w.Idle) (h : (w.client.attempt? a).map (·.remaining) = some []) :
    Dialled a [] w (tryEndpoints a [] w) := by
  have hdropped : (tryEndpoints a [] w).Idle := ⟨hidle.timers, hidle.released, hidle.abandoned⟩
  refine ⟨?_, fun fuel _ => ?_, fun fuel _ => ?_⟩
  · have hremaining : (tryEndpoints a [] w).remaining a = [] := by
      show (((w.client.dropAttempt a).attempt? a).map (·.remaining)).getD [] = []
      rw [Client.remaining_dropAttempt, h, Option.getD_some]
    exact Nat.le_of_eq (congrArg List.length hremaining)
  · rw [hdropped.awaitWithin]
    rfl
  · rw [hdropped.awaitWithin]
    exact (List.append_nil _).symm

/-- An endpoint that accepts leaves nothing to wait for. -/
theorem dialled_accept (hidle : w.Idle)
    (h : Client.Dialling before identity a (e :: es) failed w.client)
    (hok : w.answerOf e = .ok ()) :
    Dialled a (e :: es) w ({ w with tried := w.tried ++ [e] }.answer a (.ok ())) := by
  let w' := { w with tried := w.tried ++ [e] }.answer a (.ok ())
  have hidle' : w'.Idle := (hidle.tries e).answer a (.ok ())
  obtain ⟨-, hbound⟩ := h.accept
  obtain ⟨hdial, hdrop, -⟩ := h.dial_accept (es.map w.answerOf)
  rw [← hok, ← List.map_cons] at hdial
  refine ⟨?_, fun fuel _ => ?_, fun fuel _ => ?_⟩
  · have hremaining : w'.remaining a = e :: es := by
      show (((w.client.accept a).attempt? a).map (·.remaining)).getD [] = _
      rw [hbound]
      rfl
    exact Nat.le_of_eq (congrArg List.length hremaining)
  · rw [hidle'.awaitWithin, hdial, hdrop]
    rfl
  · rw [hidle'.awaitWithin, hdial]
    rfl

/-- The next endpoints have their turn when one has failed. -/
theorem dialled_answered (hidle : w.Idle)
    (h : Client.Dialling before identity a (e :: es) failed w.client) (error : LinkError)
    (ih : ∀ {w : World} {failed : List (Endpoint × LinkError)}, w.Idle →
      Client.Dialling before identity a es failed w.client → Dialled a es w (tryEndpoints a es w)) :
    Dialled a es (w.answer a (.error error)) (tryEndpoints a es (w.answer a (.error error))) := by
  cases es with
  | nil => exact dialled_nil (hidle.answer a _) (h.remaining_answered error)
  | cons next es => exact ih (hidle.answer a _) (h.answered_of_more error)

/-- What the next endpoints lead to is what all of them lead to. -/
theorem Dialled.cons {w₁ : World} (hrest : Dialled a es w₁ w')
    (h : Client.Dialling before identity a (e :: es) failed w.client)
    (herror : w.answerOf e = .error error)
    (hclient : w₁.client = w.client.answered a (.error error))
    (htried : w₁.tried = w.tried ++ [e]) (hanswers : w₁.answerOf = w.answerOf) :
    Dialled a (e :: es) w w' := by
  have hdial := Client.dial_of_trying h.trying?_cons (.error error) (es.map w.answerOf)
  rw [← herror, ← List.map_cons, herror, ← hclient] at hdial
  refine ⟨Nat.le_succ_of_le hrest.remaining, fun fuel hfuel => ?_, fun fuel hfuel => ?_⟩
  · rw [hrest.client fuel hfuel, hdial, hanswers]
  · rw [hrest.tried fuel hfuel, hdial, hanswers, htried, List.append_assoc]
    rfl

/-- The timer of an attempt that nobody answers. -/
theorem awaitWithin_succ {due fuel : Nat} (htimers : w.timers = [⟨due, .attempt a⟩])
    (hreleased : w.released = []) (habandoned : w.abandoned = [])
    (hresult : w.client.result? a = none) :
    w.awaitWithin a (fuel + 1) =
      (({ w.disarm (.attempt a) with clock := max w.clock due }.answer a
        (.error .timeout)).proceed a).awaitWithin a fuel := by
  have hnext : w.nextTimer? (some a) = some ⟨due, .attempt a⟩ := by
    simp [nextTimer?, earliest?, htimers]
  rw [awaitWithin, fireWhile, hnext]
  simp only [hresult, Option.isNone_none, if_true]
  have hfire : w.fire ⟨due, .attempt a⟩ =
      ({ w.disarm (.attempt a) with clock := max w.clock due }.answer a
        (.error .timeout)).proceed a := by
    simp [fire, ring, runAttempt, disarm, hreleased, habandoned]
  rw [hfire]
  rfl

/-- An endpoint that does not answer has the next ones wait until it is late. -/
theorem dialled_late (hidle : w.Idle)
    (h : Client.Dialling before identity a (e :: es) failed w.client)
    (hlate : w.answerOf e = .error .timeout) (due : Nat) (held : List AttemptId)
    (ih : ∀ {w : World} {failed : List (Endpoint × LinkError)}, w.Idle →
      Client.Dialling before identity a es failed w.client → Dialled a es w (tryEndpoints a es w)) :
    Dialled a (e :: es) w { w with
      tried := w.tried ++ [e], timers := [⟨due, .attempt a⟩], held := held } := by
  let waiting : World := { w with
    tried := w.tried ++ [e], timers := [⟨due, .attempt a⟩], held := held }
  let late : World := { waiting.disarm (.attempt a) with clock := max w.clock due }
  let next := (late.answer a (.error .timeout)).proceed a
  have hlater : late.Idle := by
    refine ⟨?_, hidle.released, hidle.abandoned⟩
    simp [late, waiting, disarm]
  have hnext : Dialled a es (late.answer a (.error .timeout)) next := by
    have hremaining : (late.answer a (.error .timeout)).remaining a = es := by
      show (((w.client.answered a _).attempt? a).map (·.remaining)).getD [] = es
      rw [h.remaining_answered, Option.getD_some]
    show Dialled a es _ (tryEndpoints a (World.remaining _ a) _)
    rw [hremaining]
    exact dialled_answered hlater h .timeout ih
  have hall : Dialled a (e :: es) w next := hnext.cons h hlate rfl rfl rfl
  have hremaining : waiting.remaining a = e :: es := by
    show ((w.client.attempt? a).map (·.remaining)).getD [] = _
    rw [h.attempt]
    rfl
  -- one timer has come by then, and one endpoint less is left
  have hawait {fuel : Nat} (hfuel : (waiting.remaining a).length ≤ fuel) :
      ∃ n, (next.remaining a).length ≤ n ∧ waiting.awaitWithin a fuel = next.awaitWithin a n := by
    rw [hremaining] at hfuel
    cases fuel with
    | zero => cases hfuel
    | succ n => exact ⟨n, Nat.le_trans hnext.remaining (Nat.le_of_succ_le_succ hfuel),
        awaitWithin_succ rfl hidle.released hidle.abandoned h.result?_eq⟩
  refine ⟨Nat.le_of_eq (congrArg List.length hremaining), fun fuel hfuel => ?_,
    fun fuel hfuel => ?_⟩
  · obtain ⟨n, hn, hsame⟩ := hawait hfuel
    exact (congrArg World.client hsame).trans (hall.client n hn)
  · obtain ⟨n, hn, hsame⟩ := hawait hfuel
    exact (congrArg World.tried hsame).trans (hall.tried n hn)

theorem dialled_tryEndpoints (hidle : w.Idle)
    (h : Client.Dialling before identity a es failed w.client) :
    Dialled a es w (tryEndpoints a es w) := by
  induction es generalizing w failed with
  | nil => exact dialled_nil hidle (by rw [h.attempt]; rfl)
  | cons e es ih =>
    have hfails (error : LinkError) (herror : w.answerOf e = .error error) :
        Dialled a (e :: es) w (tryEndpoints a es
          ({ w with tried := w.tried ++ [e] }.answer a (.error error))) :=
      (dialled_answered (hidle.tries e) h error ih).cons h herror rfl rfl rfl
    have hwaits (hlate : w.answerOf e = .error .timeout) (held : List AttemptId) :
        Dialled a (e :: es) w { w with
          tried := w.tried ++ [e]
          timers := w.timers ++ [⟨w.clock + w.client.settings.connectTimeout, .attempt a⟩]
          held := held } := by
      rw [hidle.timers]
      exact dialled_late hidle h hlate _ held ih
    -- what fails at once goes on to the next endpoint, and what does not answer waits for its time
    obtain ⟨b, hb⟩ : ∃ b, w.behaviour e = b := ⟨_, rfl⟩
    have hanswer : w.answerOf e = b.answer e := by rw [answerOf, hb]
    have htried : ({ w with tried := w.tried ++ [e] } : World).behaviour e = b := hb
    rw [tryEndpoints, htried]
    cases b with
    | accept => exact dialled_accept hidle h hanswer
    | refuse => exact hfails _ hanswer
    | closed => exact hfails _ hanswer
    | badName => exact hfails _ hanswer
    | hang =>
      dsimp only
      split
      · exact hfails _ hanswer
      · exact hwaits hanswer w.held
    | hold =>
      dsimp only
      split
      · exact hfails _ hanswer
      · exact hwaits hanswer (w.held ++ [a])

theorem remaining_le_timersAhead (w : World) (a : AttemptId) :
    (w.remaining a).length ≤ w.timersAhead := by
  have hle : (w.remaining a).length ≤ (w.client.attempts.flatMap (·.remaining)).length := by
    rw [remaining, Client.attempt?]
    cases hx : w.client.attempts[a]? with
    | none => exact Nat.zero_le _
    | some x =>
      have hmem : x.remaining ∈ w.client.attempts.map (·.remaining) :=
        List.mem_map_of_mem (List.mem_of_getElem? hx)
      rw [List.flatMap_def]
      exact (List.sublist_flatten_of_mem hmem).length_le
  unfold timersAhead
  omega

/--
**To connect in an idle world** is to begin an attempt and to give it what the endpoints answer:
the client, the endpoints that were tried and the result are the same.
-/
theorem connect_eq (hidle : w.Idle) (identity : Identity) :
    let answers := identity.endpointsByPriority.map w.answerOf
    let reached := w.client.connect identity answers
    (w.connect identity).1.client = reached.1 ∧
      (w.connect identity).1.tried = w.tried ++ reached.2.1 ∧
      (w.connect identity).2 = reached.2.2 := by
  intro answers reached
  cases hfree : w.client.obstacle? identity.id with
  | some error =>
    -- the network is taken: nothing is begun, in the world as in the client
    have hacquire : w.client.acquire identity = (w.client, .error error) := by
      rw [Client.acquire, hfree]
    have hreached : reached = (w.client, [], some (.error error)) := by
      show w.client.connect identity answers = _
      rw [Client.connect, hacquire]
    rw [hreached, connect, begin, hacquire]
    exact ⟨rfl, (List.append_nil _).symm, rfl⟩
  | none =>
    obtain ⟨c, hacquire, h⟩ := Client.acquire_of_free hfree
    let a := w.client.attempts.length
    let begun : World := { w with client := c }
    have hconnect : w.connect identity =
        ((begun.proceed a).await a, ((begun.proceed a).await a).client.result? a) := by
      rw [connect, begin, hacquire]
    have hreached : reached = ((c.dial a answers).1.dropAttempt a, (c.dial a answers).2,
        ((c.dial a answers).1.dropAttempt a).result? a) := by
      show w.client.connect identity answers = _
      rw [Client.connect, hacquire]
    have hremaining : begun.remaining a = identity.endpointsByPriority := by
      show ((c.attempt? a).map (·.remaining)).getD [] = _
      rw [h.attempt, Option.map_some, Option.getD_some]
    -- the attempt has all endpoints before it, and the world is as idle as before
    have hdialled : Dialled a identity.endpointsByPriority begun (begun.proceed a) := by
      rw [proceed, hremaining]
      exact dialled_tryEndpoints ⟨hidle.timers, hidle.released, hidle.abandoned⟩ h
    have hfuel := remaining_le_timersAhead (begun.proceed a) a
    have hclient : ((begun.proceed a).await a).client = (c.dial a answers).1.dropAttempt a :=
      hdialled.client _ hfuel
    rw [hconnect, hreached]
    exact ⟨hclient, hdialled.tried _ hfuel, congrArg (·.result? a) hclient⟩

end World

namespace Client

variable {c : Client} {identity : Identity} {answers : List Answer}

/--
**Endpoints are tried in turn until one accepts.** They are tried by priority, and those of one
priority as they are configured, each of them once and none behind the first that accepts. There
is one line for each failure, in that order. Where an endpoint accepts, the session is on that one,
and it is told of behind the failures. Where none does, the network is free again, and the error is
that of the last endpoint, if there is any at all. And so it is in an idle world, where the answers
are those of its endpoints.
-/
theorem falls_back (h : c.lifecycle identity.id = .disconnected)
    (hanswers : identity.endpoints.length ≤ answers.length) :
    let sorted := identity.endpointsByPriority
    let tries := attempted sorted answers
    let failed := tries.filterMap failure?
    let after := (c.connect identity answers).1
    let tried := (c.connect identity answers).2.1
    let result := (c.connect identity answers).2.2
    Identity.InPriority identity.endpoints sorted ∧
    tried = sorted.take (answers.findIdx (·.isOk) + 1) ∧
    (∀ e, (e, .ok ()) ∈ tries → tried = failed.map (·.1) ++ [e] ∧
      IsConnected c identity failed e after ∧ result = some (.ok c.sessions.length)) ∧
    ((∀ e, (e, .ok ()) ∉ tries) → tried = sorted ∧ failed.map (·.1) = sorted ∧
      IsGivenUp c identity failed after ∧
      result = some (.error (failureOf identity.id failed))) ∧
    (∀ w : World, w.client = c → w.Idle → answers = sorted.map w.answerOf →
      (w.connect identity).1.client = after ∧ (w.connect identity).1.tried = w.tried ++ tried ∧
        (w.connect identity).2 = result) := by
  intro sorted tries failed after tried result
  obtain ⟨c', hacquire, hbegun⟩ := acquire_of_free (obstacle?_of_disconnected h)
  have hconnect : c.connect identity answers =
      ((c'.dial c.attempts.length answers).1.dropAttempt c.attempts.length,
        (c'.dial c.attempts.length answers).2,
        ((c'.dial c.attempts.length answers).1.dropAttempt c.attempts.length).result?
          c.attempts.length) := by
    rw [connect, hacquire]
  have hpriority : Identity.InPriority identity.endpoints sorted :=
    identity.inPriority_endpointsByPriority
  have hlen : sorted.length ≤ answers.length := hpriority.perm.length_eq ▸ hanswers
  obtain ⟨hdial, hend⟩ := hbegun.dial_spec hlen
  rw [List.nil_append] at hend
  have htried : tried = tries.map (·.1) := by
    show (c.connect identity answers).2.1 = _
    rw [hconnect]
    exact hdial
  have hafter : after =
      (c'.dial c.attempts.length answers).1.dropAttempt c.attempts.length := by
    show (c.connect identity answers).1 = _
    rw [hconnect]
  have hresult : result = after.result? c.attempts.length := by
    show (c.connect identity answers).2.2 = _
    rw [hafter, hconnect]
  rw [← hafter] at hend
  refine ⟨hpriority, htried.trans (map_attempted hlen), fun e he => ?_, fun hnone => ?_, ?_⟩
  · have hsplit := attempted_of_mem he
    rcases hend with ⟨accepting, hmem, hconnected, hok⟩ | ⟨hnone, -⟩
    · -- there is one endpoint that accepts, since it is the last one that is tried
      have hlast := hsplit.symm.trans (attempted_of_mem hmem)
      obtain rfl : e = accepting := List.singleton_inj.mp (List.append_cancel_left hlast)
      exact ⟨htried.trans hsplit, hconnected, hresult.trans hok⟩
    · exact absurd he (hnone e)
  · obtain ⟨hall, hfailed⟩ := attempted_of_notMem hlen hnone
    rcases hend with ⟨accepting, hmem, -⟩ | ⟨-, hgiven, herror⟩
    · exact absurd hmem (hnone accepting)
    · exact ⟨htried.trans hall, hfailed, hgiven, hresult.trans herror⟩
  · rintro w rfl hidle rfl
    exact w.connect_eq hidle identity

/--
Of two endpoints with the lowest priority the first does not answer and the second accepts, and
the third one is not tried.
-/
theorem falls_back_second :
    let e (address : String) (priority : Int) : Endpoint := { address, port := 6667, priority }
    let first := e "a.libera.chat" (-1)
    let second := e "b.libera.chat" (-1)
    let identity : Identity :=
      ⟨1, "Libera", [e "irc.libera.chat" 5, first, second], "ada", "ada", "Ada", none, {}, false⟩
    let w : World := {
      client := new {} "noon" "nonce" .empty
      behaviours := .ofList [(first.place, .hang), (second.place, .accept)] }
    let answers : List Answer := [.error .timeout, .ok (), .error (.io "connection refused")]
    let after := (w.connect identity).1
    w.client.lifecycle identity.id = .disconnected ∧
    identity.endpoints.length ≤ answers.length ∧ w.Idle ∧
    answers = identity.endpointsByPriority.map w.answerOf ∧
    after.tried = [first, second] ∧ (w.connect identity).2 = some (.ok 0) ∧
    after.client.registry.get? 1 = some (.live 0) ∧
    after.client.store.history = [failureLine 1 (first, .timeout), connectedLine 1 second] ∧
    after.client.published = [establishedEvent identity second] := by
  intro e first second identity w answers after
  have hfree : w.client.lifecycle identity.id = .disconnected := rfl
  have hanswers : identity.endpoints.length ≤ answers.length := by decide
  have hidle : w.Idle := ⟨rfl, rfl, rfl⟩
  have hsorted : identity.endpointsByPriority = [first, second, e "irc.libera.chat" 5] := by
    simp [Identity.endpointsByPriority, identity, e, first, second, List.mergeSort,
      List.MergeSort.Internal.splitInTwo]
  have hbehave : answers = identity.endpointsByPriority.map w.answerOf := by
    have hfirst : w.behaviour first = .hang := by decide +kernel
    have hsecond : w.behaviour second = .accept := by decide +kernel
    have hthird : w.behaviour (e "irc.libera.chat" 5) = .refuse := by decide +kernel
    rw [hsorted, List.map_cons, List.map_cons, List.map_cons, List.map_nil, World.answerOf,
      World.answerOf, World.answerOf, hfirst, hsecond, hthird]
    rfl
  have htries : attempted identity.endpointsByPriority answers =
      [(first, .error .timeout), (second, .ok ())] := by
    rw [hsorted]
    rfl
  obtain ⟨-, -, haccepts, -, hworld⟩ := falls_back hfree hanswers
  rw [htries] at haccepts
  obtain ⟨htried, hconnected, hresult⟩ := haccepts second (by simp)
  obtain ⟨hafter, htriedHere, hresultHere⟩ := hworld w rfl hidle hbehave
  refine ⟨hfree, hanswers, hidle, hbehave, htriedHere.trans htried, hresultHere.trans hresult, ?_⟩
  rw [hafter, hconnected.registry, hconnected.store, hconnected.published]
  exact ⟨rfl, rfl, rfl⟩

end Client

end IrcClient
