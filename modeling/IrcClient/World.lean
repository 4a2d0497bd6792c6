import IrcClient.Client

/-!
# A world for the client

A client does not act by itself: it answers to servers, to a clock and to whoever calls
it. A `World` holds a client together with endpoints that behave in set ways, a clock
that moves only when somebody waits, and the jobs that are under way. What happens at one
time happens in the order in which it was arranged, except that the caller goes on before
all else, and nothing else has its turn until it rests; so a world has one future only.
-/

namespace IrcClient

/-- What an endpoint does with whoever connects to it. -/
inductive Behaviour where
  | accept
  | refuse
  /-- It does not answer. -/
  | hang
  /-- It does not answer until it is told to accept. -/
  | hold
  /-- It closes the connection at once. -/
  | closed
  /-- Its name is not one that a certificate can be checked against. -/
  | badName
deriving DecidableEq, Repr, Inhabited

/-- The number of a job. -/
abbrev JobId := Nat

/-- What a timer sets going again. -/
inductive Alarm where
  | attempt (id : AttemptId)
  | job (id : JobId)
deriving DecidableEq, Repr

/-- Something that happens at a set time. -/
structure Timer where
  due : Nat
  alarm : Alarm
deriving DecidableEq, Repr

/-- How far a job has come. -/
inductive JobState where
  /-- It is there, but has not had its turn. -/
  | created
  /-- It waits until its delay is over. -/
  | delayed
  | running (attempt : AttemptId)
  | refused (error : ConnectError)
  /-- It was given up. -/
  | dropped
deriving DecidableEq, Repr

/--
A job: a network that is connected to in the background. A launch is a job that the client
does of its own accord, and may be called off before it begins.
-/
structure Job where
  identity : Identity
  isLaunch : Bool
  delay : Nat := 0
  state : JobState := .created
deriving DecidableEq, Repr

/--
A client and its surroundings. Timers are in the order in which they were set. `background`
is the job that somebody may wait for or give up. `handles` lists the sessions in the order
in which somebody got hold of them; whoever gets hold of a session again has another handle
to it.
-/
structure World where
  client : Client
  behaviours : Table String Behaviour := .empty
  clock : Nat := 0
  timers : List Timer := []
  /-- The attempts that an endpoint holds back. -/
  held : List AttemptId := []
  /-- The attempts that are held back no more, and do not know it yet. -/
  released : List AttemptId := []
  /-- The attempts that were given up, and do not know it yet. -/
  abandoned : List AttemptId := []
  jobs : List Job := []
  cancelled : Bool := false
  background : Option JobId := none
  handles : List SessionId := []
  tried : List Endpoint := []
  sent : List (SessionId × String) := []

namespace World

/-- What an endpoint does; where nothing is set it refuses. -/
def behaviour (w : World) (e : Endpoint) : Behaviour :=
  (w.behaviours.get? e.place).getD .refuse

/-- Sets a timer. -/
def arm (w : World) (delay : Nat) (alarm : Alarm) : World :=
  { w with timers := w.timers ++ [⟨w.clock + delay, alarm⟩] }

/-- Removes the timers of an alarm. -/
def disarm (w : World) (alarm : Alarm) : World :=
  { w with timers := w.timers.filter (·.alarm ≠ alarm) }

/-- Nothing is waited for any more on behalf of an attempt. -/
def forget (w : World) (a : AttemptId) : World :=
  { w.disarm (.attempt a) with
    held := w.held.filter (· ≠ a)
    released := w.released.filter (· ≠ a)
    abandoned := w.abandoned.filter (· ≠ a) }

/-- An attempt goes on without waiting any longer. If its time has come, it has its turn already. -/
def wake (w : World) (a : AttemptId) : World :=
  if w.timers.any fun t => t.alarm = .attempt a && t.due ≤ w.clock then w
  else (w.disarm (.attempt a)).arm 0 (.attempt a)

/-! ## Attempts -/

/-- The endpoint that an attempt tries answers. -/
def answer (w : World) (a : AttemptId) (r : Except LinkError Unit) : World :=
  { w.forget a with client := w.client.answered a r }

/-- Tries endpoints one after another, until one of them accepts or leaves the attempt waiting. -/
def tryEndpoints (a : AttemptId) : List Endpoint → World → World
  | [], w => { w with client := w.client.dropAttempt a }
  | e :: rest, w =>
    let w := { w with tried := w.tried ++ [e] }
    match w.behaviour e with
    | .accept => w.answer a (.ok ())
    | .refuse => tryEndpoints a rest (w.answer a (.error (.io "connection refused")))
    | .closed => tryEndpoints a rest (w.answer a (.error .closed))
    | .badName => tryEndpoints a rest (w.answer a (.error (.invalidServerName e.address)))
    | behaviour =>
      let timeout := w.client.settings.connectTimeout
      -- who waits for no time at all does not wait
      if timeout = 0 then tryEndpoints a rest (w.answer a (.error .timeout))
      else
        let w := w.arm timeout (.attempt a)
        if behaviour = .hold then { w with held := w.held ++ [a] } else w

/-- The endpoints that are left to an attempt. -/
def remaining (w : World) (a : AttemptId) : List Endpoint :=
  ((w.client.attempt? a).map (·.remaining)).getD []

/-- Goes on with an attempt. -/
def proceed (w : World) (a : AttemptId) : World :=
  tryEndpoints a (w.remaining a) w

/-- Calls the client to connect. -/
def begin (w : World) (identity : Identity) : World × Except ConnectError AttemptId :=
  match w.client.acquire identity with
  | (_, .error e) => (w, .error e)
  | (client, .ok a) => (({ w with client }).proceed a, .ok a)

/-! ## Time -/

/-- How far a job has come. -/
def jobState? (w : World) (i : JobId) : Option JobState :=
  w.jobs[i]?.map (·.state)

/-- Sets the state of a job. -/
def setJob (w : World) (i : JobId) (state : JobState) : World :=
  { w with jobs := w.jobs.modify i ({ · with state }) }

/-- Adds a job. It has its turn as soon as the caller rests, after those that are due already. -/
def addJob (w : World) (job : Job) : World :=
  { w.arm 0 (.job w.jobs.length) with jobs := w.jobs ++ [job] }

/-- A job begins to connect. -/
def connectJob (w : World) (i : JobId) (identity : Identity) : World :=
  match w.begin identity with
  | (w, .ok a) => w.setJob i (.running a)
  | (w, .error e) => w.setJob i (.refused e)

/-- A job has its turn. -/
def runJob (w : World) (i : JobId) : World :=
  match w.jobs[i]? with
  | some { identity, isLaunch, delay, state := .created } =>
    if isLaunch && w.cancelled then w.setJob i .dropped
    else if delay = 0 then w.connectJob i identity
    else (w.setJob i .delayed).arm delay (.job i)
  | some { identity, state := .delayed, .. } => w.connectJob i identity
  | _ => w

/-- An attempt has its turn: it was given up, or is held back no more, or its time is over. -/
def runAttempt (w : World) (a : AttemptId) : World :=
  if w.abandoned.contains a then { w.forget a with client := w.client.dropAttempt a }
  else if w.released.contains a then w.answer a (.ok ())
  else (w.answer a (.error .timeout)).proceed a

/-- What an alarm brings about. -/
def ring (w : World) : Alarm → World
  | .attempt a => w.runAttempt a
  | .job i => w.runJob i

/-- The earliest timer, and of several the one that was set first. -/
def earliest? (ts : List Timer) : Option Timer :=
  ts.foldl (fun best t =>
    match best with
    | none => some t
    | some b => if t.due < b.due then some t else best) none

/-- The next timer. Of several that are due together, that of the caller's attempt comes first. -/
def nextTimer? (w : World) (caller : Option AttemptId) : Option Timer :=
  let (own, others) := w.timers.partition fun t => caller.any fun a => t.alarm = .attempt a
  earliest? (own ++ others)

/-- Lets the next timer come. -/
def fire (w : World) (t : Timer) : World :=
  ({ w.disarm t.alarm with clock := max w.clock t.due }).ring t.alarm

/-- An upper bound to the number of timers that can still come. -/
def timersAhead (w : World) : Nat :=
  w.timers.length + (w.client.attempts.flatMap (·.remaining)).length +
    (w.jobs.flatMap (·.identity.endpoints)).length + w.jobs.length

/-- Lets timers come one after another, as long as they are wanted, and no more than `fuel`. -/
def fireWhile (caller : Option AttemptId) (wanted : World → Timer → Bool) : Nat → World → World
  | 0, w => w
  | fuel + 1, w =>
    match w.nextTimer? caller with
    | none => w
    | some t => if wanted w t then fireWhile caller wanted fuel (w.fire t) else w

/-- Lets time pass. What is due at the very end of it is still to come: the caller goes on first. -/
def pass (w : World) (ms : Nat) : World :=
  let target := w.clock + ms
  { fireWhile none (fun _ t => t.due < target) w.timersAhead w with clock := target }

/-- Waits for an attempt of the caller's own. -/
def await (w : World) (a : AttemptId) : World :=
  fireWhile (some a) (fun w _ => (w.client.result? a).isNone) w.timersAhead w

/-- What has come of a job, once nothing more can; nothing, if it was given up. -/
def jobResult? (w : World) (i : JobId) : Option (Option (Except ConnectError SessionId)) :=
  match w.jobState? i with
  | some (.running a) => (w.client.result? a).map some
  | some (.refused e) => some (some (.error e))
  | some .dropped => some none
  | _ => none

/-- Waits for a job. -/
def awaitJob (w : World) (i : JobId) : World :=
  fireWhile none (fun w _ => (w.jobResult? i).isNone) w.timersAhead w

/-! ## What callers do -/

/-- A new handle to a session, by its number. -/
def handle (w : World) (sid : SessionId) : World × Nat :=
  ({ w with handles := w.handles ++ [sid] }, w.handles.length)

/-- Connects, and waits for the result. -/
def connect (w : World) (identity : Identity) :
    World × Option (Except ConnectError SessionId) :=
  match w.begin identity with
  | (w, .error e) => (w, some (.error e))
  | (w, .ok a) =>
    let w := w.await a
    (w, w.client.result? a)

/-- Connects in the background. -/
def connectStart (w : World) (identity : Identity) : World :=
  { w.addJob { identity, isLaunch := false } with background := some w.jobs.length }

/-- Waits for what goes on in the background; nothing is the result of what was given up. -/
def connectWait (w : World) : World × Option (Option (Except ConnectError SessionId)) :=
  match w.background with
  | none => (w, none)
  | some i =>
    let w := w.awaitJob i
    ({ w with background := none }, w.jobResult? i)

/-- Gives up what goes on in the background, unless it has come to its end. -/
def connectAbort (w : World) : World :=
  match w.background with
  | none => w
  | some i =>
    if (w.jobResult? i).isSome then w
    else
      let dropped := w.setJob i .dropped
      match w.jobState? i with
      | some (.running a) => { dropped.wake a with abandoned := w.abandoned ++ [a] }
      | _ => dropped

/-- The endpoints that hold back accept. -/
def release (w : World) : World :=
  { w.held.foldl wake w with held := [], released := w.released ++ w.held }

/-- Adds a launch; each one waits longer than those before it. -/
def addLaunch (w : World) (i : Nat) (identity : Identity) : World :=
  w.addJob { identity, isLaunch := true, delay := w.client.settings.stagger * i }

/-- Connects to all networks that are marked for it, one after another. -/
def autoConnect (w : World) (identities : List Identity) : World :=
  ((identities.filter (·.autoConnect)).zipIdx).foldl (fun w t => w.addLaunch t.2 t.1) w

/-- Launches that have not begun will not do so any more, and nor will later ones. -/
def cancel (w : World) : World :=
  { w with
    cancelled := true
    jobs := w.jobs.map fun t =>
      if t.isLaunch && (t.state = .created || t.state = .delayed) then
        { t with state := .dropped }
      else t }

/-- How many launches there have been. -/
def launches (w : World) : Nat :=
  w.jobs.countP (·.isLaunch)

/-- How many launches have come to their end. -/
def finishedLaunches (w : World) : Nat :=
  w.jobs.zipIdx.countP fun t => t.1.isLaunch && (w.jobResult? t.2).isSome

/-- Changes the session on a connection. -/
def updateSession (w : World) (sid : SessionId) (f : Session → Session) : World :=
  { w with client := w.client.updateSession sid fun s => (f s, .none) }

/-- Whether the client's side of a connection is open; nothing where there is no connection. -/
def isOpen? (w : World) (sid : SessionId) : Option Bool :=
  (w.client.session? sid).map (·.link.alive)

/-! ## Settling -/

/-- A session does all that it can do: it reads its lines, writes its answers and may end. -/
def settleSession (w : World) (sid : SessionId) : World :=
  let client := w.client.handleInbox sid
  match client.session? sid with
  | none => w
  | some s =>
    let (s, lines) := s.flush
    let client := client.setSession sid s
    { w with
      -- a session ends with its link
      client := if s.link.alive then client else client.finishSession sid
      sent := w.sent ++ lines.map fun l => (sid, l) }

/-- Every session does all that it can do. -/
def settle (w : World) : World :=
  (List.range w.client.sessions.length).foldl settleSession w

/-- What has happened in a world: who was tried, what was sent, written and published. -/
structure Report where
  tried : List Endpoint
  sent : List (SessionId × List String)
  lines : List HistoryLine
  events : List Event

/-- The network that an event is about. -/
def networkOf (e : Event) : NetworkId :=
  match e.get? "networkId" with
  | some (.int n) => n
  | _ => 0

/-- The lines of each connection that has any. -/
def byConnection (w : World) : List (SessionId × List String) :=
  ((List.range w.client.sessions.length).map fun sid =>
    (sid, (w.sent.filter (·.1 = sid)).map (·.2))).filter fun c => !c.2.isEmpty

/--
A millisecond passes, everything settles, and what has happened since the beginning of the
step is reported. Lines and events of a network stay in order.
-/
def finish (before w : World) : World × Report :=
  -- what is due already has its turn before the sessions
  let w := (w.pass 1).settle
  let lines := w.client.store.history.drop before.client.store.history.length
  let events := w.client.published.drop before.client.published.length
  ({ w with tried := [], sent := [] }, {
    tried := w.tried
    sent := w.byConnection
    lines := lines.mergeSort fun a b => decide (a.network ≤ b.network)
    events := events.mergeSort fun a b => decide (networkOf a ≤ networkOf b) })

end World

end IrcClient
