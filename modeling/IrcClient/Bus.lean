import IrcClient.Event

/-!
# The event bus

Whoever wants to hear of events subscribes to a type of them, or to all. A
subscription has a lane of its own: a queue of events, and a worker that takes them
to the subscriber one by one. So a subscriber hears of events in the order of their
publication. Workers take turns, and no turn is longer than `turnLength` events.

An event can also be published directly: then it goes past the queues to every
subscriber at once.
-/

namespace IrcClient

/-- The type that stands for all types. -/
def wildcard : String := "*"

/-- A subscription. Its queue outlives the registration. -/
structure Lane (σ : Type) where
  id : Nat
  type : String
  subscriber : σ
  registered : Bool
  queue : List Event

/-- Whether an event of a type is for a lane. -/
def Lane.wants {σ : Type} (l : Lane σ) (type : String) : Bool :=
  l.registered && (l.type == wildcard || l.type == type)

/--
The lanes in the order of subscription, and the numbers of those whose worker has
something to do, in the order in which it came to have it. A worker has to start
once even if its queue is empty.

Subscriptions are counted on from `nextId`, and the counter is taken never to run out.
One of 64 bits begins anew after `2 ^ 64` subscriptions, and from then on may give out
numbers that are in use. Numbers serve to tell subscriptions apart, and it does not matter
with which of them the counter begins.
-/
structure Bus (σ : Type) where
  lanes : List (Lane σ)
  nextId : Nat
  ready : List Nat

namespace Bus

variable {σ : Type}

/-- A bus without subscribers. -/
def empty : Bus σ := ⟨[], 0, []⟩

instance : Inhabited (Bus σ) := ⟨empty⟩

/-- Adds a subscription. Its number has never been in use. -/
def subscribe (b : Bus σ) (type : String) (subscriber : σ) : Bus σ × Nat :=
  ({ lanes := b.lanes ++ [⟨b.nextId, type, subscriber, true, []⟩]
     nextId := b.nextId + 1
     ready := b.ready ++ [b.nextId] }, b.nextId)

/-- Whether a subscription is in force. -/
def isRegistered (b : Bus σ) (id : Nat) : Bool :=
  b.lanes.any fun l => l.id = id && l.registered

/-- Ends a subscription. What is queued for it is still delivered. -/
def unsubscribe (b : Bus σ) (id : Nat) : Bus σ :=
  { b with lanes := b.lanes.map fun l => if l.id = id then { l with registered := false } else l }

/-- The number of subscriptions in force. -/
def count (b : Bus σ) : Nat :=
  b.lanes.countP (·.registered)

/-- Queues an event for everyone it is for. -/
def publish (b : Bus σ) (e : Event) : Bus σ :=
  { b with
    lanes := b.lanes.map fun l => if l.wants e.type then { l with queue := l.queue ++ [e] } else l
    ready := b.ready ++
      ((b.lanes.filter (·.wants e.type)).map (·.id)).filter (!b.ready.contains ·) }

/-- Those whom an event that is published directly reaches, in the order of subscription. -/
def publishSync (b : Bus σ) (e : Event) : List σ :=
  (b.lanes.filter (·.wants e.type)).map (·.subscriber)

/-- The worker of a lane takes one event to the subscriber, if there is one. -/
def deliver (b : Bus σ) (id : Nat) : Bus σ × Option (σ × Event) :=
  match b.lanes.find? (·.id = id) with
  | none => (b, none)
  | some lane =>
    ({ b with lanes := b.lanes.map fun l =>
        if l.id = id then { l with queue := l.queue.drop 1 } else l },
      lane.queue.head?.map fun e => (lane.subscriber, e))

/-- A worker takes this many events to its subscriber before others have their turn. -/
def turnLength : Nat := 128

/-- The worker of a lane has its turn. -/
def turn (b : Bus σ) (id : Nat) : Bus σ × List (σ × Event) :=
  match b.lanes.find? (·.id = id) with
  | none => (b, [])
  | some lane =>
    ({ b with lanes := b.lanes.map fun l =>
        if l.id = id then { l with queue := l.queue.drop turnLength } else l },
      (lane.queue.take turnLength).map fun e => (lane.subscriber, e))

/-- Whether something is left in the queue of a lane. -/
def hasQueued (b : Bus σ) (id : Nat) : Bool :=
  b.lanes.any fun l => l.id = id && !l.queue.isEmpty

/--
Every worker with something to do has a turn, one after another. Those that are not through
remain ready, the one that was stopped last in front.
-/
def round (b : Bus σ) : Bus σ × List (σ × Event) :=
  let (b', delivered) := b.ready.foldl (fun (b, out) id =>
    let (b, more) := b.turn id
    (b, out ++ more)) (b, [])
  ({ b' with ready := (b.ready.filter b'.hasQueued).reverse }, delivered)

/-- Rounds are held as long as a worker is ready, but no more than `fuel`. -/
def settleWithin : Nat → Bus σ → Bus σ × List (σ × Event)
  | 0, b => (b, [])
  | fuel + 1, b =>
    if b.ready.isEmpty then (b, [])
    else
      let (b, delivered) := b.round
      let (b, more) := settleWithin fuel b
      (b, delivered ++ more)

/-- Every worker with something to do does it. Each round but the first takes an event along. -/
def settle (b : Bus σ) : Bus σ × List (σ × Event) :=
  b.settleWithin ((b.lanes.flatMap (·.queue)).length + 2)

end Bus

end IrcClient
