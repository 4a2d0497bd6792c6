import IrcClient.Proofs.Bus.Lanes

/-!
# Turns are single deliveries

Workers take turns, and a turn takes several events. But a turn is no more than so many
deliveries by one worker, so whatever order the turns come in, what is known of single deliveries
in any order holds of a bus that is settled (`Bus.exists_settle_eq`).
-/

namespace IrcClient.Bus

variable {σ : Type}

/-- The workers of some lanes deliver an event each, one after another. -/
def deliverAll (b : Bus σ) : List Nat → Bus σ × List (σ × Event)
  | [] => (b, [])
  | id :: ids =>
    (((b.deliver id).1.deliverAll ids).1,
      (b.deliver id).2.toList ++ ((b.deliver id).1.deliverAll ids).2)

theorem deliverAll_fst (b : Bus σ) (ids : List Nat) :
    (b.deliverAll ids).1 = b.run (ids.map .deliver) := by
  induction ids generalizing b with
  | nil => rfl
  | cons id ids ih => exact ih _

theorem deliverAll_append (b : Bus σ) (xs ys : List Nat) :
    b.deliverAll (xs ++ ys) = (((b.deliverAll xs).1.deliverAll ys).1,
      (b.deliverAll xs).2 ++ ((b.deliverAll xs).1.deliverAll ys).2) := by
  induction xs generalizing b with
  | nil => rfl
  | cons id xs ih =>
    rw [List.cons_append, deliverAll, ih, deliverAll, List.append_assoc]

/-- A delivery does not depend on who is ready. -/
theorem deliver_ready (b : Bus σ) (ready : List Nat) (id : Nat) :
    ({ b with ready } : Bus σ).deliver id =
      ({ (b.deliver id).1 with ready }, (b.deliver id).2) := by
  unfold deliver
  dsimp only
  split <;> rfl

theorem deliverAll_ready (b : Bus σ) (ready : List Nat) (ids : List Nat) :
    ({ b with ready } : Bus σ).deliverAll ids =
      ({ (b.deliverAll ids).1 with ready }, (b.deliverAll ids).2) := by
  induction ids generalizing b with
  | nil => rfl
  | cons id ids ih => rw [deliverAll, deliver_ready, ih, deliverAll]

/-- The queue of a lane without its first events; other lanes stay as they are. -/
def dropQueued (id n : Nat) (l : Lane σ) : Lane σ :=
  if l.id = id then { l with queue := l.queue.drop n } else l

theorem id_dropQueued (id n : Nat) (l : Lane σ) : (dropQueued id n l).id = l.id := by
  unfold dropQueued
  split <;> rfl

theorem dropQueued_dropQueued (id m n : Nat) (l : Lane σ) :
    dropQueued id n (dropQueued id m l) = dropQueued id (m + n) l := by
  unfold dropQueued
  by_cases h : l.id = id
  · simp [h]
  · simp [h]

theorem deliverAll_replicate_none {b : Bus σ} {id : Nat}
    (h : b.lanes.find? (·.id = id) = none) (n : Nat) :
    b.deliverAll (List.replicate n id) = (b, []) := by
  induction n with
  | zero => rfl
  | succ n ih =>
    have hdeliver : b.deliver id = (b, none) := by rw [deliver, h]
    rw [List.replicate_succ, deliverAll, hdeliver, ih]
    rfl

theorem deliverAll_replicate_some {b : Bus σ} {id : Nat} {lane : Lane σ}
    (h : b.lanes.find? (·.id = id) = some lane) (n : Nat) :
    b.deliverAll (List.replicate n id) = ({ b with lanes := b.lanes.map (dropQueued id n) },
      (lane.queue.take n).map fun e => (lane.subscriber, e)) := by
  induction n generalizing b lane with
  | zero =>
    have hid : b.lanes.map (dropQueued id 0) = b.lanes := by
      refine (List.map_congr_left fun l _ => ?_).trans (List.map_id' b.lanes)
      rw [dropQueued, List.drop_zero, ite_self]
    rw [hid]
    rfl
  | succ n ih =>
    -- one delivery takes the first event, and the others find the lane with the rest
    have hlane : lane.id = id := by simpa using List.find?_some h
    have hdeliver : b.deliver id = ({ b with lanes := b.lanes.map (dropQueued id 1) },
        lane.queue.head?.map fun e => (lane.subscriber, e)) := by
      rw [deliver, h]
      rfl
    have hfind : (b.lanes.map (dropQueued id 1)).find? (·.id = id) =
        some { lane with queue := lane.queue.drop 1 } := by
      simp only [List.find?_map, Function.comp_def, id_dropQueued, h, Option.map_some]
      rw [dropQueued, if_pos hlane]
    have hdrop : (b.lanes.map (dropQueued id 1)).map (dropQueued id n) =
        b.lanes.map (dropQueued id (n + 1)) := by
      rw [List.map_map, Nat.add_comm n 1]
      exact List.map_congr_left fun l _ => dropQueued_dropQueued id 1 n l
    rw [List.replicate_succ, deliverAll, hdeliver]
    dsimp only
    rw [ih (b := { b with lanes := b.lanes.map (dropQueued id 1) }) hfind, hdrop]
    cases lane.queue with
    | nil => simp
    | cons e queue => rfl

/-- A turn is as many deliveries as a turn is long. -/
theorem turn_eq (b : Bus σ) (id : Nat) :
    b.turn id = b.deliverAll (List.replicate turnLength id) := by
  unfold turn
  cases h : b.lanes.find? (·.id = id) with
  | none => exact (deliverAll_replicate_none h turnLength).symm
  | some lane => exact (deliverAll_replicate_some h turnLength).symm

theorem foldl_turn (ids : List Nat) (b : Bus σ) (out : List (σ × Event)) :
    ids.foldl (fun (b, out) id =>
        let (b, more) := b.turn id
        (b, out ++ more)) (b, out) =
      ((b.deliverAll (ids.flatMap (List.replicate turnLength))).1,
        out ++ (b.deliverAll (ids.flatMap (List.replicate turnLength))).2) := by
  induction ids generalizing b out with
  | nil => simp [deliverAll]
  | cons id ids ih =>
    rw [List.foldl_cons, List.flatMap_cons, deliverAll_append]
    dsimp only
    rw [ih, turn_eq, List.append_assoc]

/-- The deliveries of a round, worker by worker. -/
def roundIds (b : Bus σ) : List Nat :=
  b.ready.flatMap (List.replicate turnLength)

theorem round_fst (b : Bus σ) :
    b.round.1 = { (b.deliverAll b.roundIds).1 with ready := b.round.1.ready } := by
  unfold round
  rw [foldl_turn]
  rfl

theorem round_snd (b : Bus σ) : b.round.2 = (b.deliverAll b.roundIds).2 := by
  unfold round
  rw [foldl_turn]
  rfl

/-- Who is ready is set anew after each round, and does not matter to the deliveries. -/
theorem exists_settleWithin_eq (fuel : Nat) (b : Bus σ) :
    ∃ ids, b.settleWithin fuel =
      ({ (b.deliverAll ids).1 with ready := (b.settleWithin fuel).1.ready },
        (b.deliverAll ids).2) := by
  induction fuel generalizing b with
  | zero => exact ⟨[], rfl⟩
  | succ fuel ih =>
    by_cases hready : b.ready.isEmpty = true
    · have hsettle : b.settleWithin (fuel + 1) = (b, []) := by rw [settleWithin, if_pos hready]
      exact ⟨[], by rw [hsettle]; rfl⟩
    · obtain ⟨ids, hids⟩ := ih b.round.1
      have hsettle : b.settleWithin (fuel + 1) = ((b.round.1.settleWithin fuel).1,
          b.round.2 ++ (b.round.1.settleWithin fuel).2) := by rw [settleWithin, if_neg hready]
      have hrest : b.round.1.deliverAll ids =
          ({ (b.deliverAll (b.roundIds ++ ids)).1 with ready := b.round.1.ready },
            ((b.deliverAll b.roundIds).1.deliverAll ids).2) := by
        rw [deliverAll_append, round_fst, deliverAll_ready]
      rw [hrest] at hids
      refine ⟨b.roundIds ++ ids, ?_⟩
      rw [hsettle, round_snd]
      generalize b.round.1.settleWithin fuel = settled at hids
      rw [hids, deliverAll_append]

/-- **To settle is to deliver.** What a settled bus has delivered, its workers have one by one. -/
theorem exists_settle_eq (b : Bus σ) :
    ∃ ids, b.settle = ({ b.run (ids.map .deliver) with ready := b.settle.1.ready },
      (b.deliverAll ids).2) := by
  obtain ⟨ids, hids⟩ := b.exists_settleWithin_eq ((b.lanes.flatMap (·.queue)).length + 2)
  rw [deliverAll_fst] at hids
  exact ⟨ids, hids⟩

end IrcClient.Bus
