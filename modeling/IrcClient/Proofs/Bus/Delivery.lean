import IrcClient.Proofs.Bus.Lanes

/-!
# What a bus delivers

Whatever is done with a bus, and whenever its workers deliver: a subscription hears of the events
that are published while it is in force, if they are for it, each once and in order
(`Bus.delivers`). The lanes of a bus are found again by their numbers (`Bus.Numbered`), of which
none is given out twice. This would be so if numbers had 64 bits, too, for as many subscriptions as
there are such numbers (`Bus.nodup_words`).
-/

namespace IrcClient

variable {σ : Type}

namespace Bus

/-! ## Lanes and their numbers -/

/-- The lane that comes in with a step. -/
def entering? (b : Bus σ) : BusAction σ → Option (Lane σ)
  | .subscribe type subscriber => some (.new b.nextId type subscriber)
  | _ => none

theorem mem_entering? {b : Bus σ} {a : BusAction σ} {l : Lane σ}
    (h : l ∈ (b.entering? a).toList) :
    ∃ type subscriber, a = .subscribe type subscriber ∧ l = .new b.nextId type subscriber := by
  cases a with
  | subscribe type subscriber => exact ⟨type, subscriber, rfl, List.mem_singleton.mp h⟩
  | unsubscribe | publish | publishSync | deliver => cases h

theorem lanes_act (b : Bus σ) (a : BusAction σ) :
    (b.act a).lanes = b.lanes.map (·.act a) ++ (b.entering? a).toList := by
  have hid : b.lanes.map (fun l => l) = b.lanes := List.map_id' _
  cases a with
  | subscribe type subscriber =>
    show b.lanes ++ [_] = b.lanes.map (fun l => l) ++ [_]
    rw [hid]
    rfl
  | publishSync e =>
    show b.lanes = b.lanes.map (fun l => l) ++ []
    rw [hid, List.append_nil]
  | unsubscribe id => exact (List.append_nil _).symm
  | publish e => exact (List.append_nil _).symm
  | deliver id =>
    refine Eq.trans ?_ (List.append_nil _).symm
    show (b.deliver id).1.lanes = _
    unfold deliver
    split
    · rename_i hnone
      rw [List.find?_eq_none] at hnone
      refine (hid.symm.trans (List.map_congr_left fun l hl => ?_))
      rw [Lane.act, if_neg (by simpa using hnone l hl)]
    · rfl

/-- A lane has been there from the beginning, or was added by a subscription. -/
theorem mem_lanes_run {b : Bus σ} {actions : List (BusAction σ)} {l : Lane σ} :
    l ∈ (b.run actions).lanes ↔ (∃ l₀ ∈ b.lanes, l = l₀.run actions) ∨
      ∃ before type subscriber since, actions = before ++ .subscribe type subscriber :: since ∧
        l = (Lane.new (b.run before).nextId type subscriber).run since := by
  induction actions generalizing b with
  | nil =>
    constructor
    · intro hl
      exact .inl ⟨l, hl, rfl⟩
    · rintro (⟨l₀, hl₀, rfl⟩ | ⟨before, type, subscriber, since, h, -⟩)
      · exact hl₀
      · cases before <;> cases h
  | cons a actions ih =>
    -- the first step finds a lane or adds one, and the induction takes it through the others
    show l ∈ ((b.act a).run actions).lanes ↔ _
    rw [ih, lanes_act]
    constructor
    · rintro (⟨l₀, hl₀, rfl⟩ | ⟨before, type, subscriber, since, rfl, rfl⟩)
      · rcases List.mem_append.mp hl₀ with hl₀ | hl₀
        · obtain ⟨l₁, hl₁, rfl⟩ := List.mem_map.mp hl₀
          exact .inl ⟨l₁, hl₁, rfl⟩
        · obtain ⟨type, subscriber, rfl, rfl⟩ := mem_entering? hl₀
          exact .inr ⟨[], type, subscriber, actions, rfl, rfl⟩
      · exact .inr ⟨a :: before, type, subscriber, since, rfl, rfl⟩
    · rintro (⟨l₀, hl₀, rfl⟩ | ⟨before, type, subscriber, since, h, rfl⟩)
      · exact .inl ⟨l₀.act a, List.mem_append_left _ (List.mem_map_of_mem hl₀), rfl⟩
      · cases before with
        | nil =>
          cases h
          exact .inl ⟨_, List.mem_append_right _ (List.mem_singleton.mpr rfl), rfl⟩
        | cons a' before =>
          cases h
          exact .inr ⟨before, type, subscriber, since, rfl, rfl⟩

/-- Later subscriptions have higher numbers, and there are numbers left. -/
structure Numbered (b : Bus σ) : Prop where
  increasing : b.lanes.Pairwise (·.id < ·.id)
  below : ∀ l ∈ b.lanes, l.id < b.nextId

theorem numbered_empty : (empty : Bus σ).Numbered :=
  ⟨.nil, by simp [empty]⟩

/-- A subscription takes a number, and nothing else does. -/
theorem nextId_act (b : Bus σ) (a : BusAction σ) :
    (b.act a).nextId = b.nextId + (b.number? a).toList.length := by
  cases a with
  | subscribe | unsubscribe | publish | publishSync => rfl
  | deliver id =>
    show (b.deliver id).1.nextId = b.nextId
    unfold deliver
    split <;> rfl

theorem nextId_act_le (b : Bus σ) (a : BusAction σ) : b.nextId ≤ (b.act a).nextId := by
  rw [nextId_act]
  exact Nat.le_add_right _ _

theorem nextId_run_le (b : Bus σ) (actions : List (BusAction σ)) :
    b.nextId ≤ (b.run actions).nextId := by
  induction actions generalizing b with
  | nil => exact Nat.le_refl _
  | cons a actions ih => exact Nat.le_trans (b.nextId_act_le a) (ih (b.act a))

variable {b : Bus σ}

theorem Numbered.act (h : b.Numbered) (a : BusAction σ) : (b.act a).Numbered := by
  have hold : (b.lanes.map (·.act a)).Pairwise (·.id < ·.id) := by
    rw [List.pairwise_map]
    exact h.increasing.imp fun hlt => by simpa using hlt
  constructor
  · rw [lanes_act, List.pairwise_append]
    refine ⟨hold, ?_, ?_⟩
    · cases b.entering? a <;> simp
    · intro l hl new hnew
      obtain ⟨l₀, hl₀, rfl⟩ := List.mem_map.mp hl
      obtain ⟨type, subscriber, rfl, rfl⟩ := mem_entering? hnew
      rw [Lane.id_act]
      exact h.below l₀ hl₀
  · intro l hl
    rw [lanes_act] at hl
    rcases List.mem_append.mp hl with hl | hl
    · obtain ⟨l₀, hl₀, rfl⟩ := List.mem_map.mp hl
      rw [Lane.id_act]
      exact Nat.lt_of_lt_of_le (h.below l₀ hl₀) (b.nextId_act_le a)
    · obtain ⟨type, subscriber, rfl, rfl⟩ := mem_entering? hl
      exact Nat.lt_succ_self b.nextId

theorem Numbered.run (h : b.Numbered) (actions : List (BusAction σ)) :
    (b.run actions).Numbered := by
  induction actions generalizing b with
  | nil => exact h
  | cons a actions ih => exact ih (h.act a)

theorem Numbered.lane?_eq (h : b.Numbered) {l : Lane σ} (hl : l ∈ b.lanes) :
    b.lane? l.id = some l := by
  obtain ⟨before, after, hlanes⟩ := List.append_of_mem hl
  have hlt := h.increasing
  rw [hlanes, List.pairwise_append] at hlt
  rw [lane?, List.find?_eq_some_iff_append]
  refine ⟨by simp, before, after, hlanes, fun l' hl' => ?_⟩
  have hbefore := hlt.2.2 l' hl' l List.mem_cons_self
  simpa using Nat.ne_of_lt hbefore

/-- The numbers that are given out follow one another. -/
theorem numbers_eq_range' (b : Bus σ) (actions : List (BusAction σ)) :
    b.numbers actions = List.range' b.nextId (b.numbers actions).length := by
  induction actions generalizing b with
  | nil => rfl
  | cons a actions ih =>
    have hnext := b.nextId_act a
    have hrest := ih (b.act a)
    rw [numbers]
    cases a with
    | subscribe type subscriber =>
      rw [hnext] at hrest
      exact congrArg (b.nextId :: ·) hrest
    | unsubscribe | publish | publishSync | deliver =>
      rw [hnext] at hrest
      exact hrest

/-- A number is higher than those that were given out before. -/
theorem numbers_increasing (b : Bus σ) (actions : List (BusAction σ)) :
    (b.numbers actions).Pairwise (· < ·) := by
  rw [numbers_eq_range']
  exact List.pairwise_lt_range'

/-- Kept in 64 bits, numbers are as distinct, as long as there are no more of them than words. -/
theorem nodup_words (b : Bus σ) {actions : List (BusAction σ)}
    (h : (b.numbers actions).length ≤ UInt64.size) :
    ((b.numbers actions).map UInt64.ofNat).Nodup := by
  refine List.pairwise_map.mpr ((b.numbers_increasing actions).imp_of_mem ?_)
  intro m n hm hn hlt hword
  rw [numbers_eq_range', List.mem_range'_1] at hm hn
  -- two numbers of one word would be a multiple of the number of words apart
  have hmod : m % UInt64.size = n % UInt64.size :=
    UInt64.toNat_ofNat'.symm.trans ((congrArg UInt64.toNat hword).trans UInt64.toNat_ofNat')
  unfold UInt64.size at h hmod
  omega

/-! ## Deliveries -/

theorem Numbered.handed_eq (h : b.Numbered) {l : Lane σ} (hl : l ∈ b.lanes) (a : BusAction σ) :
    b.handed l.id a = (l.handed a).map (l.subscriber, ·) := by
  cases a with
  | deliver id =>
    rw [handed, Lane.handed]
    by_cases hid : l.id = id
    · have hfind : b.lanes.find? (·.id = id) = some l := hid ▸ h.lane?_eq hl
      rw [if_pos hid.symm, if_pos hid, deliver, hfind]
    · rw [if_neg (Ne.symm hid), if_neg hid]
      rfl
  | subscribe | unsubscribe | publish | publishSync => rfl

/-- The worker of a lane takes to its subscriber what comes out of the queue. -/
theorem Numbered.delivered_eq (h : b.Numbered) {l : Lane σ} (hl : l ∈ b.lanes)
    (actions : List (BusAction σ)) :
    b.delivered l.id actions = (l.delivered actions).map (l.subscriber, ·) := by
  induction actions generalizing b l with
  | nil => rfl
  | cons a actions ih =>
    have hmem : l.act a ∈ (b.act a).lanes := by
      rw [lanes_act]
      exact List.mem_append_left _ (List.mem_map_of_mem hl)
    have hih := ih (h.act a) hmem
    rw [Lane.id_act, Lane.subscriber_act] at hih
    rw [delivered, Lane.delivered, hih, h.handed_eq hl, List.map_append]
    cases l.handed a <;> rfl

/-- There is nothing to deliver before there is a lane. -/
theorem Numbered.delivered_nil (h : b.Numbered) {id : Nat} {actions : List (BusAction σ)}
    (hid : (b.run actions).nextId ≤ id) : b.delivered id actions = [] := by
  induction actions generalizing b with
  | nil => rfl
  | cons a actions ih =>
    have hnone : b.handed id a = none := by
      cases a with
      | deliver j =>
        have hnext : b.nextId ≤ id := Nat.le_trans (b.nextId_run_le _) hid
        rw [handed]
        split
        · rename_i hj
          have hfind : b.lanes.find? (·.id = j) = none := by
            rw [List.find?_eq_none]
            intro l hl
            have hbelow := h.below l hl
            have hne : l.id ≠ j := by omega
            simpa using hne
          rw [deliver, hfind]
        · rfl
      | subscribe | unsubscribe | publish | publishSync => rfl
    rw [delivered, hnone, ih (h.act a) hid]
    rfl

/-! ## Subscriptions in force -/

end Bus

/-- A subscription as it was made, with the number that was given out for it. -/
structure Subscription (σ : Type) where
  id : Nat
  type : String
  subscriber : σ

/-- A subscription has been made in the course of some steps, and has not been ended since. -/
def InForce (actions : List (BusAction σ)) (r : Subscription σ) : Prop :=
  ∃ before since, actions = before ++ .subscribe r.type r.subscriber :: since ∧
    ((Bus.empty.run before).subscribe r.type r.subscriber).2 = r.id ∧
    ∀ a ∈ since, a.ends r.id = false

def Lane.subscription (l : Lane σ) : Subscription σ :=
  ⟨l.id, l.type, l.subscriber⟩

theorem Lane.subscription_run (l : Lane σ) (actions : List (BusAction σ)) :
    (l.run actions).subscription = l.subscription := by
  obtain ⟨hid, htype, hsubscriber⟩ := l.fixed_run actions
  rw [subscription, hid, htype, hsubscriber]
  rfl

namespace Bus

/-- The subscriptions in force are those of the lanes that are registered. -/
theorem inForce_iff (actions : List (BusAction σ)) (r : Subscription σ) :
    InForce actions r ↔
      ∃ l ∈ (Bus.empty.run actions).lanes, l.registered = true ∧ l.subscription = r := by
  constructor
  · rintro ⟨before, since, rfl, hid, hsince⟩
    refine ⟨_, mem_lanes_run.mpr (.inr ⟨before, _, _, since, rfl, rfl⟩), ?_, ?_⟩
    · rw [Lane.registered_run, Bool.and_eq_true, List.all_eq_true]
      refine ⟨rfl, fun a ha => ?_⟩
      show (!a.ends ((Bus.empty.run before).subscribe r.type r.subscriber).2) = true
      rw [hid, hsince a ha]
      rfl
    · rw [Lane.subscription_run]
      show Subscription.mk ((Bus.empty.run before).subscribe r.type r.subscriber).2 _ _ = r
      rw [hid]
      rfl
  · rintro ⟨l, hl, hregistered, rfl⟩
    rcases mem_lanes_run.mp hl with ⟨l₀, hl₀, -⟩ | ⟨before, type, subscriber, since, rfl, rfl⟩
    · cases hl₀
    · rw [Lane.registered_run, Bool.and_eq_true, List.all_eq_true] at hregistered
      rw [Lane.subscription_run]
      refine ⟨before, since, rfl, rfl, fun a ha => ?_⟩
      have hends := hregistered.2 a ha
      rwa [Bool.not_eq_true'] at hends

theorem isRegistered_iff (actions : List (BusAction σ)) (id : Nat) :
    (Bus.empty.run actions).isRegistered id = true ↔
      ∃ type subscriber, InForce actions ⟨id, type, subscriber⟩ := by
  simp only [isRegistered, List.any_eq_true, Bool.and_eq_true, decide_eq_true_eq, inForce_iff]
  constructor
  · rintro ⟨l, hl, rfl, hregistered⟩
    exact ⟨l.type, l.subscriber, l, hl, hregistered, rfl⟩
  · rintro ⟨type, subscriber, l, hl, hregistered, hsubscription⟩
    exact ⟨l, hl, congrArg Subscription.id hsubscription, hregistered⟩

/-- One subscription less is in force, if there was one of the number. -/
theorem count_unsubscribe (b : Bus σ) (id : Nat) :
    (b.unsubscribe id).count + b.lanes.countP (fun l => l.id = id && l.registered) = b.count := by
  show (b.lanes.map _).countP _ + _ = b.lanes.countP _
  rw [List.countP_map]
  induction b.lanes with
  | nil => rfl
  | cons l lanes ih =>
    simp only [List.countP_cons, Function.comp_apply]
    by_cases hid : l.id = id
    · cases hregistered : l.registered with
      | false => simpa [hid, hregistered] using ih
      | true =>
        simp only [hid, ↓reduceIte, decide_true, Bool.and_true, Bool.false_eq_true]
        omega
    · cases hregistered : l.registered with
      | false => simpa [hid, hregistered] using ih
      | true =>
        simp only [hid, hregistered, ↓reduceIte, decide_false, Bool.false_and, Bool.false_eq_true]
        omega

theorem count_ne_iff (b : Bus σ) (id : Nat) :
    (b.unsubscribe id).count ≠ b.count ↔ b.isRegistered id = true := by
  have hcount := b.count_unsubscribe id
  have hpos : 0 < b.lanes.countP (fun l => l.id = id && l.registered) ↔
      b.isRegistered id = true := by
    rw [List.countP_pos_iff, isRegistered, List.any_eq_true]
  rw [← hpos]
  omega

/-- An unsubscription is what it is to each lane: it leaves the queues, and the other lanes. -/
theorem lane?_unsubscribe (b : Bus σ) (id j : Nat) :
    (b.unsubscribe id).lane? j = (b.lane? j).map (·.act (.unsubscribe id)) := by
  have hfind : ∀ l : Lane σ, decide ((l.act (.unsubscribe id)).id = j) = decide (l.id = j) := by
    intro l
    rw [Lane.id_act]
  show (b.lanes.map (·.act (.unsubscribe id))).find? (·.id = j) = _
  rw [List.find?_map, lane?]
  simp only [Function.comp_def, hfind]

theorem queue_unsubscribe (b : Bus σ) (id j : Nat) :
    ((b.unsubscribe id).lane? j).map (·.queue) = (b.lane? j).map (·.queue) := by
  rw [lane?_unsubscribe, Option.map_map]
  congr 1
  funext l
  show (l.act (.unsubscribe id)).queue = l.queue
  rw [Lane.act]
  split <;> rfl

theorem lane?_unsubscribe_of_ne (b : Bus σ) {id j : Nat} (h : j ≠ id) :
    (b.unsubscribe id).lane? j = b.lane? j := by
  rw [lane?_unsubscribe]
  cases hl : b.lane? j with
  | none => rfl
  | some l =>
    have hid : l.id = j := by simpa using List.find?_some hl
    rw [Option.map_some, Lane.act, if_neg (hid ▸ h)]

/-- An event that is published directly reaches the subscriptions in force, in their order. -/
theorem exists_publishSync_eq (actions : List (BusAction σ)) (e : Event) :
    ∃ subscriptions : List (Subscription σ),
      subscriptions.Pairwise (·.id < ·.id) ∧
      (∀ r, r ∈ subscriptions ↔ InForce actions r) ∧
      (Bus.empty.run actions).publishSync e = (subscriptions.filter fun r =>
        r.type == wildcard || r.type == e.type).map (·.subscriber) := by
  have hnumbered := (numbered_empty (σ := σ)).run actions
  refine ⟨((Bus.empty.run actions).lanes.filter (·.registered)).map (·.subscription), ?_, ?_, ?_⟩
  · rw [List.pairwise_map]
    exact hnumbered.increasing.filter _
  · intro r
    simp only [List.mem_map, List.mem_filter, inForce_iff, and_assoc]
  · rw [publishSync, List.filter_map, List.map_map, List.filter_filter]
    congr 2
    funext l
    exact Bool.and_comm _ _

/-- What a subscription hears of has been delivered to its subscriber, or is in its queue. -/
theorem delivered_queued (before since : List (BusAction σ)) (type : String) (subscriber : σ) :
    let id := (Bus.empty.run before).nextId
    let actions := before ++ .subscribe type subscriber :: since
    ∃ lane, (Bus.empty.run actions).lane? id = some lane ∧
      Bus.empty.delivered id actions ++ lane.queue.map (subscriber, ·) =
        (heard id type since).map (subscriber, ·) := by
  intro id actions
  have hnumbered : ((Bus.empty.run before).act (.subscribe type subscriber)).Numbered :=
    (numbered_empty.run before).act _
  have hnew : Lane.new id type subscriber ∈
      ((Bus.empty.run before).act (.subscribe type subscriber)).lanes :=
    List.mem_append_right _ (List.mem_singleton.mpr rfl)
  refine ⟨(Lane.new id type subscriber).run since, ?_, ?_⟩
  · have hmem : (Lane.new id type subscriber).run since ∈ (Bus.empty.run actions).lanes :=
      mem_lanes_run.mpr (.inr ⟨before, type, subscriber, since, rfl, rfl⟩)
    have hlane := (numbered_empty.run actions).lane?_eq hmem
    rwa [(Lane.fixed_run _ _).1] at hlane
  -- before the subscription there was no lane of the number, and nothing to deliver for it
  · have hdelivered : Bus.empty.delivered id actions =
        ((Lane.new id type subscriber).delivered since).map (subscriber, ·) := by
      rw [delivered_append, numbered_empty.delivered_nil (Nat.le_refl _)]
      exact hnumbered.delivered_eq hnew since
    rw [hdelivered, ← List.map_append, Lane.conservation]
    rfl

/--
**A subscription hears of what is published for it.** However subscriptions, unsubscriptions,
publications and deliveries take turns: what has been delivered for a subscription, with what is
in its queue, is what was published for it while it was in force, each event once and in order.
An unsubscription finds the subscription if it is in force, leaves its queue, and changes nothing
about the others. No number is given out twice. An event that is published directly reaches
exactly the subscriptions in force that it is for, in their order.
-/
theorem delivers (actions : List (BusAction σ)) :
    (∀ before type subscriber since, actions = before ++ .subscribe type subscriber :: since →
      let id := ((Bus.empty.run before).subscribe type subscriber).2
      ∃ lane, (Bus.empty.run actions).lane? id = some lane ∧
        Bus.empty.delivered id actions ++ lane.queue.map (subscriber, ·) =
          (heard id type since).map (subscriber, ·)) ∧
    (∀ id, let b := Bus.empty.run actions
      (b.isRegistered id = true ↔ ∃ type subscriber, InForce actions ⟨id, type, subscriber⟩) ∧
      ((b.unsubscribe id).count ≠ b.count ↔ b.isRegistered id = true) ∧
      (∀ j, ((b.unsubscribe id).lane? j).map (·.queue) = (b.lane? j).map (·.queue)) ∧
      ∀ j, j ≠ id → (b.unsubscribe id).lane? j = b.lane? j) ∧
    (Bus.empty.numbers actions).Pairwise (· < ·) ∧
    ∀ e, ∃ subscriptions : List (Subscription σ),
      subscriptions.Pairwise (·.id < ·.id) ∧
      (∀ r, r ∈ subscriptions ↔ InForce actions r) ∧
      (Bus.empty.run actions).publishSync e = (subscriptions.filter fun r =>
        r.type == wildcard || r.type == e.type).map (·.subscriber) := by
  refine ⟨?_, ?_, numbers_increasing _ actions, exists_publishSync_eq actions⟩
  · rintro before type subscriber since rfl
    exact delivered_queued before since type subscriber
  · intro id b
    exact ⟨isRegistered_iff actions id, b.count_ne_iff id, b.queue_unsubscribe id,
      fun j => b.lane?_unsubscribe_of_ne⟩

end Bus

end IrcClient
