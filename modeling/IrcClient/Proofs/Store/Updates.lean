import IrcClient.Proofs.Store.Writes

/-!
# Updates of stored channels

Most writes update one channel, which has to be known (`Write.updates?`). A store that works
either edits that channel in its place (`Store.edit`) or refuses, and it refuses for no other
reason than that the channel is not there (`perform_of_updates`).

`Store.edit` takes any channel of any network, known or not, so edits can be put together and put
in another order (`edit_edit`, `edit_comm`) without a look at what is stored. What is said of a
store that does what it can then holds of every store.
-/

namespace IrcClient

/-- The channel that a write updates, for which it has to be known. -/
def Write.updates? : Write → Option String
  | .channelOpen channel _ | .autoJoin channel _ | .topic channel _ | .modes channel _
  | .replaceMembers channel _ | .upsertMember channel _ | .removeMember channel _ => some channel
  | .line _ | .upsertChannel _ | .renameUser .. => none

namespace Store

variable {network : NetworkId}

/-! ## Edits -/

/-- Changes one channel of a network, if it is known. -/
def edit (s : Store) (network : NetworkId) (name : String) (f : StoredChannel → StoredChannel) :
    Store :=
  { s with shelves := s.shelves.modify network (·.modify (fold name) f) }

/-- A change of the shelf of one network that leaves an empty shelf empty. -/
theorem shelf_modify (s : Store) (network other : NetworkId) {f : Shelf → Shelf}
    (hf : f .empty = .empty) :
    ({ s with shelves := s.shelves.modify network f } : Store).shelf other =
      if network = other then f (s.shelf other) else s.shelf other := by
  rw [shelf, Table.get?_modify]
  split
  · cases h : s.shelves.get? other with
    | none => rw [shelf, h, Option.map_none, Option.getD_none, hf]
    | some shelf' => rw [shelf, h, Option.map_some, Option.getD_some, Option.getD_some]
  · rfl

theorem shelf_edit (s : Store) (network other : NetworkId) (name : String)
    (f : StoredChannel → StoredChannel) :
    (s.edit network name f).shelf other =
      if network = other then (s.shelf other).modify (fold name) f else s.shelf other :=
  shelf_modify s network other rfl

theorem failing_edit (s : Store) (network : NetworkId) (name : String)
    (f : StoredChannel → StoredChannel) : (s.edit network name f).failing = s.failing := rfl

/-- To edit a channel twice is to edit it once. -/
theorem edit_edit (s : Store) (network : NetworkId) (name : String)
    (f g : StoredChannel → StoredChannel) :
    (s.edit network name f).edit network name g = s.edit network name (g ∘ f) := by
  simp only [edit, Table.modify_modify, Function.comp_def]

/-- Edits of two channels, or edits that can be made in either order, do not get in each
other's way. -/
theorem edit_comm (s : Store) (network : NetworkId) {a b : String}
    {f g : StoredChannel → StoredChannel} (h : fold a = fold b → ∀ c, g (f c) = f (g c)) :
    (s.edit network a f).edit network b g = (s.edit network b g).edit network a f := by
  have hshelves : (s.shelves.modify network (·.modify (fold a) f)).modify network
      (·.modify (fold b) g) = (s.shelves.modify network (·.modify (fold b) g)).modify network
      (·.modify (fold a) f) :=
    Table.modify_comm s.shelves fun _ shelf => Table.modify_comm shelf h
  simp only [edit, hshelves]

/-- What leaves a channel as it is, if the channel is there, leaves the store as it is. -/
theorem edit_eq_self {s : Store} {network : NetworkId} {name : String}
    {f : StoredChannel → StoredChannel} (h : ∀ c, s.channel? network name = some c → f c = c) :
    s.edit network name f = s := by
  have hshelves : s.shelves.modify network (·.modify (fold name) f) = s.shelves := by
    refine Table.modify_eq_self fun shelf hs => Table.modify_eq_self fun c hc => h c ?_
    rw [channel?, Store.shelf, hs, Option.getD_some, hc]
  rw [edit, hshelves]

/-- The same edit can be made of some channels in any order. -/
theorem foldl_edit_perm {names names' : List String} (hp : names.Perm names')
    (g : StoredChannel → StoredChannel) (s : Store) :
    names.foldl (fun s name => s.edit network name g) s =
      names'.foldl (fun s name => s.edit network name g) s :=
  hp.foldl_eq' (fun a _ b _ s => edit_comm s network (a := a) (b := b) fun _ _ => rfl) s

/-! ## What an update comes to -/

/-- A channel that is known can be edited by putting it in its place again. -/
theorem updateChannel_eq (s : Store) (network : NetworkId) (name : String)
    (f : StoredChannel → StoredChannel) :
    s.updateChannel network name f =
      if (s.channel? network name).isSome then .ok (s.edit network name f)
      else .error (.noSuchChannel name) := by
  unfold updateChannel
  cases hc : s.channel? network name with
  | none => rfl
  | some c =>
      have hget : (s.shelf network).get? (fold name) = some c := hc
      cases hs : s.shelves.get? network with
      | none =>
          rw [Store.shelf, hs] at hget
          cases hget
      | some shelf =>
          have hshelf : s.shelf network = shelf := by rw [Store.shelf, hs, Option.getD_some]
          rw [hshelf] at hget
          have hset : s.setShelf network ((s.shelf network).insert (fold name) (f c)) =
              s.edit network name f := by
            rw [edit, setShelf, hshelf, Table.modify_of_get? hs, Table.modify_of_get? hget]
          exact congrArg Except.ok hset

/-- **An update edits a channel that is known, and is refused for one that is not.** -/
theorem perform_of_updates {w : Write} {name : String} (h : w.updates? = some name) (s : Store)
    (network : NetworkId) :
    s.perform network w =
      if (s.channel? network name).isSome then .ok (s.edit network name w.onChannel)
      else .error (.noSuchChannel name) := by
  rw [← updateChannel_eq]
  cases w with
  | line | upsertChannel | renameUser => cases h
  | channelOpen | autoJoin | topic | modes | replaceMembers | upsertMember | removeMember =>
      cases h
      rfl

/-! ## Stores that work and stores that fail -/

theorem apply_of_working {s : Store} (hf : s.failing = false) (network : NetworkId) (w : Write) :
    s.apply network w = s.perform network w :=
  if_neg (by simp [hf])

theorem apply_of_failing {s : Store} (hf : s.failing = true) (network : NetworkId) (w : Write) :
    s.apply network w = .error .unavailable :=
  if_pos hf

/-- What a store that works makes of an update. -/
theorem attempt_of_updates {s : Store} {w : Write} {name : String} (hf : s.failing = false)
    (h : w.updates? = some name) (network : NetworkId) :
    s.attempt network w = s.edit network name w.onChannel := by
  rw [attempt, apply_of_working hf, perform_of_updates h]
  cases hc : s.channel? network name with
  | some c => rfl
  | none =>
      have hnone : ∀ c, s.channel? network name = some c → w.onChannel c = c := by
        intro c hsome
        rw [hc] at hsome
        cases hsome
      exact (edit_eq_self hnone).symm

theorem attempt_of_failing {s : Store} (hf : s.failing = true) (network : NetworkId)
    (w : Write) : s.attempt network w = s := by
  rw [attempt, apply_of_failing hf]

theorem attemptAll_of_failing {s : Store} (hf : s.failing = true) (network : NetworkId) :
    ∀ ws : List Write, s.attemptAll network ws = s
  | [] => rfl
  | w :: ws => by
      show (s.attempt network w).attemptAll network ws = s
      rw [attempt_of_failing hf, attemptAll_of_failing hf network ws]

/-! ## Several writes -/

theorem attemptAll_append (s : Store) (network : NetworkId) (a b : List Write) :
    s.attemptAll network (a ++ b) = (s.attemptAll network a).attemptAll network b :=
  List.foldl_append

/-- Updates of one channel edit it once. -/
theorem attemptAll_of_updates {name : String} : ∀ {ws : List Write} {s : Store},
    s.failing = false → (∀ w ∈ ws, w.updates? = some name) → ∀ network,
      s.attemptAll network ws = s.edit network name (·.after ws)
  | [], _, _, _, _ => (edit_eq_self fun _ _ => rfl).symm
  | w :: ws, s, hf, h, network => by
      show (s.attempt network w).attemptAll network ws = _
      rw [attempt_of_updates hf (h w List.mem_cons_self),
        attemptAll_of_updates (s := s.edit network name w.onChannel) hf
          (fun w hw => h w (List.mem_cons_of_mem _ hw)), edit_edit]
      rfl

/-- Updates that do the same to each of some channels edit one of them after the other. -/
theorem attemptAll_flatMap {f : String → List Write} {g : StoredChannel → StoredChannel}
    (hf : ∀ name, ∀ w ∈ f name, w.updates? = some name) (hg : ∀ name c, c.after (f name) = g c)
    (network : NetworkId) : ∀ {names : List String} {s : Store}, s.failing = false →
      s.attemptAll network (names.flatMap f) =
        names.foldl (fun s name => s.edit network name g) s
  | [], _, _ => rfl
  | name :: names, s, hs => by
      have hfirst : s.attemptAll network (f name) = s.edit network name g := by
        rw [attemptAll_of_updates hs (hf name) network, funext (hg name)]
      rw [List.flatMap_cons, attemptAll_append, hfirst, List.foldl_cons]
      exact attemptAll_flatMap hf hg network hs

/-- In whatever order channels are updated, the store becomes the same. -/
theorem attemptAll_flatMap_perm {f : String → List Write} {g : StoredChannel → StoredChannel}
    (hf : ∀ name, ∀ w ∈ f name, w.updates? = some name) (hg : ∀ name c, c.after (f name) = g c)
    {names names' : List String} (hp : names.Perm names') (s : Store) (network : NetworkId) :
    s.attemptAll network (names.flatMap f) = s.attemptAll network (names'.flatMap f) := by
  cases hs : s.failing with
  | true => rw [attemptAll_of_failing hs, attemptAll_of_failing hs]
  | false =>
      rw [attemptAll_flatMap hf hg network hs, attemptAll_flatMap hf hg network hs,
        foldl_edit_perm hp]

/-- A write does not make a store fail or recover. -/
theorem failing_attempt (s : Store) (network : NetworkId) (w : Write) :
    (s.attempt network w).failing = s.failing := by
  cases hf : s.failing with
  | true => rw [attempt_of_failing hf, hf]
  | false =>
      cases w with
      | line | renameUser =>
          rw [attempt, apply_of_working hf]
          exact hf
      | upsertChannel name =>
          rw [attempt, apply_of_working hf, perform]
          cases (s.channel? network name).isSome <;> exact hf
      | channelOpen | autoJoin | topic | modes | replaceMembers | upsertMember
      | removeMember => rw [attempt_of_updates hf rfl, failing_edit, hf]

/-- What updates of one channel, and lines of history, make of the shelf. -/
theorem shelf_attemptAll {name : String} : ∀ {ws : List Write} {s : Store},
    s.failing = false → (∀ w ∈ ws, w.updates? = some name ∨ ∃ l, w = .line l) → ∀ network,
      (s.attemptAll network ws).shelf network =
        (s.shelf network).modify (fold name) (·.after ws)
  | [], s, _, _, network => (Table.modify_eq_self fun _ _ => rfl).symm
  | w :: ws, s, hf, h, network => by
      have hrest : ∀ {s : Store}, s.failing = false → (s.attemptAll network ws).shelf network =
          (s.shelf network).modify (fold name) (·.after ws) := fun hf =>
        shelf_attemptAll hf (fun w hw => h w (List.mem_cons_of_mem _ hw)) network
      show ((s.attempt network w).attemptAll network ws).shelf network = _
      rw [hrest ((failing_attempt s network w).trans hf)]
      rcases h w List.mem_cons_self with hw | ⟨l, rfl⟩
      · rw [attempt_of_updates hf hw, shelf_edit, if_pos rfl, Table.modify_modify]
        rfl
      · have hline : s.attempt network (.line l) = { s with history := s.history ++ [l] } := by
          rw [attempt, apply_of_working hf, perform]
        rw [hline]
        rfl

end Store

end IrcClient
