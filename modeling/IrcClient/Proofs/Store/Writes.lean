import IrcClient.Proofs.Table
import IrcClient.Store

/-!
# Writes that are not refused

`Store.attemptAll` carries out what it can and says nothing of the rest. To tell that
nothing was refused there has to be a run that stops at a refusal: `Store.applyAll`.
Where it succeeds, both come to the same store (`attemptAll_of_applyAll`).

A write names at most one channel (`Write.IsAbout`), and changes that one
(`Write.onChannel`). So what a list of writes about one channel does to the shelf is one
insertion, however long the list is.
-/

namespace IrcClient

/-! ## Writes and the channel they name -/

/-- Whether a write, if it names a channel, names this one. Renaming someone names none. -/
def Write.IsAbout (name : String) : Write → Prop
  | .line _ => True
  | .upsertChannel channel | .channelOpen channel _ | .autoJoin channel _ | .topic channel _
  | .modes channel _ | .replaceMembers channel _ | .upsertMember channel _
  | .removeMember channel _ => channel = name
  | .renameUser .. => False

/-- What a write does to a channel that it names. -/
def Write.onChannel : Write → StoredChannel → StoredChannel
  | .line _, c => c
  | .upsertChannel _, c => c
  | .channelOpen _ open?, c => { c with record := { c.record with isOpen := open? } }
  | .autoJoin _ auto?, c => { c with record := { c.record with autoJoin := auto? } }
  | .topic _ text, c => { c with record := { c.record with topic := some text } }
  | .modes _ flags, c => { c with record := { c.record with modes := flags } }
  | .replaceMembers _ ms, c => { c with members := StoredChannel.membersOf ms }
  | .upsertMember _ m, c => { c with members := c.members.insert (fold m.nick) m }
  | .removeMember _ nick, c => { c with members := c.members.erase (fold nick) }
  | .renameUser old new, c => c.renameUser old new

/-- A channel after writes that name it. -/
def StoredChannel.after (c : StoredChannel) (ws : List Write) : StoredChannel :=
  ws.foldl (fun c w => w.onChannel c) c

namespace StoredChannel

@[simp] theorem after_nil (c : StoredChannel) : c.after [] = c := rfl

@[simp] theorem after_cons (c : StoredChannel) (w : Write) (ws : List Write) :
    c.after (w :: ws) = (w.onChannel c).after ws := rfl

theorem after_append (c : StoredChannel) (a b : List Write) :
    c.after (a ++ b) = (c.after a).after b := by
  simp only [after, List.foldl_append]

/-- No write gives a channel another name. -/
theorem name_after : ∀ (ws : List Write) (c : StoredChannel),
    (c.after ws).record.name = c.record.name
  | [], _ => rfl
  | w :: ws, c => by
      rw [after_cons, name_after ws]
      cases w with
      | renameUser old new =>
          show (c.renameUser old new).record.name = c.record.name
          unfold renameUser
          split <;> rfl
      | _ => rfl

end StoredChannel

namespace Store

/-- Carries out writes one after another, up to the first that is refused. -/
def applyAll (s : Store) (network : NetworkId) : List Write → Except StoreError Store
  | [] => .ok s
  | w :: ws =>
    match s.apply network w with
    | .ok s => applyAll s network ws
    | .error e => .error e

/-- Writes that are all carried out leave the store that attempting them leaves. -/
theorem attemptAll_of_applyAll {network : NetworkId} : ∀ {ws : List Write} {s s' : Store},
    s.applyAll network ws = .ok s' → s.attemptAll network ws = s'
  | [], _, _, h => Except.ok.inj h
  | w :: ws, s, s', h => by
      show (s.attempt network w).attemptAll network ws = s'
      rw [applyAll] at h
      cases hw : s.apply network w with
      | error e =>
        rw [hw] at h
        exact absurd h (by simp)
      | ok s₁ =>
        rw [hw] at h
        rw [attempt, hw]
        exact attemptAll_of_applyAll h

theorem applyAll_append {network : NetworkId} {b : List Write} {s' s'' : Store} :
    ∀ {a : List Write} {s : Store}, s.applyAll network a = .ok s' →
      s'.applyAll network b = .ok s'' → s.applyAll network (a ++ b) = .ok s''
  | [], s, ha, hb => by
      rw [Except.ok.inj ha]
      exact hb
  | w :: a, s, ha, hb => by
      rw [applyAll] at ha
      rw [List.cons_append, applyAll]
      split at ha
      · rename_i s₁ hw
        exact applyAll_append ha hb
      · exact absurd ha (by simp)

/-! ## What one write does to the shelf -/

@[simp] theorem shelf_setShelf (s : Store) (network : NetworkId) (shelf : Shelf) :
    (s.setShelf network shelf).shelf network = shelf := by
  simp [Store.shelf, setShelf, Table.get?_insert]

@[simp] theorem failing_setShelf (s : Store) (network : NetworkId) (shelf : Shelf) :
    (s.setShelf network shelf).failing = s.failing := rfl

/-- What becomes of a working store that is to hold another shelf for a network. -/
structure Became (s : Store) (network : NetworkId) (ws : List Write) (shelf : Shelf)
    (s' : Store) : Prop where
  /-- No write was refused. -/
  applied : s.applyAll network ws = .ok s'
  /-- The store goes on working. -/
  working : s'.failing = false
  /-- The channels are those of the other shelf. -/
  shelf : s'.shelf network = shelf

theorem Became.append {s s' s'' : Store} {network : NetworkId} {a b : List Write}
    {shelf shelf' : Shelf} (ha : s.Became network a shelf s')
    (hb : s'.Became network b shelf' s'') : s.Became network (a ++ b) shelf' s'' :=
  ⟨applyAll_append ha.applied hb.applied, hb.working, hb.shelf⟩

theorem became_nil {s : Store} {network : NetworkId} (hf : s.failing = false) :
    s.Became network [] (s.shelf network) s :=
  ⟨rfl, hf, rfl⟩

theorem became_singleton {s s' : Store} {network : NetworkId} {w : Write} {shelf : Shelf}
    (hf : s.failing = false) (hp : s.perform network w = .ok s')
    (hf' : s'.failing = false) (hs : s'.shelf network = shelf) :
    s.Became network [w] shelf s' :=
  ⟨by simp [applyAll, apply, hf, hp], hf', hs⟩

theorem became_setShelf {s : Store} {network : NetworkId} {w : Write} {shelf : Shelf}
    (hf : s.failing = false) (hp : s.perform network w = .ok (s.setShelf network shelf)) :
    ∃ s', s.Became network [w] shelf s' :=
  ⟨_, became_singleton hf hp hf (shelf_setShelf s network shelf)⟩

/-- A line of history leaves the shelf alone. -/
theorem became_line {s : Store} (network : NetworkId) (hf : s.failing = false)
    (l : HistoryLine) : ∃ s', s.Became network [.line l] (s.shelf network) s' :=
  ⟨_, became_singleton hf rfl hf rfl⟩

/-- A write about a channel that is there changes that channel. -/
theorem became_about {s : Store} {network : NetworkId} {name : String} {w : Write}
    {c : StoredChannel} (hf : s.failing = false) (hc : s.channel? network name = some c)
    (hw : w.IsAbout name) :
    ∃ s', s.Became network [w] ((s.shelf network).insert (fold name) (w.onChannel c)) s' := by
  have hsame : (s.shelf network).insert (fold name) c = s.shelf network :=
    Table.insert_of_get? hc
  cases w with
  | line l =>
      obtain ⟨s', hs⟩ := became_line network hf l
      exact ⟨s', hs.applied, hs.working, hs.shelf.trans hsame.symm⟩
  | renameUser old new => exact absurd hw (by simp [Write.IsAbout])
  | upsertChannel channel =>
      cases hw
      exact ⟨s, became_singleton hf (by simp [perform, hc]) hf hsame.symm⟩
  | channelOpen | autoJoin | topic | modes | replaceMembers | upsertMember | removeMember =>
      cases hw
      refine became_setShelf hf ?_
      simp only [perform, updateRecord, updateMembers, updateChannel, hc, Write.onChannel]

/-- A channel that is not there is put in its place. -/
theorem became_created {s : Store} {network : NetworkId} {name : String}
    (hf : s.failing = false) (hc : s.channel? network name = none) :
    ∃ s', s.Became network [.upsertChannel name]
      ((s.shelf network).insert (fold name) (.new name)) s' :=
  became_setShelf hf (by simp [perform, hc])

/-- Someone is renamed in every channel of the network. -/
theorem became_renameUser {s : Store} (network : NetworkId) (hf : s.failing = false)
    (old new : String) : ∃ s', s.Became network [.renameUser old new]
      ((s.shelf network).map (·.renameUser old new)) s' := by
  refine ⟨_, became_singleton hf rfl hf ?_⟩
  simp only [Store.shelf, Table.get?_modify]
  cases s.shelves.get? network with
  | none => exact Table.ext_get? fun k => by simp [Table.get?_map]
  | some shelf => rfl

/-! ## Several writes -/

theorem became_lines (network : NetworkId) : ∀ {ws : List Write} {s : Store},
    s.failing = false → (∀ w ∈ ws, ∃ l, w = .line l) →
      ∃ s', s.Became network ws (s.shelf network) s'
  | [], s, hf, _ => ⟨s, became_nil hf⟩
  | w :: ws, s, hf, h => by
      obtain ⟨l, rfl⟩ := h w List.mem_cons_self
      obtain ⟨s₁, h₁⟩ := became_line network hf l
      obtain ⟨s₂, h₂⟩ := became_lines network h₁.working
        fun w hw => h w (List.mem_cons_of_mem _ hw)
      exact ⟨s₂, h₁.shelf ▸ h₁.append h₂⟩

/-- Writes about a channel that is there change that channel, and no other. -/
theorem became_after {network : NetworkId} {name : String} : ∀ {ws : List Write} {s : Store}
    {c : StoredChannel}, s.failing = false → s.channel? network name = some c →
    (∀ w ∈ ws, w.IsAbout name) →
      ∃ s', s.Became network ws ((s.shelf network).insert (fold name) (c.after ws)) s'
  | [], s, c, hf, hc, _ =>
      ⟨s, rfl, hf, (Table.insert_of_get? hc).symm⟩
  | w :: ws, s, c, hf, hc, h => by
      obtain ⟨s₁, h₁⟩ := became_about hf hc (h w List.mem_cons_self)
      have hc₁ : s₁.channel? network name = some (w.onChannel c) := by
        rw [channel?, h₁.shelf, Table.get?_insert, if_pos rfl]
      obtain ⟨s₂, h₂⟩ := became_after h₁.working hc₁ fun w hw => h w (List.mem_cons_of_mem _ hw)
      rw [h₁.shelf] at h₂
      refine ⟨s₂, (h₁.append h₂).applied, h₂.working, h₂.shelf.trans ?_⟩
      refine Table.ext_get? fun k => ?_
      simp only [Table.get?_insert, StoredChannel.after_cons]
      split <;> rfl

/--
Writes about one channel, which is there or is created by the first of them, change that
channel and no other.
-/
theorem became_created_after {s : Store} {network : NetworkId} {name : String}
    {ws : List Write} (hf : s.failing = false)
    (hnew : s.channel? network name = none → ws.head? = some (.upsertChannel name))
    (h : ∀ w ∈ ws, w.IsAbout name) :
    ∃ s', s.Became network ws ((s.shelf network).insert (fold name)
      (((s.channel? network name).getD (.new name)).after ws)) s' := by
  cases hc : s.channel? network name with
  | some c => exact became_after hf hc h
  | none =>
      cases ws with
      | nil => exact absurd (hnew hc) (by simp)
      | cons w ws =>
          -- the first write creates the channel, and the rest finds it
          obtain rfl : w = .upsertChannel name := by simpa using hnew hc
          obtain ⟨s₁, h₁⟩ := became_created hf hc
          have hc₁ : s₁.channel? network name = some (.new name) := by
            rw [channel?, h₁.shelf, Table.get?_insert, if_pos rfl]
          obtain ⟨s₂, h₂⟩ := became_after h₁.working hc₁
            fun w hw => h w (List.mem_cons_of_mem _ hw)
          rw [h₁.shelf] at h₂
          refine ⟨s₂, (h₁.append h₂).applied, h₂.working, h₂.shelf.trans ?_⟩
          refine Table.ext_get? fun k => ?_
          simp only [Table.get?_insert, Option.getD_none, StoredChannel.after_cons,
            Write.onChannel]
          split <;> rfl

/--
Writes that do the same to each of some channels, of which one may come up again, do it to
those channels and to no others.
-/
theorem became_flatMap {network : NetworkId} {f : String → List Write}
    {g : StoredChannel → StoredChannel} (habout : ∀ name, ∀ w ∈ f name, w.IsAbout name)
    (hg : ∀ name c, c.after (f name) = g c) (hidem : ∀ c, g (g c) = g c) :
    ∀ {names : List String} {s : Store}, s.failing = false →
      (∀ name ∈ names, (s.channel? network name).isSome) →
      ∃ s' shelf, s.Became network (names.flatMap f) shelf s' ∧
        ∀ k, shelf.get? k =
          ((s.shelf network).get? k).map (if k ∈ names.map fold then g else id)
  | [], s, hf, _ => ⟨s, s.shelf network, became_nil hf, fun k => by simp⟩
  | name :: names, s, hf, hs => by
      obtain ⟨c, hc⟩ := Option.isSome_iff_exists.mp (hs name List.mem_cons_self)
      -- the other channels are still there behind the writes to the first one
      obtain ⟨s₁, h₁⟩ := became_after hf hc (habout name)
      rw [hg] at h₁
      have hs₁ : ∀ n ∈ names, (s₁.channel? network n).isSome := by
        intro n hn
        rw [channel?, h₁.shelf, Table.get?_insert]
        split
        · rfl
        · exact hs n (List.mem_cons_of_mem _ hn)
      obtain ⟨s₂, shelf, h₂, hget⟩ := became_flatMap habout hg hidem h₁.working hs₁
      refine ⟨s₂, shelf, h₁.append h₂, fun k => ?_⟩
      have hck : (s.shelf network).get? (fold name) = some c := hc
      rw [hget, h₁.shelf, Table.get?_insert]
      by_cases hk : fold name = k
      · subst hk
        rw [if_pos rfl, hck]
        -- it comes up again or not: what is done to it twice is done to it once
        by_cases hm : fold name ∈ names.map fold
        · simp only [hm, if_true, List.map_cons, List.mem_cons_self, Option.map_some, hidem]
        · simp only [hm, if_false, List.map_cons, List.mem_cons_self, if_true,
            Option.map_some, id]
      · rw [if_neg hk]
        simp only [List.map_cons, List.mem_cons, Ne.symm hk, false_or]

end Store

end IrcClient
