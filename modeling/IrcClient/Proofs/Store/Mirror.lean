import IrcClient.Network
import IrcClient.Proofs.Channel
import IrcClient.Proofs.Outcome
import IrcClient.Proofs.Store.Writes

/-!
# What is stored mirrors what is known

The network in memory and the shelf of the store are changed by two different programs:
a handler changes the one, and says by writes what is to be done to the other.
`Network.MirroredBy` is what both have to agree on: the same channels under the same folded
names, each with the same record, and the same members except while the server is listing
them.

`KeepsMirror` is the obligation of one step. Nearly every handler concerns one channel, and
then it comes down to that channel and its stored record (`keepsMirror_setChannel`).
-/

namespace IrcClient

/-- Whether a stored topic says what is known: a topic of no characters is none. -/
structure SameTopic (stored known : Option String) : Prop where
  some_iff : ∀ t, (stored = some t ∧ t ≠ "") ↔ known = some t
  none_iff : (stored = none ∨ stored = some "") ↔ known = none

theorem sameTopic_none : SameTopic none none :=
  ⟨fun t => by simp, by simp⟩

/-- Storing a topic as it comes agrees with keeping it only if it has characters. -/
theorem sameTopic_some (topic : String) :
    SameTopic (some topic) (if topic.isEmpty then none else some topic) := by
  by_cases h : topic = ""
  · subst h
    exact ⟨fun t => by simp, by simp⟩
  · have he : topic.isEmpty = false := by simpa using h
    rw [he]
    refine ⟨fun t => ?_, by simp [h]⟩
    simp only [Option.some.injEq, Bool.false_eq_true, if_false]
    exact ⟨fun ht => ht.1, fun ht => ⟨ht, ht ▸ h⟩⟩

/-- What a channel and its stored form agree on. -/
structure Channel.MirroredBy (c : Channel) (d : StoredChannel) : Prop where
  name : d.record.name = c.name
  modes : d.record.modes = c.modes
  isOpen : d.record.isOpen = c.isOpen
  autoJoin : d.record.autoJoin = c.autoJoin
  topic : SameTopic d.record.topic c.topic
  keyed : MembersKeyed c.members
  /-- The store learns of a list of members only when it is complete. -/
  members : c.refreshing = false → d.members = c.members

/-- What a network and a shelf agree on: the same channels, each under its folded name. -/
structure Network.MirroredBy (net : Network) (shelf : Shelf) : Prop where
  named : ∀ k c, net.channels.get? k = some c → fold c.name = k
  channels : ∀ k, Option.Rel Channel.MirroredBy (net.channels.get? k) (shelf.get? k)

theorem Channel.new_mirroredBy (name : String) : (Channel.new name).MirroredBy (.new name) where
  name := rfl
  modes := rfl
  isOpen := rfl
  autoJoin := rfl
  topic := sameTopic_none
  keyed := .empty
  members := fun _ => rfl

theorem Network.new_mirroredBy (id : NetworkId) (label nickname : String) :
    (Network.new id label nickname).MirroredBy .empty :=
  ⟨fun k c h => absurd h (by simp [Network.new]), fun k => .none⟩

namespace Network.MirroredBy

variable {net : Network} {shelf : Shelf}

/-- A channel that is known is stored. -/
theorem stored_of_known (h : net.MirroredBy shelf) {k : String} {c : Channel}
    (hc : net.channels.get? k = some c) : ∃ d, shelf.get? k = some d ∧ c.MirroredBy d := by
  have hk := h.channels k
  rw [hc] at hk
  cases hd : shelf.get? k with
  | none => rw [hd] at hk; cases hk
  | some d =>
      rw [hd] at hk
      cases hk with
      | some hcd => exact ⟨d, rfl, hcd⟩

/-- A channel that is not known is not stored. -/
theorem not_stored (h : net.MirroredBy shelf) {k : String}
    (hc : net.channels.get? k = none) : shelf.get? k = none := by
  have hk := h.channels k
  rw [hc] at hk
  cases hd : shelf.get? k with
  | none => rfl
  | some d => rw [hd] at hk; cases hk

/-- The name of a channel, known or new, is a spelling of the name it was asked for by. -/
theorem fold_channelOrNew (h : net.MirroredBy shelf) (target : String) :
    fold (net.channelOrNew target).name = fold target := by
  unfold Network.channelOrNew
  cases hc : net.channel? target with
  | none => rfl
  | some c => exact h.named _ _ hc

/-- A channel, known or new, is mirrored by its stored form, or else by a new one. -/
theorem channelOrNew_mirroredBy (h : net.MirroredBy shelf) (target : String) :
    (net.channelOrNew target).MirroredBy
      ((shelf.get? (fold target)).getD (.new (net.channelOrNew target).name)) := by
  unfold Network.channelOrNew
  cases hc : net.channel? target with
  | none =>
      rw [h.not_stored hc]
      exact Channel.new_mirroredBy target
  | some c =>
      obtain ⟨d, hd, hcd⟩ := h.stored_of_known hc
      rw [hd]
      exact hcd

end Network.MirroredBy

/-! ## What a step owes -/

/--
Whether writes carry over to the store what a step does to the network: on a store that
works none of them is refused, and it mirrors the network afterwards if it did before.
-/
def KeepsMirror (net net' : Network) (ws : List Write) : Prop :=
  ∀ (network : NetworkId) (s : Store), s.failing = false → net.MirroredBy (s.shelf network) →
    ∃ s' shelf, s.Became network ws shelf s' ∧ net'.MirroredBy shelf

theorem KeepsMirror.trans {net net' net'' : Network} {a b : List Write}
    (ha : KeepsMirror net net' a) (hb : KeepsMirror net' net'' b) :
    KeepsMirror net net'' (a ++ b) := by
  intro network s hf hm
  obtain ⟨s₁, shelf₁, h₁, hm₁⟩ := ha network s hf hm
  obtain ⟨s₂, shelf₂, h₂, hm₂⟩ := hb network s₁ h₁.working (h₁.shelf ▸ hm₁)
  exact ⟨s₂, shelf₂, h₁.append h₂, hm₂⟩

/-- What is said of the channels is all that counts. -/
theorem Network.MirroredBy.congr {net net' : Network} {shelf : Shelf}
    (h : net.MirroredBy shelf) (hc : net'.channels = net.channels) : net'.MirroredBy shelf :=
  ⟨hc ▸ h.named, hc ▸ h.channels⟩

/-- Writing history keeps the mirror, as long as no channel changes. -/
theorem keepsMirror_lines {net net' : Network} {ws : List Write}
    (hc : net'.channels = net.channels) (h : ∀ w ∈ ws, ∃ l, w = .line l) :
    KeepsMirror net net' ws := by
  intro network s hf hm
  obtain ⟨s', hs⟩ := Store.became_lines network hf h
  exact ⟨s', _, hs, hm.congr hc⟩

/--
What a step on one channel owes: what is written is about that channel, and does to its
stored form what the step does to the channel.
-/
structure Channel.CarriedBy (before after : Channel) (ws : List Write) (d : StoredChannel) :
    Prop where
  about : ∀ w ∈ ws, w.IsAbout before.name
  mirrored : after.MirroredBy (d.after ws)

/-- A step on one channel keeps the mirror, if it has the channel created where it is new. -/
theorem keepsMirror_setChannel {net : Network} {target : String} {c : Channel}
    {ws : List Write}
    (hnew : net.channel? target = none →
      ws.head? = some (.upsertChannel (net.channelOrNew target).name))
    (h : ∀ d, (net.channelOrNew target).MirroredBy d →
      (net.channelOrNew target).CarriedBy c ws d) :
    KeepsMirror net (net.setChannel target c) ws := by
  intro network s hf hm
  have hkey := hm.fold_channelOrNew target
  have hbefore := hm.channelOrNew_mirroredBy target
  obtain ⟨habout, hafter⟩ := h _ hbefore
  have hname : c.name = (net.channelOrNew target).name := by
    rw [← hafter.name, StoredChannel.name_after, hbefore.name]
  -- a channel that is not stored is not known either, so it is created first
  have hcreated : s.channel? network (net.channelOrNew target).name = none →
      ws.head? = some (.upsertChannel (net.channelOrNew target).name) := by
    intro hs
    apply hnew
    cases hc : net.channel? target with
    | none => rfl
    | some c₀ =>
        obtain ⟨d, hd, _⟩ := hm.stored_of_known hc
        rw [Store.channel?, hkey, hd] at hs
        exact absurd hs (by simp)
  obtain ⟨s', hs⟩ := Store.became_created_after hf hcreated habout
  refine ⟨s', _, hs, ?_, ?_⟩
  · intro k c' hk
    rw [Network.setChannel, Table.get?_insert] at hk
    split at hk
    · rename_i he
      rw [← Option.some.inj hk, hname, hkey, he]
    · exact hm.named k c' hk
  · intro k
    rw [Network.setChannel, Table.get?_insert, Table.get?_insert, Store.channel?, hkey]
    split
    · exact .some hafter
    · exact hm.channels k

/-- A step on one channel that has it created whenever it is new, and perhaps else too. -/
theorem keepsMirror_created {net : Network} {target : String} {c : Channel} {p : Bool}
    {ws : List Write} (hnew : net.channel? target = none → p = true)
    (h : ∀ d, (net.channelOrNew target).MirroredBy d →
      (net.channelOrNew target).CarriedBy c ws d) :
    KeepsMirror net (net.setChannel target c)
      ((if p then [.upsertChannel (net.channelOrNew target).name] else []) ++ ws) := by
  refine keepsMirror_setChannel ?_ fun d hd => ?_
  · intro hc
    rw [hnew hc]
    rfl
  · obtain ⟨habout, hafter⟩ := h d hd
    cases p with
    | false => exact ⟨habout, hafter⟩
    | true =>
        -- the store leaves a channel alone that it is told to create again
        refine ⟨fun w hw => ?_, hafter⟩
        rcases List.mem_cons.mp hw with rfl | hw
        · exact rfl
        · exact habout w hw

/-- A step on a channel that is known. -/
theorem keepsMirror_known {net : Network} {target : String} {c c' : Channel}
    {ws : List Write} (hc : net.channel? target = some c)
    (h : ∀ d, c.MirroredBy d → c.CarriedBy c' ws d) :
    KeepsMirror net (net.setChannel target c') ws := by
  have hbefore : net.channelOrNew target = c := by
    rw [Network.channelOrNew, hc, Option.getD_some]
  subst hbefore
  exact keepsMirror_setChannel (fun hnone => absurd hnone (by simp [hc])) h

end IrcClient
