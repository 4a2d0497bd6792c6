import IrcClient.Handling

/-!
# Lines about different channels

A line about a channel reads and changes what is known of this channel, and of the network
nothing else that another such line could change. So it does not matter in which order two
lines come in that are about different channels: neither notices the other.

`Local` says it of a handler and the keys of the channels that it is about, and there is one
lemma for each handler (`local_process`). That lines commute follows from no more than this
(`Local.commute`).
-/

namespace IrcClient

/-! ## Handlers that are about some channels -/

/-- Two networks that differ in no more than channels, and not in those at some keys. -/
structure SameAt (keys : String → Prop) (net net' : Network) : Prop where
  rest : net' = { net with channels := net'.channels }
  channels : ∀ k, keys k → net'.channels.get? k = net.channels.get? k

theorem SameAt.refl (keys : String → Prop) (net : Network) : SameAt keys net net :=
  ⟨rfl, fun _ _ => rfl⟩

theorem SameAt.channel? {keys : String → Prop} {net net' : Network} (h : SameAt keys net net')
    {target : String} (hk : keys (fold target)) : net'.channel? target = net.channel? target :=
  h.channels _ hk

theorem SameAt.setChannel {keys : String → Prop} {net net' : Network} (h : SameAt keys net net')
    (target : String) (c : Channel) :
    SameAt keys (net.setChannel target c) (net'.setChannel target c) := by
  refine ⟨?_, fun k hk => ?_⟩
  · rw [h.rest]
    rfl
  · rw [Network.setChannel, Network.setChannel, Table.get?_insert, Table.get?_insert,
      h.channels k hk]

/-- Where a channel is set, the others stay as they are. -/
theorem sameAt_setChannel {keys : String → Prop} {target : String} (hk : keys (fold target))
    (net : Network) (c : Channel) : SameAt (¬ keys ·) net (net.setChannel target c) := by
  refine ⟨rfl, fun k hne => ?_⟩
  have hfold : fold target ≠ k := fun h => hne (h ▸ hk)
  rw [Network.setChannel, Table.get?_insert, if_neg hfold]

/-- What is done about a network without touching any other channel than those at some keys. -/
structure Local (keys : String → Prop) (act : Network → Network × Outcome) : Prop where
  /-- No other part of the network changes. -/
  frame : ∀ net, SameAt (¬ keys ·) net (act net).1
  /-- No other channel is looked at. -/
  reads : ∀ {net net'}, SameAt keys net net' →
    SameAt keys (act net).1 (act net').1 ∧ (act net').2 = (act net).2

namespace Local

variable {keys keys' : String → Prop} {act act' : Network → Network × Outcome}

theorem nothing (keys : String → Prop) : Local keys fun net => (net, .empty) :=
  ⟨fun net => .refl _ net, fun h => ⟨h, rfl⟩⟩

/--
**What is about different channels commutes.** In either order the same becomes of the network,
and each of the two comes to the same.
-/
theorem commute (h : Local keys act) (h' : Local keys' act')
    (hne : ∀ k, ¬ (keys k ∧ keys' k)) (net : Network) :
    (act' (act net).1).1 = (act (act' net).1).1 ∧
      (act (act' net).1).2 = (act net).2 ∧ (act' (act net).1).2 = (act' net).2 := by
  have hsame : SameAt keys net (act' net).1 :=
    ⟨(h'.frame net).rest, fun k hk => (h'.frame net).channels k fun hk' => hne k ⟨hk, hk'⟩⟩
  have hsame' : SameAt keys' net (act net).1 :=
    ⟨(h.frame net).rest, fun k hk' => (h.frame net).channels k fun hk => hne k ⟨hk, hk'⟩⟩
  obtain ⟨hafter, hout⟩ := h.reads hsame
  obtain ⟨hafter', hout'⟩ := h'.reads hsame'
  refine ⟨?_, hout, hout'⟩
  have hchannels : (act' (act net).1).1.channels = (act (act' net).1).1.channels := by
    refine Table.ext_get? fun k => ?_
    -- a key is with one of the two at most, and only that one changes what is there
    by_cases hk : keys k
    · have hk' : ¬ keys' k := fun hk' => hne k ⟨hk, hk'⟩
      rw [(h'.frame _).channels k hk', hafter.channels k hk]
    · by_cases hk' : keys' k
      · rw [hafter'.channels k hk', (h.frame _).channels k hk]
      · rw [(h'.frame _).channels k hk', (h.frame net).channels k hk, (h.frame _).channels k hk,
          (h'.frame net).channels k hk']
  rw [(h'.frame _).rest, (h.frame (act' net).1).rest, hchannels, (h.frame net).rest,
    (h'.frame net).rest]

/--
What is done depends on one channel: where this channel is the same, the same is set in its
stead, or nothing is done at all.
-/
theorem of_lockstep {target : String} (hk : keys (fold target))
    (h : ∀ net t, Network.channel? { net with channels := t } target = net.channel? target →
      (∃ c o, act net = (net.setChannel target c, o) ∧
        act { net with channels := t } =
          (Network.setChannel { net with channels := t } target c, o)) ∨
      act net = (net, .empty) ∧
        act { net with channels := t } = ({ net with channels := t }, .empty)) :
    Local keys act := by
  constructor
  · intro net
    rcases h net net.channels rfl with ⟨c, o, hact, -⟩ | ⟨hact, -⟩
    · rw [hact]
      exact sameAt_setChannel hk net c
    · rw [hact]
      exact .refl _ net
  · intro net net' hsame
    obtain ⟨t, rfl⟩ : ∃ t, net' = { net with channels := t } := ⟨_, hsame.rest⟩
    rcases h net t (hsame.channel? hk) with ⟨c, o, hact, hact'⟩ | ⟨hact, hact'⟩
    · rw [hact, hact']
      exact ⟨hsame.setChannel target c, rfl⟩
    · rw [hact, hact']
      exact ⟨hsame, rfl⟩

end Local

/-- The channel of a part of a member list: the arguments are counted from the end. -/
def Message.listed? (msg : Message) : Option String :=
  match msg.args.reverse with
  | _ :: target :: _ :: _ => some target
  | _ => none

namespace Handling

variable {keys : String → Prop} {msg : Message} {target : String}

/-! ## Who comes and who goes -/

theorem local_enter (nick : String) (hk : keys (fold target)) :
    Local keys (enter · nick target) := by
  refine .of_lockstep hk fun net t hc => .inl ⟨_, _, rfl, ?_⟩
  simp only [enter, Network.hasChannel, Network.channelOrNew, hc]
  rfl

theorem local_join (h : ∀ target ∈ msg.arg 0, keys (fold target)) : Local keys (join · msg) := by
  unfold join
  split
  · rename_i nick target hn ht
    exact local_enter nick (h target ht)
  · exact .nothing keys

/-- What is told of someone's leaving may depend on the network, but not on its channels. -/
theorem local_leave (nick : String) (hk : keys (fold target))
    {tell : Network → String → Write} {announce : Network → String → Event}
    (htell : ∀ net t, tell { net with channels := t } = tell net)
    (hannounce : ∀ net t, announce { net with channels := t } = announce net) :
    Local keys fun net => leave net nick target (tell net) (announce net) := by
  refine .of_lockstep hk fun net t hc => ?_
  simp only [leave, hc, htell, hannounce]
  cases net.channel? target with
  | none => exact .inr ⟨rfl, rfl⟩
  | some before => exact .inl ⟨_, _, rfl, rfl⟩

theorem local_part (h : ∀ target ∈ msg.arg 0, keys (fold target)) : Local keys (part · msg) := by
  unfold part
  split
  · rename_i nick target hn ht
    exact local_leave nick (h target ht) (fun _ _ => rfl) (fun _ _ => rfl)
  · exact .nothing keys

theorem local_kick (h : ∀ target ∈ msg.arg 0, keys (fold target)) : Local keys (kick · msg) := by
  unfold kick
  split
  · rename_i target victim ht hv
    exact local_leave victim (h target ht) (fun _ _ => rfl) (fun _ _ => rfl)
  · exact .nothing keys

/-! ## Topics -/

theorem local_updateTopic (topic : String) (setter : Option String) (hk : keys (fold target)) :
    Local keys (updateTopic · target topic setter) := by
  refine .of_lockstep hk fun net t hc => .inl ⟨_, _, rfl, ?_⟩
  simp only [updateTopic, Network.hasChannel, Network.channelOrNew, hc]
  rfl

theorem local_topic (h : ∀ target ∈ msg.arg 0, keys (fold target)) : Local keys (topic · msg) := by
  unfold topic
  split
  · exact .nothing keys
  · rename_i target ht
    exact local_updateTopic _ _ (h target ht)

theorem local_topicReply (h : ∀ target ∈ msg.arg 1, keys (fold target)) :
    Local keys (topicReply · msg) := by
  unfold topicReply
  split
  · rename_i target topic ht htopic
    exact local_updateTopic topic none (h target ht)
  · exact .nothing keys

theorem local_noTopic (h : ∀ target ∈ msg.arg 1, keys (fold target)) :
    Local keys (noTopic · msg) := by
  unfold noTopic
  split
  · exact .nothing keys
  · rename_i target ht
    exact local_updateTopic "" none (h target ht)

/-! ## Modes -/

theorem local_mode (h : ∀ target ∈ msg.arg 0, keys (fold target)) : Local keys (mode · msg) := by
  unfold mode
  split
  · rename_i target modes ht hm
    refine .of_lockstep (h target ht) fun net t hc => ?_
    by_cases hchannel : net.support.isChannel target = true
    · refine .inl ⟨_, _, if_neg (by simp [hchannel]), (if_neg (by simp [hchannel])).trans ?_⟩
      simp only [Network.hasChannel, Network.channelOrNew, hc]
      rfl
    · exact .inr ⟨if_pos (by simp [hchannel]), if_pos (by simp [hchannel])⟩
  · exact .nothing keys

theorem local_channelModeIs (h : ∀ target ∈ msg.arg 1, keys (fold target)) :
    Local keys (channelModeIs · msg) := by
  unfold channelModeIs
  split
  · rename_i target modes ht hm
    refine .of_lockstep (h target ht) fun net t hc => .inl ⟨_, _, rfl, ?_⟩
    simp only [Network.hasChannel, Network.channelOrNew, hc]
    rfl
  · exact .nothing keys

/-! ## Member lists -/

theorem local_namesReply (h : ∀ target ∈ msg.listed?, keys (fold target)) :
    Local keys (namesReply · msg) := by
  unfold namesReply
  split
  · rename_i names target symbol rest hargs
    have hk : keys (fold target) := h target (by rw [Message.listed?, hargs]; rfl)
    refine .of_lockstep hk fun net t hc => .inl ⟨_, _, rfl, ?_⟩
    simp only [Network.hasChannel, Network.channelOrNew, hc]
  · exact .nothing keys

theorem local_endOfNames (h : ∀ target ∈ msg.arg 1, keys (fold target)) :
    Local keys (endOfNames · msg) := by
  unfold endOfNames
  split
  · exact .nothing keys
  · rename_i target ht
    refine .of_lockstep (h target ht) fun net t hc => ?_
    rw [hc]
    cases net.channel? target with
    | none => exact .inr ⟨rfl, rfl⟩
    | some before => exact .inl ⟨_, _, rfl, rfl⟩

end Handling

/-! ## Lines -/

/-- The commands and replies that are about one channel. -/
def channelCommands : List String :=
  ["JOIN", "PART", "KICK", "TOPIC", "MODE", "331", "332", "324", "353", "366"]

/-- The channel that such a line is about, if it names one. -/
def Message.channel? (msg : Message) : Option String :=
  match msg.command with
  | "331" | "332" | "324" | "366" => msg.arg 1
  | "353" => msg.listed?
  | _ => msg.arg 0

/-- A line is handled without a look at any channel but the one that it is about. -/
theorem local_process (p : Persona) {msg : Message} (hmsg : msg.command ∈ channelCommands) :
    Local (fun k => ∃ target ∈ msg.channel?, fold target = k) (process p · msg) := by
  have hk : ∀ target ∈ msg.channel?, ∃ target' ∈ msg.channel?, fold target' = fold target :=
    fun target h => ⟨target, h, rfl⟩
  simp only [channelCommands, List.mem_cons, List.not_mem_nil, or_false] at hmsg
  unfold process
  unfold Message.channel? at hk ⊢
  rcases hmsg with h | h | h | h | h | h | h | h | h | h <;> rw [h] at hk ⊢
  · exact Handling.local_join hk
  · exact Handling.local_part hk
  · exact Handling.local_kick hk
  · exact Handling.local_topic hk
  · exact Handling.local_mode hk
  · exact Handling.local_noTopic hk
  · exact Handling.local_topicReply hk
  · exact Handling.local_channelModeIs hk
  · exact Handling.local_namesReply hk
  · exact Handling.local_endOfNames hk

/--
**Lines about different channels commute.** Whichever comes in first, the same is known of the
network in the end, and each has the same effects as if the other had not come in before it.
-/
theorem process_commute (p : Persona) (net : Network) {a b : Message}
    (ha : a.command ∈ channelCommands) (hb : b.command ∈ channelCommands)
    (hne : ∀ x ∈ a.channel?, ∀ y ∈ b.channel?, fold x ≠ fold y) :
    (process p (process p net a).1 b).1 = (process p (process p net b).1 a).1 ∧
      (process p (process p net b).1 a).2 = (process p net a).2 ∧
      (process p (process p net a).1 b).2 = (process p net b).2 := by
  refine (local_process p ha).commute (local_process p hb) ?_ net
  rintro k ⟨⟨x, hx, rfl⟩, y, hy, hfold⟩
  exact hne x hx y hy hfold.symm

/-- The client enters a channel while the members of another one are being listed. -/
theorem process_commute_join_names :
    let p : Persona := ⟨"1.0", "noon"⟩
    let net := Network.new 1 "Libera" "kestrel"
    let a : Message := ⟨[], some ⟨"Kestrel", none, none⟩, "JOIN", ["#lean"]⟩
    let b : Message := ⟨[], none, "353", ["kestrel", "=", "#Lean4", "@kestrel ada"]⟩
    a.command ∈ channelCommands ∧ b.command ∈ channelCommands ∧
      (∀ x ∈ a.channel?, ∀ y ∈ b.channel?, fold x ≠ fold y) ∧
      (process p (process p net a).1 b).1 = (process p (process p net b).1 a).1 ∧
      (process p (process p net b).1 a).2 = (process p net a).2 ∧
      (process p (process p net a).1 b).2 = (process p net b).2 := by
  intro p net a b
  have ha : a.command ∈ channelCommands := by decide
  have hb : b.command ∈ channelCommands := by decide
  have hne : ∀ x ∈ a.channel?, ∀ y ∈ b.channel?, fold x ≠ fold y := by
    intro x hx y hy
    cases hx
    cases hy
    decide +kernel
  exact ⟨ha, hb, hne, process_commute p net ha hb hne⟩

end IrcClient
