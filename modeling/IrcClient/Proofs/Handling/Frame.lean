import IrcClient.Proofs.Handling.Inquiry
import IrcClient.Proofs.Network.Naming

/-!
# What a line leaves alone

A handler is given all that is known of a network and hands back all of it, so nothing in its
type says that it keeps to its own business. That it does is `Network.Framed`: what a line with
a command can change, and with that what it cannot. Channels are never lost, and the marks that
the user has set on them are not the server's to change.

Each part is read off the things that a line can do (`Network.Changes`), one case for each, and
none of them looks into a handler.
-/

namespace IrcClient

/-! ## Channels -/

namespace Channel.Edited

variable {me : String} {c c' : Channel} {v : Verb}

/-- Whether a channel is marked to be entered is for the user to say. -/
theorem autoJoin (h : Edited me c v c') : c'.autoJoin = c.autoJoin := by
  cases h with
  | entered nick => rfl
  | left v hv nick => unfold Handling.leftChannel; split <;> rfl
  | topic v hv topic => rfl
  | modes v hv modes members h => rfl
  | listed members =>
      obtain ⟨t, ht⟩ := addListed_eq c members
      rw [ht]

/-- Only those who come and go open and close a channel. -/
theorem isOpen (h : Edited me c v c') (hv : v ≠ .join ∧ v ≠ .part ∧ v ≠ .kick) :
    c'.isOpen = c.isOpen := by
  cases h with
  | entered nick => exact absurd rfl hv.1
  | left v hleft nick =>
      rcases hleft with hpart | hkick
      · exact absurd hpart hv.2.1
      · exact absurd hkick hv.2.2
  | topic v _ topic => rfl
  | modes v _ modes members h => rfl
  | listed members =>
      obtain ⟨t, ht⟩ := addListed_eq c members
      rw [ht]

end Channel.Edited

namespace Network

variable {net net' : Network} {msg : Message} {v : Verb}

/-- A channel that is the same to the user: it goes by its name and keeps its mark. -/
structure SameChannel (c c' : Channel) : Prop where
  name : c'.name = c.name
  autoJoin : c'.autoJoin = c.autoJoin

/-- Whether every channel of one network is still there in another. -/
def KeepsChannels (net net' : Network) : Prop :=
  ∀ k c, net.channels.get? k = some c → ∃ c', net'.channels.get? k = some c' ∧ SameChannel c c'

theorem KeepsChannels.of_eq (h : net'.channels = net.channels) : net.KeepsChannels net' := by
  intro k c hk
  rw [← h] at hk
  exact ⟨c, hk, rfl, rfl⟩

/-- A channel is set to what has become of it, and the others are not touched. -/
theorem keepsChannels_setChannel {target : String} {c' : Channel}
    (h : SameChannel (net.channelOrNew target) c') :
    net.KeepsChannels (net.setChannel target c') := by
  intro k c hk
  by_cases htarget : fold target = k
  · have hknown : net.channel? target = some c := by
      rw [channel?, htarget]
      exact hk
    rw [channelOrNew_of_known hknown] at h
    refine ⟨c', ?_, h⟩
    rw [setChannel, Table.get?_insert, if_pos htarget]
  · refine ⟨c, ?_, rfl, rfl⟩
    rw [setChannel, Table.get?_insert, if_neg htarget]
    exact hk

theorem keepsChannels_mapChannels {f : Channel → Channel} (hf : ∀ c, SameChannel c (f c)) :
    net.KeepsChannels (net.mapChannels f) := by
  intro k c hk
  refine ⟨f c, ?_, hf c⟩
  rw [mapChannels, Table.get?_map, hk, Option.map_some]

theorem Changes.keepsChannels (h : net.Changes msg v net') : net.KeepsChannels net' := by
  cases h with
  | nothing _ | welcomed | rejected _ | announced _ | collected _ _ _ _ _ | collectionEnded _ =>
      exact .of_eq rfl
  | edited v target c he => exact keepsChannels_setChannel ⟨he.name, he.autoJoin⟩
  | listEnded target c ht hc =>
      refine keepsChannels_setChannel ?_
      rw [channelOrNew_of_known hc]
      exact ⟨rfl, rfl⟩
  | quit nick hn =>
      refine keepsChannels_mapChannels fun c => ⟨Handling.name_quitChannel _ nick c, ?_⟩
      unfold Handling.quitChannel
      split
      · split <;> rfl
      · rfl
  | renamed old new ho hn =>
      have hmap : net.KeepsChannels (net.mapChannels (·.renameMember old new)) := by
        refine keepsChannels_mapChannels fun c => ?_
        rw [Channel.renameMember_eq]
        exact ⟨rfl, rfl⟩
      exact hmap

/-- Whether the channel at a key is there and open. -/
def isOpenAt (net : Network) (k : String) : Bool :=
  (net.channels.get? k).any (·.isOpen)

theorem isOpenAt_setChannel {target : String} {c' : Channel}
    (h : c'.isOpen = (net.channelOrNew target).isOpen) (k : String) :
    (net.setChannel target c').isOpenAt k = net.isOpenAt k := by
  unfold isOpenAt setChannel
  rw [Table.get?_insert]
  split
  · rename_i htarget
    rw [Option.any_some, h, ← htarget]
    unfold channelOrNew channel?
    -- a channel that is not known is not open, and no more is a new one
    cases net.channels.get? (fold target) <;> rfl
  · rfl

/-- The verbs that are about what is in a channel, and not about who is. -/
def describing : List Verb :=
  [.namesReply, .endOfNames, .topic, .topicReply, .noTopic, .mode, .channelModeIs]

theorem Changes.isOpenAt (h : net.Changes msg v net') (hv : v ∈ describing) (k : String) :
    net'.isOpenAt k = net.isOpenAt k := by
  cases h with
  | nothing _ | announced _ | collected _ _ _ _ _ | collectionEnded _ | welcomed | rejected _ => rfl
  | edited v target c he =>
      refine isOpenAt_setChannel (he.isOpen ?_) k
      refine ⟨?_, ?_, ?_⟩ <;>
      · rintro rfl
        exact absurd hv (by decide)
  | listEnded target c ht hc =>
      refine isOpenAt_setChannel ?_ k
      rw [channelOrNew_of_known hc]
      rfl
  | quit _ _ | renamed _ _ _ _ => exact absurd hv (by decide)

/-! ## The network -/

theorem Changes.account (h : net.Changes msg v net') : net'.account = net.account := by
  cases h <;> rfl

theorem Changes.registered (h : net.Changes msg v net') (hr : net.registered = true) :
    net'.registered = true := by
  cases h with
  | welcomed => rfl
  | _ => exact hr

/-- The verbs that only tell of something. -/
def telling : List Verb :=
  [.ping, .error, .privmsg, .notice, .failure]

theorem Changes.eq_of_telling (h : net.Changes msg v net') (hv : v ∈ telling) : net' = net := by
  cases h with
  | nothing _ => rfl
  | collected v hcollecting nick f hf =>
      have hapart : ∀ v ∈ telling, v ∉ Verb.collecting := by decide
      exact absurd hcollecting (hapart v hv)
  | edited v target c he =>
      have hapart : ∀ v ∈ telling, ¬(v = .part ∨ v = .kick) ∧
          ¬(v = .topic ∨ v = .topicReply ∨ v = .noTopic) ∧ ¬(v = .mode ∨ v = .channelModeIs) := by
        decide
      obtain ⟨hleft, htopic, hmodes⟩ := hapart v hv
      cases he with
      | left _ hv _ => exact absurd hv hleft
      | topic _ hv _ => exact absurd hv htopic
      | modes _ hv _ _ _ => exact absurd hv hmodes
      | entered _ | listed _ => exact absurd hv (by decide)
  | welcomed | rejected _ | announced _ | collectionEnded _ | listEnded _ _ _ _ | quit _ _
  | renamed _ _ _ _ => exact absurd hv (by decide)

/-- The nickname is given by a welcome, tried out before there was one, or taken by a NICK. -/
theorem Changes.nickname (h : net.Changes msg v net') (hne : net'.nickname ≠ net.nickname) :
    v = .welcome ∨
    (v = .nick ∧ ∃ old, msg.sourceNick = some old ∧ net.isMe old = true) ∨
    (v = .nickRejected ∧ net.registered = false) := by
  cases h with
  | welcomed => exact .inl rfl
  | rejected hr => exact .inr (.inr ⟨rfl, hr⟩)
  | renamed old new ho hn =>
      cases hme : net.isMe old with
      | true => exact .inr (.inl ⟨rfl, old, ho, hme⟩)
      | false =>
          refine absurd ?_ hne
          show (if net.isMe old then new else net.nickname) = net.nickname
          rw [hme, if_neg Bool.false_ne_true]
  | nothing _ | announced _ | collected _ _ _ _ _ | collectionEnded _ | edited _ _ _ _
  | listEnded _ _ _ _ | quit _ _ => exact absurd rfl hne

/-- What is gathered of a user is all that a reply about it is for. -/
theorem process_whois_rest (p : Persona) (net : Network) (h : msg.command ∈ whoisCommands) :
    (process p net msg).1 = { net with whois := (process p net msg).1.whois } := by
  cases hnick : msg.arg 1 with
  | none => rw [process_of_unnamed p net h hnick]
  | some nick =>
      rw [process_of_reply p net h hnick]
      unfold reply
      split
      · split <;> rfl
      · split <;> rfl

/-! ## Lines -/

/-- Whether a line with its command has changed no more of a network than it may. -/
structure Framed (net : Network) (msg : Message) (net' : Network) : Prop where
  id : net'.id = net.id
  label : net'.label = net.label
  account : net'.account = net.account
  channels : net.KeepsChannels net'
  registered : net.registered = true → net'.registered = true
  support : msg.command ≠ "005" → net'.support = net.support
  nickname : net'.nickname ≠ net.nickname → msg.command = "001" ∨
    (msg.command = "NICK" ∧ ∃ old, msg.sourceNick = some old ∧ net.isMe old = true) ∨
    (msg.command ∈ ["432", "433"] ∧ net.registered = false)
  /-- What is said, asked or complained of changes nothing, and nor does what is not understood. -/
  told : msg.command ∈ ["PRIVMSG", "NOTICE", "PING", "ERROR"] ∨
    Numeric.isFailure msg.command = true ∨ handles msg.command = false → net' = net
  whois : msg.command ∈ whoisCommands → net' = { net with whois := net'.whois }
  notWhois : msg.command ∉ whoisCommands → net'.whois = net.whois
  isOpen : msg.command ∈ ["353", "366", "TOPIC", "331", "332", "MODE", "324"] →
    ∀ k, net'.isOpenAt k = net.isOpenAt k

/-- A verb whose command tells of something is one of those that do. -/
theorem mem_telling (hv : Verb.ofCommand? msg.command = some v)
    (h : msg.command ∈ ["PRIVMSG", "NOTICE", "PING", "ERROR"] ∨
      Numeric.isFailure msg.command = true ∨ handles msg.command = false) : v ∈ telling := by
  have hsaid : ∀ c ∈ ["PRIVMSG", "NOTICE", "PING", "ERROR"], ∀ v ∈ Verb.ofCommand? c,
      v ∈ telling := by decide
  have hfailure : ∀ c ∈ Numeric.failures.map (·.1), ∀ v ∈ Verb.ofCommand? c, v ∈ telling := by
    decide
  rcases h with h | h | h
  · exact hsaid _ h v hv
  · exact hfailure _ (Verb.mem_failures_of_isFailure h) v hv
  · rw [handles, hv] at h
    cases h

theorem mem_describing (hv : Verb.ofCommand? msg.command = some v)
    (h : msg.command ∈ ["353", "366", "TOPIC", "331", "332", "MODE", "324"]) :
    v ∈ describing := by
  have htable : ∀ c ∈ ["353", "366", "TOPIC", "331", "332", "MODE", "324"],
      ∀ v ∈ Verb.ofCommand? c, v ∈ describing := by decide
  exact htable _ h v hv

/--
**No line changes more than it may.** Whatever is known of a network and whatever the line says:
channels stay, under their names and with their marks; so do the account and what tells the
network from others. The registration is not undone, and what the server supports is changed by
its announcements alone. Only a welcome, a refused nickname before it and a NICK of the client
change the nickname. What is gathered of users is changed by the replies to WHOIS, which change
nothing else. What people say and what goes wrong is told and leaves all as it is, and no line
that describes a channel opens or closes one.
-/
theorem framed_process (p : Persona) (net : Network) (msg : Message) :
    net.Framed msg (process p net msg).1 := by
  have hwhois : msg.command ∈ whoisCommands → (process p net msg).1 =
      { net with whois := (process p net msg).1.whois } := process_whois_rest p net
  have hnotWhois : msg.command ∉ whoisCommands → (process p net msg).1.whois = net.whois :=
    whois_process_other p net
  rcases changes_process p net msg with he | ⟨v, hv, hc⟩
  · rw [he] at hwhois ⊢
    exact ⟨rfl, rfl, rfl, .of_eq rfl, fun hr => hr, fun _ => rfl, fun hne => absurd rfl hne,
      fun _ => rfl, hwhois, fun _ => rfl, fun _ _ => rfl⟩
  · have hcommand : msg.command ∈ v.commands := Verb.mem_commands hv
    refine ⟨hc.sameNetwork.id, hc.sameNetwork.label, hc.account, hc.keepsChannels, hc.registered,
      fun hne => hc.support ?_, fun hne => ?_, fun h => hc.eq_of_telling (mem_telling hv h),
      hwhois, hnotWhois, fun h => hc.isOpenAt (mem_describing hv h)⟩
    · rintro rfl
      exact hne (List.mem_singleton.mp hcommand)
    · rcases hc.nickname hne with rfl | ⟨rfl, hme⟩ | ⟨rfl, hr⟩
      · exact .inl (List.mem_singleton.mp hcommand)
      · exact .inr (.inl ⟨List.mem_singleton.mp hcommand, hme⟩)
      · exact .inr (.inr ⟨hcommand, hr⟩)

end Network

end IrcClient
