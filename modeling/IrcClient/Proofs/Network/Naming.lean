import IrcClient.Proofs.Channel
import IrcClient.Proofs.Handling.Change
import IrcClient.Proofs.Name
import IrcClient.Session

/-!
# Everything is found under its name

Channels, members and WHOIS collections are kept under their names, each name in the spelling
that was heard last. A handler that changed a spelling and not the key, or the key and not the
spelling, would leave an entry that no line can reach any more.

`Network.Keyed` is the invariant: everything is under the folded form of the name that it has
at the moment. It is preserved by whatever a line can change (`keyed_changes`), so it holds
after any steps. From it follows what it is for: there is one entry for each name, and every
spelling finds it (`everything_named`).
-/

namespace IrcClient

/-! ## Channels -/

namespace Channel

theorem addMember_keyed {c : Channel} (h : KeyedBy Member.nick c.members) (nick : String) :
    KeyedBy Member.nick (c.addMember nick).members :=
  h.insert rfl

theorem addListed_keyed {c : Channel} (h : KeyedBy Member.nick c.members)
    (members : List Member) :
    KeyedBy Member.nick (Handling.addListed c members).members := by
  have hfold : ∀ (members : List Member) (c : Channel), KeyedBy Member.nick c.members →
      KeyedBy Member.nick (members.foldl Channel.upsertMember c).members := by
    intro members
    induction members with
    | nil => exact fun c h => h
    | cons m members ih => exact fun c h => ih _ (upsertMember_keyed h m)
  exact hfold members _ (beginRefresh_keyed h)

/-- Members that are listed are added, and the list is under way. Nothing else changes. -/
theorem addListed_eq (c : Channel) (members : List Member) :
    ∃ t, Handling.addListed c members = { c with members := t, refreshing := true } := by
  refine ⟨c.beginRefresh.members.insertAll (members.map fun m => (fold m.nick, m)), ?_⟩
  rw [Handling.addListed, foldl_upsertMember, beginRefresh_eq]

/-- Members that go by the same nicknames are as well under their names as before. -/
theorem keyed_of_sameNicks {t u : Table String Member} (h : SameNicks t u)
    (ht : KeyedBy Member.nick t) : KeyedBy Member.nick u := by
  intro k m hm
  have hk := h k
  rw [hm, Option.map_some] at hk
  obtain ⟨m', hm', hnick⟩ := Option.map_eq_some_iff.mp hk.symm
  rw [← hnick]
  exact ht k m' hm'

namespace Edited

variable {me : String} {c c' : Channel} {v : Verb}

/-- A channel keeps its name, in the spelling that it came to be known by. -/
theorem name (h : Edited me c v c') : c'.name = c.name := by
  cases h with
  | entered nick => rfl
  | left v hv nick => unfold Handling.leftChannel; split <;> rfl
  | topic v hv topic => rfl
  | modes v hv modes members h => rfl
  | listed members =>
      obtain ⟨t, ht⟩ := addListed_eq c members
      rw [ht]

theorem keyed (h : Edited me c v c') (hc : KeyedBy Member.nick c.members) :
    KeyedBy Member.nick c'.members := by
  cases h with
  | entered nick => exact addMember_keyed hc nick
  | left v hv nick =>
      unfold Handling.leftChannel
      split
      · exact .empty
      · exact hc.erase _
  | topic v hv topic => exact hc
  | modes v hv modes members h => exact keyed_of_sameNicks h hc
  | listed members => exact addListed_keyed hc members

end Edited

end Channel

/-! ## Networks -/

namespace Network

/-- What holds of a network still holds when it is seeded, if each record keeps it. -/
theorem seed_induction {P : Network → Prop}
    (hstep : ∀ net r, P net → P (net.setChannel r.name (.ofRecord r))) :
    ∀ (records : List ChannelRecord) {net : Network}, P net → P (net.seed records)
  | [], _, h => h
  | r :: records, _, h => seed_induction hstep records (hstep _ r h)

/-- Whether something holds of every channel that is known. -/
def Each (P : Channel → Prop) (net : Network) : Prop :=
  ∀ k c, net.channels.get? k = some c → P c

namespace Each

variable {P Q : Channel → Prop} {net : Network}

theorem new (id : NetworkId) (label nickname : String) : (new id label nickname).Each P :=
  fun k c h => absurd h (by simp [Network.new])

theorem channelOrNew (h : net.Each P) (hnew : ∀ name, P (.new name)) (target : String) :
    P (net.channelOrNew target) := by
  unfold Network.channelOrNew
  cases hc : net.channel? target with
  | none => exact hnew target
  | some c => exact h _ c hc

theorem setChannel (h : net.Each P) {c : Channel} (hc : P c) (target : String) :
    (net.setChannel target c).Each P := by
  intro k c' hk
  simp only [Network.setChannel, Table.get?_insert] at hk
  split at hk
  · rw [← Option.some.inj hk]
    exact hc
  · exact h k c' hk

theorem mapChannels (h : net.Each P) {f : Channel → Channel} (hf : ∀ c, P c → Q (f c)) :
    (net.mapChannels f).Each Q := by
  intro k c' hk
  simp only [Network.mapChannels, Table.get?_map, Option.map_eq_some_iff] at hk
  obtain ⟨c, hc, rfl⟩ := hk
  exact hf c (h k c hc)

end Each

/-- Whether everything that is known is under the folded form of its name. -/
structure Keyed (net : Network) : Prop where
  channels : KeyedBy Channel.name net.channels
  members : net.Each fun c => KeyedBy Member.nick c.members
  whois : KeyedBy Whois.nick net.whois

theorem new_keyed (id : NetworkId) (label nickname : String) : (new id label nickname).Keyed :=
  ⟨.empty, .new id label nickname, .empty⟩

namespace Keyed

variable {net : Network}

/-- A channel, known or new, goes by a spelling of the name it was asked for by. -/
theorem fold_channelOrNew (h : net.Keyed) (target : String) :
    fold (net.channelOrNew target).name = fold target := by
  unfold Network.channelOrNew
  cases hc : net.channel? target with
  | none => rfl
  | some c => exact h.channels _ _ hc

/-- So it is found by the name that it has. -/
theorem channelOrNew_name (h : net.Keyed) (target : String) :
    net.channelOrNew (net.channelOrNew target).name = net.channelOrNew target := by
  cases hc : net.channel? target with
  | none =>
      have hnew : net.channelOrNew target = .new target := by
        rw [channelOrNew, hc, Option.getD_none]
      rw [hnew]
      exact hnew
  | some c =>
      have hname : net.channel? c.name = some c := by
        rw [channel?, h.channels _ _ hc]
        exact hc
      rw [channelOrNew_of_known hc, channelOrNew_of_known hname]

theorem channelOrNew_members (h : net.Keyed) (target : String) :
    KeyedBy Member.nick (net.channelOrNew target).members :=
  h.members.channelOrNew (fun _ => .empty) target

theorem setChannel (h : net.Keyed) {target : String} {c : Channel}
    (hname : fold c.name = fold target) (hmembers : KeyedBy Member.nick c.members) :
    (net.setChannel target c).Keyed where
  channels := h.channels.insert hname
  members := h.members.setChannel hmembers target
  whois := h.whois

theorem mapChannels (h : net.Keyed) {f : Channel → Channel} (hname : ∀ c, (f c).name = c.name)
    (hmembers : ∀ c, KeyedBy Member.nick c.members → KeyedBy Member.nick (f c).members) :
    (net.mapChannels f).Keyed where
  channels := h.channels.map hname
  members := h.members.mapChannels hmembers
  whois := h.whois

theorem seed (h : net.Keyed) (records : List ChannelRecord) : (net.seed records).Keyed :=
  seed_induction (fun _ _ h => h.setChannel rfl .empty) records h

/-- A collection that is added to stays under the nickname that it was opened for. -/
theorem updateWhois (h : net.Keyed) (nick : String) {f : Whois → Whois}
    (hf : ∀ w, (f w).nick = w.nick) : (net.updateWhois nick f).Keyed where
  channels := h.channels
  members := h.members
  whois := by
    refine h.whois.insert ?_
    rw [hf]
    cases hw : net.whois? nick with
    | none => rfl
    | some w => exact h.whois _ _ hw

end Keyed

/-- **Whatever a line changes, everything stays under its name.** -/
theorem keyed_changes {net net' : Network} {msg : Message} {v : Verb} (h : net.Keyed)
    (hc : net.Changes msg v net') : net'.Keyed := by
  cases hc with
  | nothing v => exact h
  | welcomed | rejected _ | announced _ => exact ⟨h.channels, h.members, h.whois⟩
  | collected v hv nick f hf => exact h.updateWhois nick hf
  | collectionEnded nick => exact ⟨h.channels, h.members, h.whois.erase _⟩
  | edited v target c he =>
      refine h.setChannel ?_ (he.keyed (h.channelOrNew_members target))
      rw [he.name, h.fold_channelOrNew]
  | listEnded target c ht hc =>
      have hname : fold c.endRefresh.name = fold target := h.channels _ c hc
      exact h.setChannel hname (h.members _ c hc)
  | quit nick hn =>
      refine h.mapChannels (fun c => Handling.name_quitChannel _ nick c) fun c hc => ?_
      -- channels that the client leaves are emptied, and others lose a member
      unfold Handling.quitChannel
      split
      · split
        · exact .empty
        · exact hc
      · exact hc.erase _
  | renamed old new ho hn =>
      have hmap : (net.mapChannels (·.renameMember old new)).Keyed := by
        refine h.mapChannels (fun c => ?_) fun c hc => ?_
        · rw [Channel.renameMember_eq]
        · rw [Channel.renameMember_eq]
          exact MembersKeyed.renamed hc old new
      exact ⟨hmap.channels, hmap.members, hmap.whois⟩

theorem keyed_process {net : Network} (h : net.Keyed) (p : Persona) (msg : Message) :
    (process p net msg).1.Keyed := by
  obtain he | ⟨v, -, hc⟩ := changes_process p net msg
  · rw [he]
    exact h
  · exact keyed_changes h hc

/-! ## Steps -/

/-- Marks a channel to be entered, or takes the mark away. -/
def mark (net : Network) (channel : String) (autoJoin : Bool) : Network :=
  net.setChannel channel { net.channelOrNew channel with autoJoin }

/-- This is what a session makes of its network when it is told to mark a channel. -/
theorem network_setAutoJoin (s : Session) (channel : String) (autoJoin : Bool) :
    (s.setAutoJoin channel autoJoin).1.network = s.network.mark channel autoJoin :=
  rfl

/-- What can happen to what is known of a network. -/
inductive Step where
  | seed (records : List ChannelRecord)
  | line (p : Persona) (msg : Message)
  | mark (channel : String) (autoJoin : Bool)

/-- What one step makes of a network. -/
def step (net : Network) : Step → Network
  | .seed records => net.seed records
  | .line p msg => (process p net msg).1
  | .mark channel autoJoin => net.mark channel autoJoin

/-- Steps one after another. -/
def run (net : Network) (steps : List Step) : Network :=
  steps.foldl step net

/-- The lines that are sent while messages come in, one after another. -/
def sent (p : Persona) : Network → List Message → List String
  | _, [] => []
  | net, msg :: msgs => (process p net msg).2.lines ++ sent p (process p net msg).1 msgs

theorem Keyed.mark {net : Network} (h : net.Keyed) (channel : String) (autoJoin : Bool) :
    (net.mark channel autoJoin).Keyed :=
  h.setChannel (h.fold_channelOrNew channel) (h.channelOrNew_members channel)

theorem Keyed.step {net : Network} (h : net.Keyed) (step : Step) : (net.step step).Keyed := by
  cases step with
  | seed records => exact h.seed records
  | line p msg => exact keyed_process h p msg
  | mark channel autoJoin => exact h.mark channel autoJoin

theorem Keyed.run : ∀ (steps : List Step) {net : Network}, net.Keyed → (net.run steps).Keyed
  | [], _, h => h
  | step :: steps, _, h => Keyed.run steps (h.step step)

/-- What can be known of a network: whatever steps make of one of which nothing is known. -/
inductive Reachable : Network → Prop where
  | new (id : NetworkId) (label nickname : String) : Reachable (.new id label nickname)
  | step {net : Network} (h : Reachable net) (step : Step) : Reachable (net.step step)
  /-- The server says under which account the client is logged in, or that it is under none. -/
  | login {net : Network} (h : Reachable net) (account : Option String) :
      Reachable { net with account }

theorem Reachable.run : ∀ (steps : List Step) {net : Network},
    Reachable net → Reachable (net.run steps)
  | [], _, h => h
  | next :: steps, _, h => Reachable.run steps (h.step next)

theorem Reachable.keyed {net : Network} (h : Reachable net) : net.Keyed := by
  induction h with
  | new id label nickname => exact new_keyed id label nickname
  | step h step ih => exact ih.step step
  | login h account ih => exact ⟨ih.channels, ih.members, ih.whois⟩

/-! ## What it is for -/

/-- A nickname is the client's own if it leads to the same member as the one it has. -/
theorem isMe_iff_member? (net : Network) (nick : String) :
    net.isMe nick = true ↔ ∀ c : Channel, c.member? nick = c.member? net.nickname := by
  rw [isMe, sameName_iff]
  constructor
  · intro h c
    rw [Channel.member?, Channel.member?, h]
  · intro h
    -- a channel that the client alone is in
    have hc := h ((Channel.new "").addMember net.nickname)
    have hmember : ∀ s, ((Channel.new "").addMember net.nickname).member? s =
        if fold net.nickname = fold s then some ⟨net.nickname, ""⟩ else none := fun s =>
      Table.get?_insert _ _ _ _
    rw [hmember, hmember, if_pos rfl] at hc
    split at hc
    · assumption
    · cases hc

/-- Whether everything that is known is found under its name, and the client under its own. -/
structure WellNamed (net : Network) : Prop where
  channels : Named Channel.name net.channels
  members : ∀ c ∈ net.channels.values, Named Member.nick c.members
  whois : Named Whois.nick net.whois
  /-- Those nicknames are the client's that lead to the same member as the one it has. -/
  me : ∀ nick, net.isMe nick = true ↔ ∀ c : Channel, c.member? nick = c.member? net.nickname
  /-- To compare the numbers of bytes before the names makes no difference. -/
  me_sized : ∀ nick, net.isMe nick =
    (net.nickname.utf8ByteSize == nick.utf8ByteSize && fold net.nickname == fold nick)

/--
**Everything is found under its name, and nothing else is.** Whatever channels a network is
seeded with, whatever lines come and however channels are marked: each channel, each member
of a channel and each collection is under the folded form of its own name, no two of them go
by spellings of one name, and every spelling finds the one that goes by it.
-/
theorem everything_named (id : NetworkId) (label nickname : String) (steps : List Step) :
    ((new id label nickname).run steps).WellNamed := by
  have h : ((new id label nickname).run steps).Keyed := .run steps (new_keyed id label nickname)
  refine ⟨h.channels.named, fun c hc => ?_, h.whois.named, fun nick => ?_, fun nick => ?_⟩
  · obtain ⟨k, hk⟩ := Table.mem_values_iff.mp hc
    exact (h.members k c hk).named
  · exact isMe_iff_member? _ nick
  · exact sameName_eq_sized _ nick

end Network

end IrcClient
