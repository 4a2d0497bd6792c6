import IrcClient.Proofs.Handling.Change
import IrcClient.Proofs.Store.Mirror

/-!
# Handlers keep the mirror

One lemma for each handler: what it writes carries over to the store what it does to the
network. Most handlers concern one channel and leave the obligation of that channel. A QUIT
and a NICK concern all of them, in whatever order they are visited.
-/

namespace IrcClient.Handling

open Channel

/-! ## Handlers that only write history -/

theorem keepsMirror_welcome (net : Network) (msg : Message) :
    KeepsMirror net (welcome net msg).1 (welcome net msg).2.writes :=
  keepsMirror_lines rfl (by simp [welcome])

theorem keepsMirror_nickRejected (net : Network) (msg : Message) :
    KeepsMirror net (nickRejected net msg).1 (nickRejected net msg).2.writes := by
  unfold nickRejected
  dsimp only
  split
  · exact keepsMirror_lines rfl (by simp [reportFailure, Network.line])
  · exact keepsMirror_lines rfl (by simp)

theorem keepsMirror_ping (net : Network) (msg : Message) :
    KeepsMirror net (ping net msg).1 (ping net msg).2.writes :=
  keepsMirror_lines rfl (by simp [ping])

theorem keepsMirror_serverError (net : Network) (msg : Message) :
    KeepsMirror net (serverError net msg).1 (serverError net msg).2.writes :=
  keepsMirror_lines rfl (by simp [serverError])

theorem keepsMirror_announcement (net : Network) (msg : Message) :
    KeepsMirror net (announcement net msg).1 (announcement net msg).2.writes :=
  keepsMirror_lines rfl (by simp [announcement])

theorem keepsMirror_collect (f : Message → Whois → Whois) (net : Network) (msg : Message) :
    KeepsMirror net (collect f net msg).1 (collect f net msg).2.writes := by
  unfold collect
  split <;> exact keepsMirror_lines rfl (by simp)

theorem keepsMirror_away (net : Network) (msg : Message) :
    KeepsMirror net (away net msg).1 (away net msg).2.writes := by
  unfold away
  split
  · exact keepsMirror_lines rfl (by simp)
  · split <;> exact keepsMirror_lines rfl (by simp)

theorem keepsMirror_endOfWhois (net : Network) (msg : Message) :
    KeepsMirror net (endOfWhois net msg).1 (endOfWhois net msg).2.writes := by
  unfold endOfWhois
  split
  · exact keepsMirror_lines rfl (by simp)
  · split <;> exact keepsMirror_lines rfl (by simp)

/-- What is received is one line of history. -/
theorem writes_receive (net : Network) (kind : LineKind) (sender target text : String) :
    (receive net kind sender target text).writes =
      [net.line kind text (some (bufferFor net sender target)) (some sender)] := by
  simp [receive]

theorem writes_answerQuery (p : Persona) (sender : String) (query : Ctcp) :
    (answerQuery p sender query).writes = [] := by
  unfold answerQuery
  split <;> simp

theorem keepsMirror_privmsg (p : Persona) (net : Network) (msg : Message) :
    KeepsMirror net (privmsg p net msg).1 (privmsg p net msg).2.writes := by
  unfold privmsg
  split
  · dsimp only
    split
    · split
      · exact keepsMirror_lines rfl (by simp [writes_receive, Network.line])
      · exact keepsMirror_lines rfl (by simp [writes_answerQuery])
    · exact keepsMirror_lines rfl (by simp [writes_receive, Network.line])
  · exact keepsMirror_lines rfl (by simp)

theorem keepsMirror_notice (net : Network) (msg : Message) :
    KeepsMirror net (notice net msg).1 (notice net msg).2.writes := by
  unfold notice
  split
  · dsimp only
    split <;> exact keepsMirror_lines rfl (by simp [writes_receive, Network.line])
  · exact keepsMirror_lines rfl (by simp)

theorem keepsMirror_failure (net : Network) (msg : Message) :
    KeepsMirror net (failure net msg).1 (failure net msg).2.writes :=
  keepsMirror_lines rfl (by simp [failure, Network.line])

/-! ## Handlers of one channel -/

theorem not_hasChannel {net : Network} {target : String} (h : net.channel? target = none) :
    (!net.hasChannel target) = true := by
  rw [Network.hasChannel, h]
  rfl

theorem keepsMirror_enter (net : Network) (nick target : String) :
    KeepsMirror net (enter net nick target).1 (enter net nick target).2.writes := by
  have hw : (enter net nick target).2.writes =
      (if !net.hasChannel target || net.isMe nick then
        [Write.upsertChannel (net.channelOrNew target).name] else []) ++
      ((if net.isMe nick then [.channelOpen (net.channelOrNew target).name true] else []) ++
        [.upsertMember (net.channelOrNew target).name ((net.channelOrNew target).joinedMember nick),
          net.line .join (nick ++ " has joined " ++ (net.channelOrNew target).name)
            (some (net.channelOrNew target).name) (some nick)]) := by
    simp [enter, channelsChanged, addMember, upsertMember]
  rw [hw]
  -- our own entering creates the channel once more, which changes nothing
  refine keepsMirror_created ?_ fun d hd => ⟨fun w hm => ?_, ?_⟩
  · intro hc
    rw [not_hasChannel hc, Bool.true_or]
  · simp only [List.mem_append, List.mem_ite_nil_right, List.mem_cons, List.not_mem_nil,
      or_false] at hm
    rcases hm with ⟨_, rfl⟩ | rfl | rfl <;> trivial
  · have hafter : d.after
        ((if net.isMe nick then [.channelOpen (net.channelOrNew target).name true] else []) ++
          [.upsertMember (net.channelOrNew target).name
              ((net.channelOrNew target).joinedMember nick),
            net.line .join (nick ++ " has joined " ++ (net.channelOrNew target).name)
              (some (net.channelOrNew target).name) (some nick)]) =
        ⟨{ d.record with isOpen := d.record.isOpen || net.isMe nick },
          d.members.insert (fold nick) ((net.channelOrNew target).joinedMember nick)⟩ := by
      cases net.isMe nick <;> simp [Write.onChannel, Network.line, joinedMember]
    rw [hafter]
    exact ⟨hd.name, hd.modes, congrArg (· || net.isMe nick) hd.isOpen, hd.autoJoin, hd.topic,
      upsertMember_keyed hd.keyed _,
      fun hr => congrArg (Table.insert · (fold nick) _) (hd.members hr)⟩

theorem keepsMirror_join (net : Network) (msg : Message) :
    KeepsMirror net (join net msg).1 (join net msg).2.writes := by
  unfold join
  split
  · exact keepsMirror_enter net _ _
  · exact keepsMirror_lines rfl (by simp)

/-- What someone's leaving does to the stored form of a channel. -/
def storedLeft (isMe : Bool) (nick : String) (d : StoredChannel) : StoredChannel :=
  if isMe then ⟨{ d.record with isOpen := false }, .empty⟩
  else { d with members := d.members.erase (fold nick) }

theorem after_leavingWrites (isMe : Bool) (nick name : String) (d : StoredChannel) :
    d.after (leavingWrites isMe nick name) = storedLeft isMe nick d := by
  cases isMe <;> rfl

theorem isAbout_leavingWrites (isMe : Bool) (nick name : String) :
    ∀ w ∈ leavingWrites isMe nick name, w.IsAbout name := by
  cases isMe <;> simp [leavingWrites, Write.IsAbout]

theorem storedLeft_idem (isMe : Bool) (nick : String) (d : StoredChannel) :
    storedLeft isMe nick (storedLeft isMe nick d) = storedLeft isMe nick d := by
  cases isMe
  · simp [storedLeft, Table.erase_erase]
  · rfl

/-- A channel that someone leaves goes on being mirrored. -/
theorem leftChannel_mirroredBy {c : Channel} {d : StoredChannel} (h : c.MirroredBy d)
    (isMe : Bool) (nick : String) :
    (leftChannel isMe nick c).MirroredBy (storedLeft isMe nick d) := by
  cases isMe with
  | true =>
      exact ⟨h.name, h.modes, rfl, h.autoJoin, h.topic, .empty, fun _ => rfl⟩
  | false =>
      refine ⟨h.name, h.modes, h.isOpen, h.autoJoin, h.topic, h.keyed.erase _, fun hr => ?_⟩
      exact congrArg (Table.erase · (fold nick)) (h.members hr)

theorem keepsMirror_leave (net : Network) (nick target : String) {tell : String → Write}
    (htell : ∀ name, ∃ l, tell name = .line l) (announce : String → Event) :
    KeepsMirror net (leave net nick target tell announce).1
      (leave net nick target tell announce).2.writes := by
  unfold leave
  cases hc : net.channel? target with
  | none => exact keepsMirror_lines rfl (by simp)
  | some c =>
      obtain ⟨l, hl⟩ := htell c.name
      have hw : ∀ p, (Outcome.writing (leavingWrites (net.isMe nick) nick c.name) ++
          .write (tell c.name) ++ .emit (announce c.name) ++ channelsChanged net p).writes =
          leavingWrites (net.isMe nick) nick c.name ++ [.line l] := by
        simp [channelsChanged, hl]
      dsimp only
      rw [hw]
      refine keepsMirror_known hc fun d hd => ⟨fun w hm => ?_, ?_⟩
      · rcases List.mem_append.mp hm with hm | hm
        · exact isAbout_leavingWrites _ _ _ w hm
        · rw [List.mem_singleton.mp hm]
          trivial
      · rw [StoredChannel.after_append, after_leavingWrites]
        exact leftChannel_mirroredBy hd _ nick

theorem keepsMirror_part (net : Network) (msg : Message) :
    KeepsMirror net (part net msg).1 (part net msg).2.writes := by
  unfold part
  split
  · exact keepsMirror_leave net _ _ (fun name => ⟨_, rfl⟩) _
  · exact keepsMirror_lines rfl (by simp)

theorem keepsMirror_kick (net : Network) (msg : Message) :
    KeepsMirror net (kick net msg).1 (kick net msg).2.writes := by
  unfold kick
  split
  · exact keepsMirror_leave net _ _ (fun name => ⟨_, rfl⟩) _
  · exact keepsMirror_lines rfl (by simp)

theorem keepsMirror_updateTopic (net : Network) (target topic : String)
    (setter : Option String) :
    KeepsMirror net (updateTopic net target topic setter).1
      (updateTopic net target topic setter).2.writes := by
  have hw : (updateTopic net target topic setter).2.writes =
      (if !net.hasChannel target then [Write.upsertChannel (net.channelOrNew target).name]
        else []) ++
      (.topic (net.channelOrNew target).name topic :: setter.toList.map fun who =>
        net.line .topic (who ++ " changed the topic to: " ++ topic)
          (some (net.channelOrNew target).name) (some who)) := by
    simp [updateTopic]
  rw [hw]
  refine keepsMirror_created not_hasChannel fun d hd => ⟨fun w hm => ?_, ?_⟩
  · rcases List.mem_cons.mp hm with rfl | hm
    · exact rfl
    · obtain ⟨who, _, rfl⟩ := List.mem_map.mp hm
      trivial
  · have hafter : d.after (.topic (net.channelOrNew target).name topic ::
        setter.toList.map fun who => net.line .topic (who ++ " changed the topic to: " ++ topic)
          (some (net.channelOrNew target).name) (some who)) =
        { d with record := { d.record with topic := some topic } } := by
      cases setter <;> rfl
    rw [hafter]
    exact ⟨hd.name, hd.modes, hd.isOpen, hd.autoJoin, sameTopic_some topic, hd.keyed, hd.members⟩

theorem keepsMirror_topic (net : Network) (msg : Message) :
    KeepsMirror net (topic net msg).1 (topic net msg).2.writes := by
  unfold topic
  split
  · exact keepsMirror_lines rfl (by simp)
  · exact keepsMirror_updateTopic net _ _ _

theorem keepsMirror_topicReply (net : Network) (msg : Message) :
    KeepsMirror net (topicReply net msg).1 (topicReply net msg).2.writes := by
  unfold topicReply
  split
  · exact keepsMirror_updateTopic net _ _ _
  · exact keepsMirror_lines rfl (by simp)

theorem keepsMirror_noTopic (net : Network) (msg : Message) :
    KeepsMirror net (noTopic net msg).1 (noTopic net msg).2.writes := by
  unfold noTopic
  split
  · exact keepsMirror_lines rfl (by simp)
  · exact keepsMirror_updateTopic net _ _ _

/-! ### Modes -/

/--
How a mode string is read: nothing of the channel changes but its flags and its members, and
what has been written so far does to a stored channel `d` what was done to the members.
-/
structure ModeRun.Tracks (before : Channel) (d : StoredChannel) (r : ModeRun) : Prop where
  channel : r.channel = { before with modes := r.channel.modes, members := r.channel.members }
  about : ∀ w ∈ r.writes, w.IsAbout before.name
  record : (d.after r.writes).record = d.record
  keyed : MembersKeyed r.channel.members
  members : before.refreshing = false → (d.after r.writes).members = r.channel.members
  /-- Flags are written only if one of them changes. -/
  flags : r.flagsChanged = false → r.channel.modes = before.modes

namespace ModeRun

variable {before : Channel} {d : StoredChannel} {r : ModeRun}

theorem Tracks.setMemberMode (h : Tracks before d r) (s : Support) (mode : Char)
    (nick : String) : Tracks before d (r.setMemberMode s mode nick) := by
  unfold ModeRun.setMemberMode
  split
  · exact h
  · rename_i m hm
    -- the member goes back to where it was found, under the nickname it has
    have hkey : fold m.nick = fold nick := h.keyed _ _ hm
    have hname : r.channel.name = before.name := by rw [h.channel]
    refine ⟨?_, ?_, ?_, h.keyed.insert hkey, ?_, h.flags⟩
    · dsimp only
      rw [h.channel]
    · intro w hw
      rcases List.mem_append.mp hw with hw | hw
      · exact h.about w hw
      · rw [List.mem_singleton.mp hw]
        exact hname
    · rw [StoredChannel.after_append]
      exact h.record
    · intro hr
      rw [StoredChannel.after_append]
      show Table.insert _ (fold m.nick) _ = _
      rw [hkey, h.members hr]

theorem Tracks.setChannelFlag (h : Tracks before d r) (mode : Char) :
    Tracks before d (r.setChannelFlag mode) := by
  refine ⟨?_, h.about, h.record, h.keyed, h.members, ?_⟩
  · show ({ r.channel with modes := _ } : Channel) = _
    rw [h.channel]
    rfl
  · intro hf
    simp only [ModeRun.setChannelFlag, Bool.or_eq_false_iff, decide_eq_false_iff_not, ne_eq,
      Decidable.not_not] at hf
    exact hf.2.trans (h.flags hf.1)

theorem Tracks.step (h : Tracks before d r) (s : Support) (c : Char) :
    Tracks before d (r.step s c) := by
  have hset : ∀ params adding, Tracks before d { r with params := params, adding := adding } :=
    fun _ _ => ⟨h.channel, h.about, h.record, h.keyed, h.members, h.flags⟩
  unfold ModeRun.step
  split
  · exact hset _ _
  · exact hset _ _
  · dsimp only
    split
    · split
      · exact hset _ _
      · exact (hset _ _).setMemberMode s _ _
    · split
      · exact hset _ _
      · exact (hset _ _).setChannelFlag _

theorem Tracks.foldl (s : Support) : ∀ (modes : List Char) {r : ModeRun},
    Tracks before d r → Tracks before d (modes.foldl (ModeRun.step s) r)
  | [], _, h => h
  | c :: modes, _, h => Tracks.foldl s modes (h.step s c)

/-- Reading a mode string from its beginning. -/
theorem tracks_read (h : before.MirroredBy d) (s : Support) (params : List String)
    (modes : String) : Tracks before d (ModeRun.read s { channel := before, params } modes) :=
  Tracks.foldl s modes.toList ⟨rfl, by simp, rfl, h.keyed, h.members, fun _ => rfl⟩

end ModeRun

theorem keepsMirror_mode (net : Network) (msg : Message) :
    KeepsMirror net (mode net msg).1 (mode net msg).2.writes := by
  unfold mode
  split
  · rename_i target modes _ _
    split
    · exact keepsMirror_lines rfl (by simp)
    · let r := ModeRun.read net.support
        { channel := net.channelOrNew target, params := msg.args.drop 2 } modes
      let name := (net.channelOrNew target).name
      let setter := msg.sourceNick.getD ""
      let change := " ".intercalate (msg.args.drop 1)
      show KeepsMirror net (net.setChannel target r.channel) _
      have hw : ∀ e, (Outcome.only (!net.hasChannel target) (.write (.upsertChannel name)) ++
          .writing r.writes ++ .only r.flagsChanged (.write (.modes name r.channel.modes)) ++
          .write (net.line .mode (setter ++ " sets mode " ++ change) (some name) (some setter)) ++
          .emit e).writes =
          (if !net.hasChannel target then [.upsertChannel name] else []) ++
          (r.writes ++ ((if r.flagsChanged then [.modes name r.channel.modes] else []) ++
            [net.line .mode (setter ++ " sets mode " ++ change) (some name) (some setter)])) := by
        simp
      dsimp only
      rw [hw]
      refine keepsMirror_created not_hasChannel fun d hd => ?_
      have hread : ModeRun.Tracks (net.channelOrNew target) d r :=
        ModeRun.tracks_read hd net.support (msg.args.drop 2) modes
      refine ⟨fun w hm => ?_, ?_⟩
      · simp only [List.mem_append, List.mem_ite_nil_right, List.mem_singleton] at hm
        rcases hm with hm | ⟨_, rfl⟩ | rfl
        · exact hread.about w hm
        · exact rfl
        · trivial
      · have hafter : d.after (r.writes ++ ((if r.flagsChanged then
            [.modes name r.channel.modes] else []) ++ [net.line .mode
              (setter ++ " sets mode " ++ change) (some name) (some setter)])) =
            ⟨{ d.record with modes := r.channel.modes }, (d.after r.writes).members⟩ := by
          rw [StoredChannel.after_append]
          -- flags that are not written have not changed, so those of the store are still right
          cases hflags : r.flagsChanged with
          | true => simp [Write.onChannel, Network.line, hread.record]
          | false =>
              simp [Write.onChannel, Network.line, hread.flags hflags, ← hd.modes, ← hread.record]
        rw [hafter, hread.channel]
        exact ⟨hd.name, rfl, hd.isOpen, hd.autoJoin, hd.topic, hread.keyed, hread.members⟩
  · exact keepsMirror_lines rfl (by simp)

theorem keepsMirror_channelModeIs (net : Network) (msg : Message) :
    KeepsMirror net (channelModeIs net msg).1 (channelModeIs net msg).2.writes := by
  unfold channelModeIs
  split
  · rename_i target modes _ _
    let flags := (flagLetters modes).foldl (setFlag · · true) ""
    have hw : ∀ e, (Outcome.only (!net.hasChannel target)
        (.write (.upsertChannel (net.channelOrNew target).name)) ++
        .write (.modes (net.channelOrNew target).name flags) ++ .emit e).writes =
        (if !net.hasChannel target then [.upsertChannel (net.channelOrNew target).name] else []) ++
          [.modes (net.channelOrNew target).name flags] := by
      simp
    dsimp only
    rw [hw]
    refine keepsMirror_created not_hasChannel fun d hd => ⟨fun w hm => ?_, ?_⟩
    · rw [List.mem_singleton.mp hm]
      exact rfl
    · exact ⟨hd.name, rfl, hd.isOpen, hd.autoJoin, hd.topic, hd.keyed, hd.members⟩
  · exact keepsMirror_lines rfl (by simp)

/-! ### Lists of members -/

/-- While the server lists the members, what the store has of them does not count. -/
theorem upsertMembers_mirroredBy {d : StoredChannel} : ∀ (members : List Member) {c : Channel},
    c.MirroredBy d → c.refreshing = true → (members.foldl Channel.upsertMember c).MirroredBy d
  | [], _, h, _ => h
  | m :: members, c, h, hr => by
      refine upsertMembers_mirroredBy members (c := c.upsertMember m) ?_ hr
      exact ⟨h.name, h.modes, h.isOpen, h.autoJoin, h.topic, upsertMember_keyed h.keyed m,
        fun hr' => absurd (hr.symm.trans hr') (by simp)⟩

theorem addListed_mirroredBy {c : Channel} {d : StoredChannel} (h : c.MirroredBy d)
    (members : List Member) : (addListed c members).MirroredBy d := by
  have hkeyed := beginRefresh_keyed h.keyed
  have hc := beginRefresh_eq c
  refine upsertMembers_mirroredBy members ?_ (by rw [hc])
  rw [hc]
  exact ⟨h.name, h.modes, h.isOpen, h.autoJoin, h.topic, hkeyed, fun hr => absurd hr (by simp)⟩

theorem keepsMirror_namesReply (net : Network) (msg : Message) :
    KeepsMirror net (namesReply net msg).1 (namesReply net msg).2.writes := by
  unfold namesReply
  split
  · rename_i names target _ _ _
    have hw : (Outcome.only (!net.hasChannel target)
        (.write (.upsertChannel (net.channelOrNew target).name))).writes =
        (if !net.hasChannel target then [.upsertChannel (net.channelOrNew target).name] else []) ++
          [] := by
      simp
    dsimp only
    rw [hw]
    refine keepsMirror_created not_hasChannel fun d hd => ⟨fun w hm => ?_, ?_⟩
    · exact absurd hm (by simp)
    · exact addListed_mirroredBy hd _
  · exact keepsMirror_lines rfl (by simp)

/-- A list that is complete is what the store is to hold from now on. -/
theorem endRefresh_mirroredBy {c : Channel} {d : StoredChannel} (h : c.MirroredBy d) :
    c.endRefresh.MirroredBy { d with members := StoredChannel.membersOf c.sortedMembers } :=
  ⟨h.name, h.modes, h.isOpen, h.autoJoin, h.topic, h.keyed,
    fun _ => membersOf_sortedMembers h.keyed⟩

theorem keepsMirror_endOfNames (net : Network) (msg : Message) :
    KeepsMirror net (endOfNames net msg).1 (endOfNames net msg).2.writes := by
  unfold endOfNames
  split
  · exact keepsMirror_lines rfl (by simp)
  · split
    · exact keepsMirror_lines rfl (by simp)
    · rename_i c hc
      refine keepsMirror_known hc fun d hd => ⟨fun w hm => ?_, ?_⟩
      · rw [List.mem_singleton.mp hm]
        exact rfl
      · exact endRefresh_mirroredBy hd

/-! ## All channels at once -/

/-- Whether someone who quits leaves a channel by it. -/
def isLeft (isMe : Bool) (nick : String) (c : Channel) : Bool :=
  if isMe then c.isOpen else c.hasMember nick

theorem quitChannel_eq (isMe : Bool) (nick : String) (c : Channel) :
    quitChannel isMe nick c = if isLeft isMe nick c then leftChannel isMe nick c else c := by
  cases isMe with
  | true => rfl
  | false =>
      show c.removeMember nick = if c.hasMember nick then c.removeMember nick else c
      split
      · rfl
      · rename_i h
        have hnone : c.members.get? (fold nick) = none := by
          simpa [hasMember, member?] using h
        rw [removeMember, Table.erase_of_get?_none hnone]

theorem quitChannels_eq (isMe : Bool) (nick : String) (visit : List Channel) :
    quitChannels isMe nick visit = visit.filter (isLeft isMe nick) := rfl

/-- A name is among those of the channels that are left if its channel is left. -/
theorem mem_left_iff {net : Network} {shelf : Shelf} (hm : net.MirroredBy shelf)
    {visit : List Channel} (hv : visit.Perm net.channels.values) {isMe : Bool} {nick k : String}
    {c : Channel} (hc : net.channels.get? k = some c) :
    k ∈ ((quitChannels isMe nick visit).map (·.name)).map fold ↔ isLeft isMe nick c = true := by
  simp only [quitChannels_eq, List.mem_map, List.mem_filter]
  constructor
  · rintro ⟨_, ⟨c', ⟨hc', hleft⟩, rfl⟩, rfl⟩
    obtain ⟨k', hk'⟩ := Table.mem_values_iff.mp (hv.mem_iff.mp hc')
    -- no two channels have one name
    rw [hm.named k' c' hk', hk'] at hc
    rw [← Option.some.inj hc]
    exact hleft
  · intro hleft
    have hmem : c ∈ visit := hv.mem_iff.mpr (Table.mem_values_iff.mpr ⟨k, hc⟩)
    exact ⟨c.name, ⟨c, ⟨hmem, hleft⟩, rfl⟩, hm.named k c hc⟩

/-- Someone quits: what is written of each channel that is left, in whatever order. -/
theorem keepsMirror_quitChannels {net : Network} {visit : List Channel}
    (hv : visit.Perm net.channels.values) (isMe : Bool) (nick : String) :
    KeepsMirror net (net.mapChannels (quitChannel isMe nick))
      (((quitChannels isMe nick visit).map (·.name)).flatMap (leavingWrites isMe nick)) := by
  intro network s hf hm
  have hstored : ∀ name ∈ (quitChannels isMe nick visit).map (·.name),
      (s.channel? network name).isSome := by
    intro name hn
    obtain ⟨c, hc, rfl⟩ := List.mem_map.mp hn
    obtain ⟨k, hk⟩ := Table.mem_values_iff.mp (hv.mem_iff.mp (List.mem_filter.mp hc).1)
    obtain ⟨d, hd, _⟩ := hm.stored_of_known hk
    rw [Store.channel?, hm.named k c hk, hd]
    rfl
  -- leaving a channel twice is leaving it once, so the order of the visits does not count
  obtain ⟨s', shelf, hs, hget⟩ := Store.became_flatMap (isAbout_leavingWrites isMe nick)
    (after_leavingWrites isMe nick) (storedLeft_idem isMe nick) hf hstored
  refine ⟨s', shelf, hs, ?_, ?_⟩
  · intro k c' hk
    rw [Network.mapChannels, Table.get?_map] at hk
    obtain ⟨c, hc, rfl⟩ := Option.map_eq_some_iff.mp hk
    rw [name_quitChannel]
    exact hm.named k c hc
  · intro k
    rw [Network.mapChannels, Table.get?_map, hget]
    cases hc : net.channels.get? k with
    | none =>
        rw [hm.not_stored hc]
        exact .none
    | some c =>
        obtain ⟨d, hd, hcd⟩ := hm.stored_of_known hc
        -- the store writes of the channels that are left, the network maps over them all
        rw [hd, Option.map_some, Option.map_some, quitChannel_eq]
        simp only [mem_left_iff hm hv hc]
        split
        · exact .some (leftChannel_mirroredBy hcd isMe nick)
        · exact .some hcd

theorem keepsMirror_quitVisiting {net : Network} {visit : List Channel}
    (hv : visit.Perm net.channels.values) (msg : Message) :
    KeepsMirror net (quitVisiting visit net msg).1 (quitVisiting visit net msg).2.writes := by
  unfold quitVisiting
  split
  · exact keepsMirror_lines rfl (by simp)
  · rename_i nick _
    dsimp only
    simp only [Outcome.writes_append, Outcome.writes_writing, Outcome.writes_emit,
      channelsChanged, Outcome.writes_only, ite_self, List.append_nil]
    exact (keepsMirror_quitChannels hv _ nick).trans
      (keepsMirror_lines rfl (by simp [Network.line]))

/-- A channel in which someone is renamed goes on being mirrored. -/
theorem renameMember_mirroredBy {c : Channel} {d : StoredChannel} (h : c.MirroredBy d)
    (old new : String) : (c.renameMember old new).MirroredBy (d.renameUser old new) := by
  rw [renameMember_eq, StoredChannel.renameUser_eq]
  exact ⟨h.name, h.modes, h.isOpen, h.autoJoin, h.topic, h.keyed.renamed old new,
    fun hr => congrArg (renamed · old new) (h.members hr)⟩

theorem keepsMirror_rename (net : Network) (old new : String) :
    KeepsMirror net (net.mapChannels (·.renameMember old new)) [.renameUser old new] := by
  intro network s hf hm
  obtain ⟨s', hs⟩ := Store.became_renameUser network hf old new
  refine ⟨s', _, hs, ?_, ?_⟩
  · intro k c' hk
    rw [Network.mapChannels, Table.get?_map] at hk
    obtain ⟨c, hc, rfl⟩ := Option.map_eq_some_iff.mp hk
    rw [renameMember_eq]
    exact hm.named k c hc
  · intro k
    rw [Network.mapChannels, Table.get?_map, Table.get?_map]
    cases hc : net.channels.get? k with
    | none =>
        rw [hm.not_stored hc]
        exact .none
    | some c =>
        obtain ⟨d, hd, hcd⟩ := hm.stored_of_known hc
        rw [hd]
        exact .some (renameMember_mirroredBy hcd old new)

theorem keepsMirror_nickVisiting (net : Network) (visit : List Channel) (msg : Message) :
    KeepsMirror net (nickVisiting visit net msg).1 (nickVisiting visit net msg).2.writes := by
  unfold nickVisiting
  split
  · rename_i old new _ _
    refine (keepsMirror_rename net old new).trans (keepsMirror_lines rfl ?_)
    simp [Network.line]
  · exact keepsMirror_lines rfl (by simp)

end IrcClient.Handling
