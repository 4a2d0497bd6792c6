import IrcClient.Handling

/-!
# What a line changes

Many commands come in, but there are few things that a line can do to what is known of a
network (`Network.Changes`). Most lines are about one channel, and then that channel is edited,
as it is known or as a new one (`Channel.Edited`). A QUIT and a NICK concern all channels at once.

There is one lemma for each handler. Whatever holds of every network that lines can lead to is
proved from `changes_process`, and no handler is opened for it again.
-/

namespace IrcClient

/-! ## Verbs and their commands -/

namespace Verb

/-- The commands that a verb stands for. -/
def commands : Verb → List String
  | welcome => ["001"]
  | nickRejected => ["432", "433"]
  | ping => ["PING"]
  | error => ["ERROR"]
  | announcement => ["005"]
  | namesReply => ["353"]
  | endOfNames => ["366"]
  | join => ["JOIN"]
  | part => ["PART"]
  | kick => ["KICK"]
  | quit => ["QUIT"]
  | nick => ["NICK"]
  | topic => ["TOPIC"]
  | topicReply => ["332"]
  | noTopic => ["331"]
  | mode => ["MODE"]
  | channelModeIs => ["324"]
  | whoisUser => ["311"]
  | whoisServer => ["312"]
  | whoisOperator => ["313"]
  | whoisIdle => ["317"]
  | whoisChannels => ["319"]
  | whoisAccount => ["330"]
  | whoisSecure => ["671"]
  | away => ["301"]
  | endOfWhois => ["318"]
  | privmsg => ["PRIVMSG"]
  | notice => ["NOTICE"]
  | failure => Numeric.failures.map (·.1)

theorem mem_failures_of_isFailure {code : String} (h : Numeric.isFailure code = true) :
    code ∈ Numeric.failures.map (·.1) := by
  obtain ⟨failure, hmem, hcode⟩ := List.lookup_isSome_iff.mp h
  exact List.mem_map.mpr ⟨failure, hmem, (beq_iff_eq.mp hcode).symm⟩

/-- A command is one of those that its verb stands for. -/
theorem mem_commands {command : String} {v : Verb} (h : ofCommand? command = some v) :
    command ∈ v.commands := by
  unfold ofCommand? at h
  split at h
  case h_30 =>
    split at h
    · rename_i hfailure
      cases h
      exact mem_failures_of_isFailure hfailure
    · cases h
  all_goals
    cases h
    simp [commands]

end Verb

/-! ## Changes -/

/-- Two tables with members under the same keys, who go by the same nicknames. -/
def SameNicks (t u : Table String Member) : Prop :=
  ∀ k, (u.get? k).map (·.nick) = (t.get? k).map (·.nick)

theorem SameNicks.refl (t : Table String Member) : SameNicks t t :=
  fun _ => rfl

/-- What a line can do to the one channel that it is about; `me` is the client's nickname. -/
inductive Channel.Edited (me : String) (c : Channel) : Verb → Channel → Prop where
  /-- Someone comes in. Where it is the client, the channel is open from now on. -/
  | entered (nick : String) :
      Edited me c .join { c.addMember nick with isOpen := c.isOpen || sameName me nick }
  /-- Someone goes, of their own accord or not. -/
  | left (v : Verb) (hv : v = .part ∨ v = .kick) (nick : String) :
      Edited me c v (Handling.leftChannel (sameName me nick) nick c)
  | topic (v : Verb) (hv : v = .topic ∨ v = .topicReply ∨ v = .noTopic) (topic : Option String) :
      Edited me c v { c with topic }
  /-- Flags are set, and modes are given to those who are there or taken from them. -/
  | modes (v : Verb) (hv : v = .mode ∨ v = .channelModeIs) (modes : String)
      (members : Table String Member) (h : SameNicks c.members members) :
      Edited me c v { c with modes, members }
  /-- A part of the list of members is at hand. -/
  | listed (members : List Member) : Edited me c .namesReply (Handling.addListed c members)

/-- The replies that add to the collection of a user. -/
def Verb.collecting : List Verb :=
  [whoisUser, whoisServer, whoisOperator, whoisIdle, whoisChannels, whoisAccount, whoisSecure, away]

/-- What a line with a verb can do to what is known of a network. -/
inductive Network.Changes (net : Network) (msg : Message) : Verb → Network → Prop where
  | nothing (v : Verb) : Changes net msg v net
  | welcomed : Changes net msg .welcome
      { net with nickname := (msg.arg 0).getD net.nickname, registered := true }
  /-- A longer nickname is tried, as long as the registration is not complete. -/
  | rejected (h : net.registered = false) : Changes net msg .nickRejected
      { net with nickname := (msg.arg 1).getD net.nickname ++ "_" }
  | announced (support : Support) : Changes net msg .announcement { net with support }
  | collected (v : Verb) (hv : v ∈ Verb.collecting) (nick : String) (f : Whois → Whois)
      (hf : ∀ w, (f w).nick = w.nick) : Changes net msg v (net.updateWhois nick f)
  | collectionEnded (nick : String) : Changes net msg .endOfWhois (net.closeWhois nick)
  | edited (v : Verb) (target : String) (c : Channel)
      (h : Channel.Edited net.nickname (net.channelOrNew target) v c) :
      Changes net msg v (net.setChannel target c)
  /-- The list of the members of a channel is complete. -/
  | listEnded (target : String) (c : Channel) (ht : msg.arg 1 = some target)
      (hc : net.channel? target = some c) :
      Changes net msg .endOfNames (net.setChannel target c.endRefresh)
  | quit (nick : String) (hn : msg.sourceNick = some nick) : Changes net msg .quit
      (net.mapChannels (Handling.quitChannel (net.isMe nick) nick))
  /-- Someone takes another nickname, and it may be the client that does. -/
  | renamed (old new : String) (ho : msg.sourceNick = some old) (hn : msg.arg 0 = some new) :
      Changes net msg .nick { net.mapChannels (·.renameMember old new) with
        nickname := if net.isMe old then new else net.nickname }

/-- A channel that is known is edited as it is known. -/
theorem Network.channelOrNew_of_known {net : Network} {target : String} {c : Channel}
    (h : net.channel? target = some c) : net.channelOrNew target = c := by
  rw [channelOrNew, h, Option.getD_some]

namespace Handling

open Network (Changes)

variable (net : Network) (msg : Message)

/-! ## Registration and what the server supports -/

theorem changes_nickRejected : Changes net msg .nickRejected (nickRejected net msg).1 := by
  unfold nickRejected
  dsimp only
  split
  · exact .nothing _
  · rename_i h
    exact .rejected (Bool.eq_false_iff.mpr h)

theorem changes_announcement : Changes net msg .announcement (announcement net msg).1 :=
  .announced _

/-! ## Users -/

theorem changes_collect {v : Verb} (hv : v ∈ Verb.collecting) {f : Message → Whois → Whois}
    (hf : ∀ msg w, (f msg w).nick = w.nick) :
    Changes net msg v (collect f net msg).1 := by
  unfold collect
  split
  · exact .nothing v
  · rename_i nick _
    exact .collected v hv nick (f msg) (hf msg)

theorem changes_away : Changes net msg .away (away net msg).1 := by
  unfold away
  split
  · exact .nothing _
  · rename_i nick _
    split
    · exact .collected _ (by decide) nick (fun w => { w with away := msg.arg 2 }) fun _ => rfl
    · exact .nothing _

theorem changes_endOfWhois : Changes net msg .endOfWhois (endOfWhois net msg).1 := by
  unfold endOfWhois
  split
  · exact .nothing _
  · rename_i nick _
    split
    · exact .nothing _
    · exact .collectionEnded nick

/-! ## Who comes and who goes -/

theorem changes_join : Changes net msg .join (join net msg).1 := by
  unfold join
  split
  · rename_i nick target _ _
    exact .edited _ target _ (.entered nick)
  · exact .nothing _

theorem changes_leave {v : Verb} (hv : v = .part ∨ v = .kick) (nick target : String)
    (tell : String → Write) (announce : String → Event) :
    Changes net msg v (leave net nick target tell announce).1 := by
  unfold leave
  split
  · exact .nothing v
  · rename_i c hc
    refine .edited v target _ ?_
    rw [Network.channelOrNew_of_known hc]
    exact .left v hv nick

theorem changes_part : Changes net msg .part (part net msg).1 := by
  unfold part
  split
  · exact changes_leave net msg (.inl rfl) _ _ _ _
  · exact .nothing _

theorem changes_kick : Changes net msg .kick (kick net msg).1 := by
  unfold kick
  split
  · exact changes_leave net msg (.inr rfl) _ _ _ _
  · exact .nothing _

/-- Whoever quits, a channel keeps its name. -/
theorem name_quitChannel (isMe : Bool) (nick : String) (c : Channel) :
    (quitChannel isMe nick c).name = c.name := by
  unfold quitChannel
  split
  · split <;> rfl
  · rfl

theorem changes_quit : Changes net msg .quit (quit net msg).1 := by
  unfold quit quitVisiting
  split
  · exact .nothing _
  · rename_i nick hn
    exact .quit nick hn

theorem changes_nick : Changes net msg .nick (nick net msg).1 := by
  unfold nick nickVisiting
  split
  · rename_i old new ho hn
    exact .renamed old new ho hn
  · exact .nothing _

/-! ## Topics and member lists -/

theorem changes_updateTopic {v : Verb} (hv : v = .topic ∨ v = .topicReply ∨ v = .noTopic)
    (target topic : String) (setter : Option String) :
    Changes net msg v (updateTopic net target topic setter).1 :=
  .edited v target _ (.topic v hv _)

theorem changes_topic : Changes net msg .topic (topic net msg).1 := by
  unfold topic
  split
  · exact .nothing _
  · exact changes_updateTopic net msg (by simp) _ _ _

theorem changes_topicReply : Changes net msg .topicReply (topicReply net msg).1 := by
  unfold topicReply
  split
  · exact changes_updateTopic net msg (by simp) _ _ _
  · exact .nothing _

theorem changes_noTopic : Changes net msg .noTopic (noTopic net msg).1 := by
  unfold noTopic
  split
  · exact .nothing _
  · exact changes_updateTopic net msg (by simp) _ _ _

theorem changes_namesReply : Changes net msg .namesReply (namesReply net msg).1 := by
  unfold namesReply
  split
  · rename_i names target _ _ _
    exact .edited _ target _ (.listed _)
  · exact .nothing _

theorem changes_endOfNames : Changes net msg .endOfNames (endOfNames net msg).1 := by
  unfold endOfNames
  split
  · exact .nothing _
  · rename_i target ht
    split
    · exact .nothing _
    · rename_i c hc
      exact .listEnded target c ht hc

/-! ## Modes -/

/-- What a mode string that is being read may have done to a channel: flags and modes of members. -/
structure ModeRun.Keeps (before : Channel) (r : ModeRun) : Prop where
  channel : r.channel = { before with modes := r.channel.modes, members := r.channel.members }
  members : SameNicks before.members r.channel.members

namespace ModeRun

variable {before : Channel} {r : ModeRun}

theorem Keeps.setMemberMode (h : Keeps before r) (s : Support) (mode : Char) (nick : String) :
    Keeps before (r.setMemberMode s mode nick) := by
  unfold ModeRun.setMemberMode
  split
  · exact h
  · rename_i m hm
    refine ⟨?_, fun k => ?_⟩
    · dsimp only
      rw [h.channel]
    · rw [← h.members k]
      dsimp only
      rw [Table.get?_insert]
      split
      · rename_i hk
        have hfound : r.channel.members.get? k = some m := hk ▸ hm
        rw [hfound]
        rfl
      · rfl

theorem Keeps.step (h : Keeps before r) (s : Support) (mode : Char) :
    Keeps before (r.step s mode) := by
  have hset : ∀ params adding, Keeps before { r with params := params, adding := adding } :=
    fun _ _ => ⟨h.channel, h.members⟩
  unfold ModeRun.step
  split
  · exact hset _ _
  · exact hset _ _
  · dsimp only
    split
    · split
      · exact hset _ _
      · exact (hset _ _).setMemberMode s _ _
    · split
      · exact hset _ _
      · refine ⟨?_, h.members⟩
        show ({ r.channel with modes := _ } : Channel) = _
        rw [h.channel]
        rfl

theorem Keeps.foldl (s : Support) : ∀ (modes : List Char) {r : ModeRun},
    Keeps before r → Keeps before (modes.foldl (ModeRun.step s) r)
  | [], _, h => h
  | mode :: modes, _, h => Keeps.foldl s modes (h.step s mode)

end ModeRun

theorem changes_mode : Changes net msg .mode (mode net msg).1 := by
  unfold mode
  split
  · rename_i target modes _ _
    split
    · exact .nothing _
    · have h : ModeRun.Keeps (net.channelOrNew target) (ModeRun.read net.support
          { channel := net.channelOrNew target, params := msg.args.drop 2 } modes) :=
        .foldl net.support modes.toList ⟨rfl, .refl _⟩
      refine .edited _ target _ ?_
      rw [h.channel]
      exact .modes _ (.inl rfl) _ _ h.members
  · exact .nothing _

theorem changes_channelModeIs : Changes net msg .channelModeIs (channelModeIs net msg).1 := by
  unfold channelModeIs
  split
  · rename_i target modes _ _
    exact .edited _ target _ (.modes _ (.inr rfl) _ _ (.refl _))
  · exact .nothing _

/-! ## What people say -/

theorem changes_privmsg (p : Persona) : Changes net msg .privmsg (privmsg p net msg).1 := by
  unfold privmsg
  split <;> exact .nothing _

theorem changes_notice : Changes net msg .notice (notice net msg).1 := by
  unfold notice
  split <;> exact .nothing _

end Handling

open Handling in
theorem changes_handler (p : Persona) (v : Verb) (net : Network) (msg : Message) :
    net.Changes msg v (v.handler p net msg).1 := by
  cases v with
  | welcome => exact .welcomed
  | nickRejected => exact changes_nickRejected net msg
  | announcement => exact changes_announcement net msg
  | namesReply => exact changes_namesReply net msg
  | endOfNames => exact changes_endOfNames net msg
  | join => exact changes_join net msg
  | part => exact changes_part net msg
  | kick => exact changes_kick net msg
  | quit => exact changes_quit net msg
  | nick => exact changes_nick net msg
  | topic => exact changes_topic net msg
  | topicReply => exact changes_topicReply net msg
  | noTopic => exact changes_noTopic net msg
  | mode => exact changes_mode net msg
  | channelModeIs => exact changes_channelModeIs net msg
  | whoisUser | whoisServer | whoisOperator | whoisIdle | whoisChannels | whoisAccount
  | whoisSecure => exact changes_collect net msg (by decide) fun _ _ => rfl
  | away => exact changes_away net msg
  | endOfWhois => exact changes_endOfWhois net msg
  | privmsg => exact changes_privmsg net msg p
  | notice => exact changes_notice net msg
  | ping | error | failure => exact .nothing _

/-- **Whatever the line, no more than this becomes of what is known of a network.** -/
theorem changes_process (p : Persona) (net : Network) (msg : Message) :
    (process p net msg).1 = net ∨
      ∃ v, Verb.ofCommand? msg.command = some v ∧ net.Changes msg v (process p net msg).1 := by
  unfold process
  split
  · exact .inl rfl
  · rename_i v hv
    exact .inr ⟨v, hv, changes_handler p v net msg⟩

/-- Whether two states are of one network. -/
structure SameNetwork (net net' : Network) : Prop where
  id : net'.id = net.id
  label : net'.label = net.label

theorem SameNetwork.trans {a b c : Network} (hab : SameNetwork a b) (hbc : SameNetwork b c) :
    SameNetwork a c :=
  ⟨hbc.id.trans hab.id, hbc.label.trans hab.label⟩

theorem Network.Changes.sameNetwork {net net' : Network} {msg : Message} {v : Verb}
    (h : net.Changes msg v net') : SameNetwork net net' := by
  cases h <;> exact ⟨rfl, rfl⟩

/-- No line but an announcement changes what the server supports. -/
theorem Network.Changes.support {net net' : Network} {msg : Message} {v : Verb}
    (h : net.Changes msg v net') (hv : v ≠ .announcement) : net'.support = net.support := by
  cases h with
  | announced _ => exact absurd rfl hv
  | nothing _ | welcomed | rejected _ | collected _ _ _ _ _ | collectionEnded _ | edited _ _ _ _
  | listEnded _ _ _ _ | quit _ _ | renamed _ _ _ _ => rfl

/-- A line cannot make one network pass for another. -/
theorem sameNetwork_process (p : Persona) (net : Network) (msg : Message) :
    SameNetwork net (process p net msg).1 := by
  obtain he | ⟨v, -, hc⟩ := changes_process p net msg
  · rw [he]
    exact ⟨rfl, rfl⟩
  · exact hc.sameNetwork

end IrcClient
