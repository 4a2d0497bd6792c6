import IrcClient.Proofs.Handling.Locality
import IrcClient.Proofs.Network.Channels
import IrcClient.Proofs.Network.Naming

/-!
# Lines in other spellings

A server that takes two spellings for one name may use either, in one line after another. Once a
channel is known, the client must not care which: it looks the channel up by the folded form of
the name, and from there on uses the spelling that it knows. One use of the spelling of the line
would show in what is written, sent or announced.

Two names of a channel that is known cannot be told apart by anything that the handlers ask a
network (`Network.OneChannel`), so there is one short lemma for each handler. Of whoever leaves a
channel the handlers do tell the spelling, and only what is known afterwards is the same
(`spelling_immaterial`). So runs whose lines are the same up to such spellings lead to the same
(`lines_respelled`).
-/

namespace IrcClient

/-! ## Lines with a part replaced -/

namespace Message

/-- A line with another argument in a place, if it has one there. -/
def withArg (msg : Message) (i : Nat) (s : String) : Message :=
  { msg with args := msg.args.set i s }

/-- A line about one channel, with another name where it names the channel. -/
def inChannel (msg : Message) (name : String) : Message :=
  match msg.command with
  | "331" | "332" | "324" | "366" => msg.withArg 1 name
  -- the channel of a member list comes last but one
  | "353" => { msg with args := (msg.args.reverse.set 1 name).reverse }
  | _ => msg.withArg 0 name

/-- A line about someone who leaves, with another nickname for them. -/
def departing (msg : Message) (nick : String) : Message :=
  match msg.command with
  | "KICK" => msg.withArg 1 nick
  | _ => { msg with source := msg.source.map fun s => { s with nick } }

theorem sourceNick_withArg (msg : Message) (i : Nat) (s : String) :
    (msg.withArg i s).sourceNick = msg.sourceNick := rfl

theorem arg_withArg_self (msg : Message) (i : Nat) (s : String) :
    (msg.withArg i s).arg i = (msg.arg i).map fun _ => s :=
  List.getElem?_set_self'

theorem arg_withArg_of_ne (msg : Message) {i j : Nat} (h : i ≠ j) (s : String) :
    (msg.withArg i s).arg j = msg.arg j :=
  List.getElem?_set_ne h

theorem drop_args_withArg (msg : Message) {i j : Nat} (h : i < j) (s : String) :
    (msg.withArg i s).args.drop j = msg.args.drop j :=
  List.drop_set_of_lt h

/-- The other name stands where the line named its channel. -/
theorem channel?_inChannel {msg : Message} (hmsg : msg.command ∈ channelCommands)
    {target : String} (h : msg.channel? = some target) (name : String) :
    (msg.inChannel name).channel? = some name := by
  have harg : ∀ i, msg.arg i = some target → (msg.withArg i name).arg i = some name := by
    intro i hi
    rw [arg_withArg_self, hi]
    rfl
  obtain ⟨tags, source, command, args⟩ := msg
  simp only [channelCommands, List.mem_cons, List.not_mem_nil, or_false] at hmsg
  rcases hmsg with rfl | rfl | rfl | rfl | rfl | rfl | rfl | rfl | rfl | rfl
  · exact harg 0 h
  · exact harg 0 h
  · exact harg 0 h
  · exact harg 0 h
  · exact harg 0 h
  · exact harg 1 h
  · exact harg 1 h
  · exact harg 1 h
  · -- a list names its channel last but one
    have h : listed? ⟨tags, source, "353", args⟩ = some target := h
    show listed? ⟨tags, source, "353", (args.reverse.set 1 name).reverse⟩ = some name
    unfold listed? at h ⊢
    rw [List.reverse_reverse]
    rcases hargs : args.reverse with _ | ⟨_, _ | ⟨_, _ | ⟨_, _⟩⟩⟩
    case cons.cons.cons => rfl
    all_goals
      rw [hargs] at h
      cases h
  · exact harg 1 h

end Message

/-- The commands by which someone leaves. -/
def departureCommands : List String :=
  ["PART", "KICK", "QUIT"]

/-! ## Names of one channel -/

/-- Two names of one channel that is known. -/
structure Network.OneChannel (net : Network) (a b : String) : Prop where
  known : net.hasChannel a = true
  fold_eq : fold a = fold b

namespace Network.OneChannel

variable {net : Network} {a b : String}

theorem channel? (h : net.OneChannel a b) : net.channel? a = net.channel? b :=
  net.channel?_congr h.fold_eq

theorem hasChannel (h : net.OneChannel a b) : net.hasChannel a = net.hasChannel b := by
  rw [Network.hasChannel, h.channel?, Network.hasChannel]

/-- One that is not known would be new, under the name that was asked for. -/
theorem channelOrNew (h : net.OneChannel a b) : net.channelOrNew a = net.channelOrNew b := by
  obtain ⟨c, hc⟩ := Option.isSome_iff_exists.mp h.known
  rw [channelOrNew_of_spelling hc rfl, channelOrNew_of_spelling hc h.fold_eq.symm]

theorem setChannel (h : net.OneChannel a b) (c : Channel) :
    net.setChannel a c = net.setChannel b c :=
  net.setChannel_congr h.fold_eq c

end Network.OneChannel

theorem Network.isMe_congr (net : Network) {a b : String} (h : fold a = fold b) :
    net.isMe a = net.isMe b := by
  rw [isMe, isMe, sameName, h, sameName]

theorem Channel.removeMember_congr (c : Channel) {a b : String} (h : fold a = fold b) :
    c.removeMember a = c.removeMember b := by
  rw [removeMember, h, removeMember]

namespace Handling

open Message

variable {net : Network} {a b : String}

/-! ## The channel in another spelling -/

theorem enter_spelled (h : net.OneChannel a b) (nick : String) :
    enter net nick a = enter net nick b := by
  simp only [enter, h.hasChannel, h.channelOrNew, h.setChannel]

theorem join_spelled (h : net.OneChannel a b) (msg : Message) :
    join net (msg.withArg 0 a) = join net (msg.withArg 0 b) := by
  simp only [join, Message.sourceNick_withArg, Message.arg_withArg_self]
  cases msg.sourceNick with
  | none => rfl
  | some nick =>
    cases msg.arg 0 with
    | none => rfl
    | some _ => exact enter_spelled h nick

theorem leave_spelled (h : net.OneChannel a b) (nick : String) (tell : String → Write)
    (announce : String → Event) :
    leave net nick a tell announce = leave net nick b tell announce := by
  simp only [leave, h.channel?, h.setChannel]

theorem part_spelled (h : net.OneChannel a b) (msg : Message) :
    part net (msg.withArg 0 a) = part net (msg.withArg 0 b) := by
  simp (disch := decide) only [part, sourceNick_withArg, arg_withArg_self, arg_withArg_of_ne]
  cases msg.sourceNick with
  | none => rfl
  | some nick =>
    cases msg.arg 0 with
    | none => rfl
    | some _ => exact leave_spelled h nick _ _

theorem kick_spelled (h : net.OneChannel a b) (msg : Message) :
    kick net (msg.withArg 0 a) = kick net (msg.withArg 0 b) := by
  simp (disch := decide) only [kick, sourceNick_withArg, arg_withArg_self, arg_withArg_of_ne]
  cases msg.arg 0 with
  | none => rfl
  | some _ =>
    cases msg.arg 1 with
    | none => rfl
    | some victim => exact leave_spelled h victim _ _

theorem updateTopic_spelled (h : net.OneChannel a b) (topic : String) (setter : Option String) :
    updateTopic net a topic setter = updateTopic net b topic setter := by
  simp only [updateTopic, h.hasChannel, h.channelOrNew, h.setChannel]

theorem topic_spelled (h : net.OneChannel a b) (msg : Message) :
    topic net (msg.withArg 0 a) = topic net (msg.withArg 0 b) := by
  simp (disch := decide) only [topic, sourceNick_withArg, arg_withArg_self, arg_withArg_of_ne]
  cases msg.arg 0 with
  | none => rfl
  | some _ => exact updateTopic_spelled h _ _

theorem topicReply_spelled (h : net.OneChannel a b) (msg : Message) :
    topicReply net (msg.withArg 1 a) = topicReply net (msg.withArg 1 b) := by
  simp (disch := decide) only [topicReply, arg_withArg_self, arg_withArg_of_ne]
  cases msg.arg 1 with
  | none => rfl
  | some _ =>
    cases msg.arg 2 with
    | none => rfl
    | some topic => exact updateTopic_spelled h topic none

theorem noTopic_spelled (h : net.OneChannel a b) (msg : Message) :
    noTopic net (msg.withArg 1 a) = noTopic net (msg.withArg 1 b) := by
  simp only [noTopic, arg_withArg_self]
  cases msg.arg 1 with
  | none => rfl
  | some _ => exact updateTopic_spelled h "" none

/-- A mode string is for a channel or for a user, going by the first character of the name. -/
theorem mode_spelled (h : net.OneChannel a b)
    (hkind : net.support.isChannel a = net.support.isChannel b) (msg : Message) :
    mode net (msg.withArg 0 a) = mode net (msg.withArg 0 b) := by
  simp (disch := decide) only [mode, sourceNick_withArg, arg_withArg_self, arg_withArg_of_ne,
    drop_args_withArg]
  cases msg.arg 0 with
  | none => rfl
  | some _ =>
    cases msg.arg 1 with
    | none => rfl
    | some modes =>
      simp only [Option.map_some, hkind, h.hasChannel, h.channelOrNew, h.setChannel]

theorem channelModeIs_spelled (h : net.OneChannel a b) (msg : Message) :
    channelModeIs net (msg.withArg 1 a) = channelModeIs net (msg.withArg 1 b) := by
  simp (disch := decide) only [channelModeIs, arg_withArg_self, arg_withArg_of_ne]
  cases msg.arg 1 with
  | none => rfl
  | some _ =>
    cases msg.arg 2 with
    | none => rfl
    | some modes => simp only [Option.map_some, h.hasChannel, h.channelOrNew, h.setChannel]

theorem endOfNames_spelled (h : net.OneChannel a b) (msg : Message) :
    endOfNames net (msg.withArg 1 a) = endOfNames net (msg.withArg 1 b) := by
  simp only [endOfNames, arg_withArg_self]
  cases msg.arg 1 with
  | none => rfl
  | some _ => simp only [Option.map_some, h.channel?, h.setChannel]

theorem namesReply_spelled (h : net.OneChannel a b) (msg : Message) :
    namesReply net { msg with args := (msg.args.reverse.set 1 a).reverse } =
      namesReply net { msg with args := (msg.args.reverse.set 1 b).reverse } := by
  simp only [namesReply, List.reverse_reverse]
  match msg.args.reverse with
  | [] | [_] | [_, _] => rfl
  | names :: _ :: _ :: _ =>
    simp only [List.set_cons_succ, List.set_cons_zero, h.hasChannel, h.channelOrNew, h.setChannel]

/-! ## Whoever leaves in another spelling -/

/-- What is told of it does not matter for what is known. -/
theorem leave_departing (h : fold a = fold b) (target : String) (tell tell' : String → Write)
    (announce announce' : String → Event) :
    (leave net a target tell announce).1 = (leave net b target tell' announce').1 := by
  unfold leave
  cases net.channel? target with
  | none => rfl
  | some c => simp only [leftChannel, net.isMe_congr h, c.removeMember_congr h]

theorem part_departing (h : fold a = fold b) (msg : Message) :
    (part net { msg with source := msg.source.map fun s => { s with nick := a } }).1 =
      (part net { msg with source := msg.source.map fun s => { s with nick := b } }).1 := by
  unfold part
  cases msg.source with
  | none => rfl
  | some s =>
    cases msg.args with
    | nil => rfl
    | cons target rest => exact leave_departing h target _ _ _ _

theorem kick_departing (h : fold a = fold b) (msg : Message) :
    (kick net (msg.withArg 1 a)).1 = (kick net (msg.withArg 1 b)).1 := by
  simp (disch := decide) only [kick, sourceNick_withArg, arg_withArg_self, arg_withArg_of_ne]
  cases msg.arg 0 with
  | none => rfl
  | some target =>
    cases msg.arg 1 with
    | none => rfl
    | some _ => exact leave_departing h target _ _ _ _

theorem quit_departing (h : fold a = fold b) (msg : Message) :
    (quit net { msg with source := msg.source.map fun s => { s with nick := a } }).1 =
      (quit net { msg with source := msg.source.map fun s => { s with nick := b } }).1 := by
  have hleft : quitChannel (net.isMe a) a = quitChannel (net.isMe b) b := by
    funext c
    rw [quitChannel, quitChannel, net.isMe_congr h, c.removeMember_congr h]
  unfold quit quitVisiting
  cases msg.source with
  | none => rfl
  | some s => exact congrArg net.mapChannels hleft

end Handling

/-! ## Lines -/

/-- A line about a channel that is known comes to the same, however it spells the channel. -/
theorem process_inChannel (p : Persona) {net : Network} {a b : String} (h : net.OneChannel a b)
    {msg : Message} (hmsg : msg.command ∈ channelCommands)
    (hkind : msg.command = "MODE" → net.support.isChannel a = net.support.isChannel b) :
    process p net (msg.inChannel a) = process p net (msg.inChannel b) := by
  obtain ⟨tags, source, command, args⟩ := msg
  simp only [channelCommands, List.mem_cons, List.not_mem_nil, or_false] at hmsg
  rcases hmsg with rfl | rfl | rfl | rfl | rfl | rfl | rfl | rfl | rfl | rfl
  · exact Handling.join_spelled h ⟨tags, source, "JOIN", args⟩
  · exact Handling.part_spelled h ⟨tags, source, "PART", args⟩
  · exact Handling.kick_spelled h ⟨tags, source, "KICK", args⟩
  · exact Handling.topic_spelled h ⟨tags, source, "TOPIC", args⟩
  · exact Handling.mode_spelled h (hkind rfl) ⟨tags, source, "MODE", args⟩
  · exact Handling.noTopic_spelled h ⟨tags, source, "331", args⟩
  · exact Handling.topicReply_spelled h ⟨tags, source, "332", args⟩
  · exact Handling.channelModeIs_spelled h ⟨tags, source, "324", args⟩
  · exact Handling.namesReply_spelled h ⟨tags, source, "353", args⟩
  · exact Handling.endOfNames_spelled h ⟨tags, source, "366", args⟩

/-- The same is known when someone has left, however the line spells their nickname. -/
theorem process_departing (p : Persona) (net : Network) {a b : String} (h : fold a = fold b)
    {msg : Message} (hmsg : msg.command ∈ departureCommands) :
    (process p net (msg.departing a)).1 = (process p net (msg.departing b)).1 := by
  obtain ⟨tags, source, command, args⟩ := msg
  simp only [departureCommands, List.mem_cons, List.not_mem_nil, or_false] at hmsg
  rcases hmsg with rfl | rfl | rfl
  · exact Handling.part_departing h ⟨tags, source, "PART", args⟩
  · exact Handling.kick_departing h ⟨tags, source, "KICK", args⟩
  · exact Handling.quit_departing h ⟨tags, source, "QUIT", args⟩

/--
**The spelling does not matter.** A line about a channel that is known has the same effects and
leaves the same behind whichever spelling of the channel it uses; a change of modes does so if
both spellings, or neither, look like the name of a channel. And however a line spells the
nickname of someone who leaves, the same is known of the network afterwards.
-/
theorem spelling_immaterial (p : Persona) (net : Network) (msg : Message) {k : String}
    {c : Channel} (known : net.channels.get? k = some c) :
    (msg.command ∈ channelCommands → ∀ a b, fold a = k → fold b = k →
      (msg.command = "MODE" → net.support.isChannel a = net.support.isChannel b) →
      process p net (msg.inChannel a) = process p net (msg.inChannel b)) ∧
    (msg.command ∈ departureCommands → ∀ a b, fold a = fold b →
      (process p net (msg.departing a)).1 = (process p net (msg.departing b)).1) := by
  refine ⟨fun hmsg a b ha hb hkind => ?_, fun hmsg a b h => process_departing p net h hmsg⟩
  have hknown : net.hasChannel a = true := by
    rw [Network.hasChannel, Network.channel?, ha, known, Option.isSome_some]
  exact process_inChannel p ⟨hknown, ha.trans hb.symm⟩ hmsg hkind

/-- A channel with brackets in its name, in capitals and with braces, and one of its members. -/
theorem spelling_immaterial_brackets :
    let p : Persona := ⟨"1.0", "noon"⟩
    let line (command nick : String) (args : List String) : Message :=
      ⟨[], some ⟨nick, none, none⟩, command, args⟩
    let net := (process p (process p (.new 1 "Libera" "kestrel")
      (line "JOIN" "kestrel" ["#lean[4]"])).1 (line "JOIN" "ada[1]" ["#Lean{4}"])).1
    net.channels.get? "#lean{4}" = some (net.channelOrNew "#lean[4]") ∧
      fold "#LEAN{4}" = "#lean{4}" ∧ fold "#lean[4]" = "#lean{4}" ∧
      process p net (line "MODE" "kestrel" ["#LEAN{4}", "+o-t", "Ada{1}"]) =
        process p net (line "MODE" "kestrel" ["#lean[4]", "+o-t", "Ada{1}"]) ∧
      (process p net (line "KICK" "kestrel" ["#lean[4]", "ADA{1}"])).1 =
        (process p net (line "KICK" "kestrel" ["#lean[4]", "ada[1]"])).1 := by
  intro p line net
  have known : net.channels.get? "#lean{4}" = some (net.channelOrNew "#lean[4]") := by
    decide +kernel
  have ha : fold "#LEAN{4}" = "#lean{4}" := by decide +kernel
  have hb : fold "#lean[4]" = "#lean{4}" := by decide +kernel
  refine ⟨known, ha, hb, ?_, ?_⟩
  · exact (spelling_immaterial p net (line "MODE" "kestrel" ["#lean[4]", "+o-t", "Ada{1}"]) known).1
      (by decide) "#LEAN{4}" "#lean[4]" ha hb (fun _ => by decide)
  · exact (spelling_immaterial p net (line "KICK" "kestrel" ["#lean[4]", "ada[1]"]) known).2
      (by decide) "ADA{1}" "ada[1]" (by decide +kernel)

/-! ## Runs -/

/-- Two lines that are one but for a spelling: of a channel that is known, or of who leaves. -/
inductive Network.Respelled (net : Network) : Message → Message → Prop where
  | same (msg : Message) : Respelled net msg msg
  | channel {msg : Message} (hmsg : msg.command ∈ channelCommands) {a b : String}
      (h : net.OneChannel a b)
      (hkind : msg.command = "MODE" → net.support.isChannel a = net.support.isChannel b) :
      Respelled net (msg.inChannel a) (msg.inChannel b)
  | departing {msg : Message} (hmsg : msg.command ∈ departureCommands) {a b : String}
      (h : fold a = fold b) : Respelled net (msg.departing a) (msg.departing b)

theorem Network.Respelled.process {net : Network} {msg msg' : Message}
    (h : net.Respelled msg msg') (p : Persona) :
    (process p net msg).1 = (process p net msg').1 := by
  cases h with
  | same => rfl
  | channel hmsg h hkind => rw [process_inChannel p h hmsg hkind]
  | departing hmsg h => exact process_departing p net h hmsg

/-- Lines that are the same up to spellings, each at what is known when it comes. -/
inductive Network.AllRespelled (p : Persona) : Network → List Message → List Message → Prop where
  | nil (net : Network) : AllRespelled p net [] []
  | cons {net : Network} {msg msg' : Message} {lines lines' : List Message}
      (head : net.Respelled msg msg')
      (tail : AllRespelled p (IrcClient.process p net msg).1 lines lines') :
      AllRespelled p net (msg :: lines) (msg' :: lines')

/-- **Two servers that differ in their spellings leave the same behind.** -/
theorem lines_respelled {p : Persona} {net : Network} {lines lines' : List Message}
    (h : net.AllRespelled p lines lines') :
    net.run (lines.map (.line p)) = net.run (lines'.map (.line p)) := by
  induction h with
  | nil net => rfl
  | @cons net msg msg' lines lines' head tail ih =>
    show ((process p net msg).1).run _ = ((process p net msg').1).run _
    rw [← head.process p]
    exact ih

end IrcClient
