import IrcClient.Proofs.Handling.Modes
import IrcClient.Proofs.Network.Naming

/-!
# The buffers of the history

A line of history goes to the buffer that it names, and a buffer is found by its name as it is
written. So whoever tells something of a channel has to write the name as the channel is known,
and not as the server spells it this time, or the history of the channel falls apart.

What is told of comings and goings, of topics, modes and failures keeps to that
(`Network.Files.known`). What people say does not: it goes to the buffer that the line itself
names, however it spells it (`Network.Files.said`). This is all that there is (`files_process`).
As a channel keeps its name for good (`Network.KnownAs.run`), what people say is the only thing
that can split its history (`one_buffer_unless_said`).
-/

namespace IrcClient

/-! ## Channels keep their names -/

/-- Whether a channel is known, and in this spelling. -/
def Network.KnownAs (net : Network) (name : String) : Prop :=
  ∃ c, net.channel? name = some c ∧ c.name = name

namespace Network.KnownAs

variable {net net' : Network} {name : String}

theorem setChannel (h : net.KnownAs name) {target : String} {c : Channel}
    (hc : fold target = fold name → c.name = name) : (net.setChannel target c).KnownAs name := by
  obtain ⟨before, hbefore, hname⟩ := h
  by_cases ht : fold target = fold name
  · exact ⟨c, by rw [channel?_setChannel, if_pos ht], hc ht⟩
  · exact ⟨before, by rw [channel?_setChannel, if_neg ht, hbefore], hname⟩

theorem mapChannels (h : net.KnownAs name) {f : Channel → Channel} (hf : ∀ c, (f c).name = c.name) :
    (net.mapChannels f).KnownAs name := by
  obtain ⟨c, hc, hname⟩ := h
  refine ⟨f c, ?_, (hf c).trans hname⟩
  show (net.channels.map f).get? (fold name) = some (f c)
  rw [Table.get?_map]
  exact congrArg (Option.map f) hc

/-- Whatever a line changes, a channel keeps the name that it is known by. -/
theorem changes {msg : Message} {v : Verb} (h : net.KnownAs name) (hc : net.Changes msg v net') :
    net'.KnownAs name := by
  cases hc with
  | nothing | welcomed | rejected _ | announced _ | collected _ _ _ _ _ | collectionEnded _ =>
    exact h
  | edited v target c he =>
    refine h.setChannel fun ht => ?_
    obtain ⟨before, hbefore, hname⟩ := h
    rw [he.name, channelOrNew_of_spelling hbefore ht, hname]
  | listEnded target c _ hc =>
    refine h.setChannel fun ht => ?_
    obtain ⟨before, hbefore, hname⟩ := h
    rw [net.channel?_congr ht, hbefore] at hc
    rw [← Option.some.inj hc]
    exact hname
  | quit nick _ => exact h.mapChannels fun c => Handling.name_quitChannel _ nick c
  | renamed old new _ _ =>
    obtain ⟨c, hc⟩ := h.mapChannels (f := (·.renameMember old new)) fun c => by
      rw [Channel.renameMember_eq]
    exact ⟨c, hc⟩

theorem process (h : net.KnownAs name) (p : Persona) (msg : Message) :
    (process p net msg).1.KnownAs name := by
  obtain he | ⟨v, -, hc⟩ := changes_process p net msg
  · rw [he]
    exact h
  · exact h.changes hc

theorem mark (h : net.KnownAs name) (channel : String) (autoJoin : Bool) :
    (net.mark channel autoJoin).KnownAs name := by
  refine h.setChannel fun ht => ?_
  obtain ⟨c, hc, hname⟩ := h
  show (net.channelOrNew channel).name = name
  rw [channelOrNew_of_spelling hc ht, hname]

/-- Until the client connects anew, a channel keeps its name whatever happens. -/
theorem run : ∀ (steps : List Step) {net : Network}, (∀ records, Step.seed records ∉ steps) →
    net.KnownAs name → (net.run steps).KnownAs name
  | [], _, _, h => h
  | step :: steps, net, hs, h => by
      have hsteps : ∀ records, Step.seed records ∉ steps := fun records hr =>
        hs records (List.mem_cons_of_mem _ hr)
      refine run steps hsteps ?_
      cases step with
      | seed records => exact absurd List.mem_cons_self (hs records)
      | line p msg => exact h.process p msg
      | mark channel autoJoin => exact h.mark channel autoJoin

end Network.KnownAs

/-! ## Lines and their buffers -/

/-- Whether a line of history holds what people say. -/
def LineKind.isSaid : LineKind → Bool
  | message | action | notice => true
  | _ => false

/-- The buffer that a line of history goes to, given the line that it tells of. -/
inductive Network.Files (net : Network) (msg : Message) (net' : Network) (l : HistoryLine) :
    Prop where
  /-- It is told aside of all channels that are known. -/
  | aside (h : ∀ name ∈ l.channel, net'.channel? name = none)
  /-- It is told of a channel, under the name that the channel is known by. -/
  | known (name : String) (h : l.channel = some name) (hkind : l.kind.isSaid = false)
      (hk : net'.KnownAs name)
  /-- It was said, and is told under the name that the line gives. -/
  | said (target : String) (ht : msg.arg 0 = some target) (hkind : l.kind.isSaid = true)
      (h : l.channel = some (Handling.bufferFor net (msg.sourceNick.getD "") target))

theorem Network.files_of_status {net net' : Network} {msg : Message} {l : HistoryLine}
    (h : l.channel = none) : net.Files msg net' l :=
  .aside (by simp [h])

/-- Whether something holds of each line of history that an outcome tells. -/
def Outcome.Told (P : HistoryLine → Prop) (o : Outcome) : Prop :=
  ∀ l, Write.line l ∈ o.writes → P l

namespace Outcome.Told

variable {P : HistoryLine → Prop}

theorem nothing {o : Outcome} (h : ∀ l, Write.line l ∉ o.writes) : o.Told P :=
  fun l hl => absurd hl (h l)

theorem append {a b : Outcome} (ha : a.Told P) (hb : b.Told P) : (a ++ b).Told P := by
  intro l hl
  rw [writes_append, List.mem_append] at hl
  rcases hl with hl | hl
  · exact ha l hl
  · exact hb l hl

theorem only {o : Outcome} (p : Bool) (h : o.Told P) : (Outcome.only p o).Told P := by
  cases p with
  | true => exact h
  | false => exact nothing (by simp)

theorem line {l : HistoryLine} (h : P l) : (Outcome.write (.line l)).Told P := by
  intro l' hl
  rw [writes_write, List.mem_singleton, Write.line.injEq] at hl
  rw [hl]
  exact h

end Outcome.Told

namespace Handling

open Outcome (Told)

variable {net : Network} (msg : Message)

/-! ## Lines about one channel -/

/-- A channel that is set under the name it goes by is known by that name. -/
theorem knownAs_setChannel (h : net.Keyed) {target : String} {c : Channel}
    (hname : c.name = (net.channelOrNew target).name) :
    (net.setChannel target c).KnownAs c.name := by
  refine ⟨c, ?_, rfl⟩
  rw [Network.channel?_setChannel, if_pos]
  rw [hname, h.fold_channelOrNew]

theorem told_join (h : net.Keyed) : (join net msg).2.Told (net.Files msg (join net msg).1) := by
  unfold join
  split
  · rename_i nick target _ _
    unfold enter
    dsimp only
    refine .append (.append (.append ?_ (.line (.known _ rfl rfl ?_))) ?_) ?_
    · exact .nothing (by simp)
    · exact knownAs_setChannel h rfl
    · exact .nothing (by simp)
    · exact .nothing (by simp [channelsChanged])
  · exact .nothing (by simp)

/-- Whoever leaves and however, it is told of the channel by its name. -/
theorem told_leave (h : net.Keyed) (nick target : String) {tell : String → Write}
    (announce : String → Event) {line : String → HistoryLine}
    (htell : ∀ name, tell name = .line (line name))
    (hline : ∀ name, (line name).channel = some name ∧ (line name).kind.isSaid = false) :
    (leave net nick target tell announce).2.Told
      (net.Files msg (leave net nick target tell announce).1) := by
  unfold leave
  split
  · exact .nothing (by simp)
  · rename_i c hc
    have hname : (leftChannel (net.isMe nick) nick c).name = c.name := by
      unfold leftChannel
      split <;> rfl
    have hknown : (net.setChannel target (leftChannel (net.isMe nick) nick c)).KnownAs c.name := by
      rw [← hname]
      exact knownAs_setChannel h (by rw [hname, Network.channelOrNew_of_known hc])
    rw [htell]
    refine .append (.append (.append ?_ (.line (.known _ (hline _).1 (hline _).2 hknown))) ?_) ?_
    · exact .nothing (by unfold leavingWrites; split <;> simp)
    · exact .nothing (by simp)
    · exact .nothing (by simp [channelsChanged])

theorem told_part (h : net.Keyed) : (part net msg).2.Told (net.Files msg (part net msg).1) := by
  unfold part
  split
  · exact told_leave msg h _ _ _ (fun _ => rfl) fun _ => ⟨rfl, rfl⟩
  · exact .nothing (by simp)

theorem told_kick (h : net.Keyed) : (kick net msg).2.Told (net.Files msg (kick net msg).1) := by
  unfold kick
  split
  · exact told_leave msg h _ _ _ (fun _ => rfl) fun _ => ⟨rfl, rfl⟩
  · exact .nothing (by simp)

theorem told_updateTopic (h : net.Keyed) (target topic : String) (setter : Option String) :
    (updateTopic net target topic setter).2.Told
      (net.Files msg (updateTopic net target topic setter).1) := by
  unfold updateTopic
  dsimp only
  refine .append (.append (.append ?_ ?_) ?_) ?_
  · exact .nothing (by simp)
  · exact .nothing (by simp)
  · intro l hl
    obtain ⟨who, -, hl⟩ := List.mem_map.mp hl
    rw [← Write.line.inj hl]
    exact .known _ rfl rfl (knownAs_setChannel h rfl)
  · exact .nothing (by simp)

theorem told_topic (h : net.Keyed) : (topic net msg).2.Told (net.Files msg (topic net msg).1) := by
  unfold topic
  split
  · exact .nothing (by simp)
  · exact told_updateTopic msg h _ _ _

theorem told_topicReply (h : net.Keyed) :
    (topicReply net msg).2.Told (net.Files msg (topicReply net msg).1) := by
  unfold topicReply
  split
  · exact told_updateTopic msg h _ _ _
  · exact .nothing (by simp)

theorem told_noTopic (h : net.Keyed) :
    (noTopic net msg).2.Told (net.Files msg (noTopic net msg).1) := by
  unfold noTopic
  split
  · exact .nothing (by simp)
  · exact told_updateTopic msg h _ _ _

theorem told_mode (h : net.Keyed) : (mode net msg).2.Told (net.Files msg (mode net msg).1) := by
  unfold mode
  split
  · rename_i target modes _ _
    split
    · exact .nothing (by simp)
    · have hread := ModeRun.tells_read net.support (net.channelOrNew target) (msg.args.drop 2) modes
      have hknown := knownAs_setChannel h hread.name
      rw [hread.name] at hknown
      dsimp only
      refine .append (.append (.append (.append ?_ ?_) ?_) (.line (.known _ rfl rfl hknown))) ?_
      · exact .nothing (by simp)
      · intro l hl
        obtain ⟨m, hm⟩ := hread.writes _ hl
        cases hm
      · exact .nothing (by simp)
      · exact .nothing (by simp)
  · exact .nothing (by simp)

theorem told_channelModeIs (net' : Network) :
    (channelModeIs net msg).2.Told (net.Files msg net') := by
  unfold channelModeIs
  split
  · exact .nothing (by simp)
  · exact .nothing (by simp)

theorem told_namesReply (net' : Network) : (namesReply net msg).2.Told (net.Files msg net') := by
  unfold namesReply
  split
  · exact .nothing (by simp)
  · exact .nothing (by simp)

theorem told_endOfNames (net' : Network) : (endOfNames net msg).2.Told (net.Files msg net') := by
  unfold endOfNames
  split
  · exact .nothing (by simp)
  · split
    · exact .nothing (by simp)
    · exact .nothing (by simp)

/-! ## Lines about all channels at once -/

/-- The channels that are visited are known by the names that they have. -/
theorem knownAs_of_mem_sortedChannels (h : net.Keyed) {c : Channel} (hc : c ∈ net.sortedChannels) :
    net.KnownAs c.name := by
  obtain ⟨k, hk⟩ := Table.mem_values_iff.mp (List.mem_mergeSort.mp hc)
  refine ⟨c, ?_, rfl⟩
  rw [Network.channel?, h.channels k c hk, hk]

/-- The same is told of some of the channels, each time under the name that the channel has. -/
theorem told_visited (h : net.Keyed) {net' : Network}
    (hkept : ∀ name, net.KnownAs name → net'.KnownAs name) (concerned : Channel → Bool)
    {kind : LineKind} (hkind : kind.isSaid = false) (text : String) (user : Option String) :
    (Outcome.writing ((sortNames ((net.sortedChannels.filter concerned).map (·.name))).map
      fun name => net.line kind text (some name) user)).Told (net.Files msg net') := by
  intro l hl
  obtain ⟨name, hname, hl⟩ := List.mem_map.mp hl
  obtain ⟨c, hc, rfl⟩ := List.mem_map.mp (List.mem_mergeSort.mp hname)
  rw [← Write.line.inj hl]
  exact .known _ rfl hkind (hkept _ (knownAs_of_mem_sortedChannels h (List.mem_filter.mp hc).1))

theorem told_quit (h : net.Keyed) : (quit net msg).2.Told (net.Files msg (quit net msg).1) := by
  have hkept : ∀ name, net.KnownAs name → (quit net msg).1.KnownAs name := fun _ hk =>
    hk.changes (changes_quit net msg)
  unfold quit quitVisiting at hkept ⊢
  split
  · exact .nothing (by simp)
  · rename_i nick hn
    rw [hn] at hkept
    refine .append (.append (.append ?_ (told_visited msg h hkept _ rfl _ _)) ?_) ?_
    · refine .nothing fun l hl => ?_
      obtain ⟨name, -, hl⟩ := List.mem_flatMap.mp hl
      unfold leavingWrites at hl
      split at hl <;> simp at hl
    · exact .nothing (by simp)
    · exact .nothing (by simp [channelsChanged])

theorem told_nick (h : net.Keyed) : (nick net msg).2.Told (net.Files msg (nick net msg).1) := by
  have hkept : ∀ name, net.KnownAs name → (nick net msg).1.KnownAs name := fun _ hk =>
    hk.changes (changes_nick net msg)
  unfold nick nickVisiting at hkept ⊢
  split
  · rename_i old new ho hn
    rw [ho, hn] at hkept
    refine .append (.append ?_ (told_visited msg h hkept _ rfl _ _)) ?_
    · exact .nothing (by simp)
    · exact .nothing (by simp)
  · exact .nothing (by simp)

/-! ## What the server reports -/

/-- A failure is told under the name of the channel that it is about, if that one is known. -/
theorem told_failure (h : net.Keyed) :
    (failure net msg).2.Told (net.Files msg (failure net msg).1) := by
  refine .append (.line ?_) (.nothing (by simp))
  show net.Files msg net _
  cases hfind : (subjects msg).find? net.support.isChannel with
  | none => exact Network.files_of_status rfl
  | some target =>
      cases hc : net.channel? target with
      | none =>
          refine .aside fun name hname => ?_
          have hname : knownName net target = name := Option.some.inj hname
          rw [← hname, knownName, hc]
          exact hc
      | some c =>
          refine .known c.name ?_ rfl ⟨c, ?_, rfl⟩
          · show some (knownName net target) = some c.name
            rw [knownName, hc]
            rfl
          · rw [net.channel?_congr (h.channels _ c hc), hc]

theorem told_nickRejected (net' : Network) :
    (nickRejected net msg).2.Told (net.Files msg net') := by
  unfold nickRejected
  dsimp only
  split
  · exact .append (.line (Network.files_of_status rfl)) (.nothing (by simp))
  · exact .nothing (by simp)

/-! ## What people say -/

theorem told_receive (net' : Network) {kind : LineKind} (hkind : kind.isSaid = true)
    {target : String} (ht : msg.arg 0 = some target) (text : String) :
    (receive net kind (msg.sourceNick.getD "") target text).Told (net.Files msg net') :=
  .append (.line (.said target ht hkind rfl)) (.nothing (by simp))

theorem told_privmsg (p : Persona) (net' : Network) :
    (privmsg p net msg).2.Told (net.Files msg net') := by
  unfold privmsg
  split
  · rename_i target text ht _
    dsimp only
    split
    · split
      · exact .only _ (told_receive msg net' rfl ht _)
      · refine .nothing ?_
        unfold answerQuery
        split <;> simp
    · exact .only _ (told_receive msg net' rfl ht _)
  · exact .nothing (by simp)

theorem told_notice (net' : Network) : (notice net msg).2.Told (net.Files msg net') := by
  unfold notice
  split
  · rename_i target text ht _
    dsimp only
    split
    · exact .append (.line (Network.files_of_status rfl)) (.nothing (by simp))
    · exact .only _ (told_receive msg net' rfl ht _)
  · exact .nothing (by simp)

/-! ## Users -/

theorem told_collect (f : Message → Whois → Whois) (net' : Network) :
    (collect f net msg).2.Told (net.Files msg net') := by
  unfold collect
  split <;> exact .nothing (by simp)

theorem told_away (net' : Network) : (away net msg).2.Told (net.Files msg net') := by
  unfold away
  split
  · exact .nothing (by simp)
  · split <;> exact .nothing (by simp)

theorem told_endOfWhois (net' : Network) : (endOfWhois net msg).2.Told (net.Files msg net') := by
  unfold endOfWhois
  split
  · exact .nothing (by simp)
  · split <;> exact .nothing (by simp)

end Handling

/-! ## Every line -/

open Handling in
theorem told_handler (p : Persona) (v : Verb) {net : Network} (h : net.Keyed) (msg : Message) :
    (v.handler p net msg).2.Told (net.Files msg (v.handler p net msg).1) := by
  cases v with
  | welcome | ping | announcement =>
      exact .nothing (by simp [Verb.handler, welcome, ping, announcement])
  | nickRejected => exact told_nickRejected msg _
  | error => exact .line (Network.files_of_status rfl)
  | namesReply => exact told_namesReply msg _
  | endOfNames => exact told_endOfNames msg _
  | join => exact told_join msg h
  | part => exact told_part msg h
  | kick => exact told_kick msg h
  | quit => exact told_quit msg h
  | nick => exact told_nick msg h
  | topic => exact told_topic msg h
  | topicReply => exact told_topicReply msg h
  | noTopic => exact told_noTopic msg h
  | mode => exact told_mode msg h
  | channelModeIs => exact told_channelModeIs msg _
  | whoisUser | whoisServer | whoisOperator | whoisIdle | whoisChannels | whoisAccount
  | whoisSecure => exact told_collect msg _ _
  | away => exact told_away msg _
  | endOfWhois => exact told_endOfWhois msg _
  | privmsg => exact told_privmsg msg p _
  | notice => exact told_notice msg _
  | failure => exact told_failure msg h

/-- Every line of history is told aside, or of a channel by its name, or was said. -/
theorem files_process (p : Persona) {net : Network} (h : net.Keyed) (msg : Message) :
    (process p net msg).2.Told (net.Files msg (process p net msg).1) := by
  unfold process
  split
  · exact .nothing (by simp)
  · exact told_handler p _ h msg

/-- What is not said is told of a channel by the name that the channel has. -/
theorem name_of_told (p : Persona) {net : Network} (h : net.Keyed) {msg : Message} {l : HistoryLine}
    (hl : Write.line l ∈ (process p net msg).2.writes) (hkind : l.kind.isSaid = false)
    {name : String} (hname : l.channel = some name) {c : Channel}
    (hc : (process p net msg).1.channel? name = some c) : name = c.name := by
  cases files_process p h msg l hl with
  | aside ha =>
      rw [ha name hname] at hc
      cases hc
  | known known hknown _ hk =>
      obtain rfl : known = name := Option.some.inj (hknown.symm.trans hname)
      obtain ⟨c', hc', hname'⟩ := hk
      rw [hc] at hc'
      rw [Option.some.inj hc', hname']
  | said target _ hsaid _ =>
      rw [hkind] at hsaid
      cases hsaid

/-- What is said goes to the buffer that its line names. -/
theorem buffer_of_said (p : Persona) {net : Network} (h : net.Keyed) {msg : Message}
    {l : HistoryLine} (hl : Write.line l ∈ (process p net msg).2.writes)
    (hkind : l.kind.isSaid = true) {name : String} (hname : l.channel = some name) {c : Channel}
    (hc : (process p net msg).1.channel? name = some c) :
    ∃ target, msg.arg 0 = some target ∧
      name = Handling.bufferFor net (msg.sourceNick.getD "") target := by
  cases files_process p h msg l hl with
  | aside ha =>
      rw [ha name hname] at hc
      cases hc
  | known _ _ hnot _ =>
      rw [hkind] at hnot
      cases hnot
  | said target ht _ hbuffer =>
      exact ⟨target, ht, Option.some.inj (hname.symm.trans hbuffer)⟩

/--
**The history of a channel is in one buffer, but for what people say.** A line of history that
names a known channel in any spelling has the name that the channel is known by, and so does
whatever is told of the channel later on, whatever happens in between. What people say goes to
the buffer that its line names, in the spelling that the line has.
-/
theorem one_buffer_unless_said (p : Persona) {net : Network} (hnet : net.Reachable)
    {msg : Message} {l : HistoryLine} (hl : Write.line l ∈ (process p net msg).2.writes)
    {name : String} (hname : l.channel = some name) {c : Channel}
    (hc : (process p net msg).1.channel? name = some c) :
    (l.kind.isSaid = false → name = c.name) ∧
    (l.kind.isSaid = true → ∃ target, msg.arg 0 = some target ∧
      name = Handling.bufferFor net (msg.sourceNick.getD "") target) ∧
    ∀ (steps : List Network.Step) (msg' : Message) (l' : HistoryLine) (name' : String),
      (∀ records, .seed records ∉ steps) →
      Write.line l' ∈ (process p ((process p net msg).1.run steps) msg').2.writes →
      l'.kind.isSaid = false → l'.channel = some name' → fold name' = fold name →
      name' = c.name := by
  have hkeyed : (process p net msg).1.Keyed := Network.keyed_process hnet.keyed p msg
  have hfold : fold c.name = fold name := hkeyed.channels _ c hc
  have hknown : (process p net msg).1.KnownAs c.name :=
    ⟨c, by rw [Network.channel?_congr _ hfold, hc], rfl⟩
  refine ⟨fun hkind => name_of_told p hnet.keyed hl hkind hname hc,
    fun hkind => buffer_of_said p hnet.keyed hl hkind hname hc, ?_⟩
  intro steps msg' l' name' hsteps hl' hkind' hname' hfold'
  obtain ⟨c', hc', hsame⟩ := (hknown.run steps hsteps).process p msg'
  rw [← hsame]
  refine name_of_told p (.run steps hkeyed) hl' hkind' hname' ?_
  rw [Network.channel?_congr _ (hfold'.trans hfold.symm), hc']

/-- A failure that names the channel in capitals is told under the name that the client knows. -/
theorem one_buffer_unless_said_capitals :
    let p : Persona := ⟨"1.0", "noon"⟩
    let net := (Network.new 1 "Libera" "ada").run
      [.line p ⟨[], some ⟨"ada", none, none⟩, "JOIN", ["#rust"]⟩]
    let msg : Message := ⟨[], some ⟨"srv", none, none⟩, "404", ["ada", "#RUST", "Cannot send"]⟩
    let l : HistoryLine := ⟨1, some "#rust", none, "Cannot send", .error⟩
    ∃ c, net.Reachable ∧ Write.line l ∈ (process p net msg).2.writes ∧
      l.channel = some "#rust" ∧ (process p net msg).1.channel? "#rust" = some c ∧
      (l.kind.isSaid = false → "#rust" = c.name) := by
  intro p net msg l
  have hnet : net.Reachable := .run _ (.new 1 "Libera" "ada")
  have hl : Write.line l ∈ (process p net msg).2.writes := by decide +kernel
  have hc : ((process p net msg).1.channel? "#rust").isSome = true := by decide +kernel
  obtain ⟨c, hc⟩ := Option.isSome_iff_exists.mp hc
  exact ⟨c, hnet, hl, rfl, hc, (one_buffer_unless_said p hnet hl rfl hc).1⟩

/-- What is said to the channel in capitals is told under a name that the client does not know. -/
theorem said_in_another_buffer :
    let p : Persona := ⟨"1.0", "noon"⟩
    let net := (Network.new 1 "Libera" "ada").run
      [.line p ⟨[], some ⟨"ada", none, none⟩, "JOIN", ["#rust"]⟩]
    let msg : Message := ⟨[], some ⟨"grace", none, none⟩, "PRIVMSG", ["#RUST", "hello"]⟩
    net.Reachable ∧
      Write.line ⟨1, some "#RUST", some "grace", "hello", .message⟩ ∈ (process p net msg).2.writes ∧
      net.support.isChannel "#RUST" = true ∧
      ((process p net msg).1.channel? "#RUST").map (·.name) = some "#rust" := by
  intro p net msg
  exact ⟨.run _ (.new 1 "Libera" "ada"), by decide +kernel, by decide +kernel, by decide +kernel⟩

end IrcClient
