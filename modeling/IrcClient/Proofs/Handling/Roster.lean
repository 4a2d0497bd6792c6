import IrcClient.Proofs.Handling.Hearing
import IrcClient.Proofs.Handling.Locality
import IrcClient.Proofs.Network.Channels
import IrcClient.Proofs.Network.Naming

/-!
# The list of members, part by part

The server lists the members of a channel in as many parts as it likes, and other lines may come
between them. The first part starts the list afresh and the next ones add to it
(`addListed_of_idle`, `addListed_listing`), so at any moment of a round the members are those that
the parts so far have listed (`Underway`). Lines that have nothing to do with the channel leave it
alone, which is what `local_process` says of them.

In the end the members are a matter of the tokens alone, and not of the parts that they came in
(`names_round`).
-/

namespace IrcClient

/-! ## Lines -/

/-- Whether a line is a part of the list of the members of a channel. -/
def Message.lists (target : String) (msg : Message) : Bool :=
  msg.command == "353" && msg.listed?.any (sameName target)

/-- Whether a line says that the list of the members of a channel is complete. -/
def Message.EndsList (target : String) (msg : Message) : Prop :=
  msg.command = "366" ∧ ∃ t, msg.arg 1 = some t ∧ fold t = fold target

/-- Whether a line has nothing to do with a channel: it is talk, or about another channel. -/
def Message.PassesBy (target : String) (msg : Message) : Prop :=
  (msg.command = "PRIVMSG" ∨ msg.command = "NOTICE") ∨
    msg.command ∈ channelCommands ∧ ∀ t ∈ msg.channel?, fold t ≠ fold target

/-- The tokens of a part of a list. -/
def Message.nameTokens (msg : Message) : List String :=
  (asciiWords (msg.lastArg.getD "").toList).map String.ofList

/-- The member that a token stands for. A token without a nickname stands for none. -/
def Support.memberOf? (s : Support) (token : String) : Option Member :=
  let (modes, nick) := s.splitNamesToken token
  if nick.isEmpty then none else some ⟨nick, modes⟩

/-- The tokens of the list of the members of a channel, in the lines that are parts of it. -/
def tokensOf (target : String) (lines : List Message) : List String :=
  (lines.filter (·.lists target)).flatMap (·.nameTokens)

/-! ## A channel while its members are listed -/

open StoredChannel (membersOf)

namespace Channel

/-- A channel while its members are listed, and these are known so far. -/
def listing (c : Channel) (members : List Member) : Channel :=
  { c with members := membersOf members, refreshing := true }

/-- A channel once its members have been listed. -/
def listed (c : Channel) (members : List Member) : Channel :=
  { c with members := membersOf members, refreshing := false }

theorem endRefresh_listing (c : Channel) (members : List Member) :
    (c.listing members).endRefresh = c.listed members :=
  rfl

theorem addListed_of_refreshing {c : Channel} (h : c.refreshing = true) (members : List Member) :
    Handling.addListed c members =
      { c with members := c.members.insertAll (members.map fun m => (fold m.nick, m)) } := by
  rw [Handling.addListed, beginRefresh, if_pos h, foldl_upsertMember]

/-- The first part starts the list afresh. -/
theorem addListed_of_idle {c : Channel} (h : c.refreshing = false) (members : List Member) :
    Handling.addListed c members = c.listing members := by
  have hbegin : c.beginRefresh =
      ({ c.clearMembers with refreshing := true } : Channel).beginRefresh := by
    rw [beginRefresh, beginRefresh, if_neg (by simp [h]), if_pos rfl]
  rw [Handling.addListed, hbegin]
  exact addListed_of_refreshing (c := { c.clearMembers with refreshing := true }) rfl members

/-- The next parts leave it alone. -/
theorem addListed_listing (c : Channel) (a b : List Member) :
    Handling.addListed (c.listing a) b = c.listing (a ++ b) := by
  rw [addListed_of_refreshing rfl, listing, listing, insertAll_membersOf]

end Channel

/-! ## One line -/

variable {p : Persona} {net : Network} {target : String} {msg : Message}

/-- A part of a list names the channel next to last, and the tokens behind it. -/
theorem args_of_lists (h : msg.lists target = true) : msg.command = "353" ∧
    ∃ names t symbol rest, msg.args.reverse = names :: t :: symbol :: rest ∧
      fold t = fold target := by
  obtain ⟨hcommand, hlisted⟩ := Bool.and_eq_true_iff.mp h
  refine ⟨beq_iff_eq.mp hcommand, ?_⟩
  unfold Message.listed? at hlisted
  split at hlisted
  · rename_i names t symbol rest hargs
    exact ⟨names, t, symbol, rest, hargs, (sameName_iff.mp hlisted).symm⟩
  · cases hlisted

theorem process_of_lists (p : Persona) (net : Network) (h : msg.lists target = true) :
    ∃ t, fold t = fold target ∧ (process p net msg).1 = net.setChannel target
      (Handling.addListed (net.channelOrNew t)
        (msg.nameTokens.filterMap net.support.memberOf?)) := by
  obtain ⟨hcommand, names, t, symbol, rest, hargs, hfold⟩ := args_of_lists h
  have hverb : Verb.ofCommand? msg.command = some .namesReply := by rw [hcommand]; rfl
  have hlast : msg.lastArg = some names := by
    rw [Message.lastArg, ← List.head?_reverse, hargs, List.head?_cons]
  have hmembers : Handling.listedMembers net.support names =
      msg.nameTokens.filterMap net.support.memberOf? := by
    rw [Handling.listedMembers, Message.nameTokens, hlast, Option.getD_some, List.filterMap_map]
    simp only [Function.comp_def, Support.memberOf?]
  refine ⟨t, hfold, ?_⟩
  rw [process_of_ofCommand? hverb, Verb.handler, Handling.namesReply, ← hmembers,
    ← net.setChannel_congr hfold, hargs]

theorem process_of_endsList (h : msg.EndsList target) {c : Channel}
    (hc : net.channel? target = some c) :
    process p net msg = (net.setChannel target c.endRefresh,
      .write (.replaceMembers c.name c.sortedMembers) ++
        .emit (((net.event "channel.names.complete").setText "channel" c.name).set "count"
          (.int c.sortedMembers.length))) := by
  obtain ⟨hcommand, t, ht, hfold⟩ := h
  have hverb : Verb.ofCommand? msg.command = some .endOfNames := by rw [hcommand]; rfl
  have hct : net.channel? t = some c := (net.channel?_congr hfold).trans hc
  rw [process_of_ofCommand? hverb, Verb.handler, Handling.endOfNames, ht]
  dsimp only
  rw [hct, Channel.length_sortedMembers, ← net.setChannel_congr hfold]

/-- Talk changes nothing of what is known. -/
theorem network_talk (p : Persona) (net : Network)
    (h : msg.command = "PRIVMSG" ∨ msg.command = "NOTICE") : (process p net msg).1 = net := by
  rcases h with h | h
  · have hverb : Verb.ofCommand? msg.command = some .privmsg := by rw [h]; rfl
    rw [process_of_ofCommand? hverb, Verb.handler, Handling.privmsg]
    split <;> rfl
  · have hverb : Verb.ofCommand? msg.command = some .notice := by rw [h]; rfl
    rw [process_of_ofCommand? hverb, Verb.handler, Handling.notice]
    split <;> rfl

/-- What passes a channel by leaves it alone, and all that is not a channel. -/
theorem sameAt_process (p : Persona) (net : Network) (h : msg.PassesBy target) :
    SameAt (fold target = ·) net (process p net msg).1 := by
  rcases h with h | ⟨hcommand, hother⟩
  · rw [network_talk p net h]
    exact .refl _ net
  · have hframe := (local_process p hcommand).frame net
    refine ⟨hframe.rest, fun k hk => hframe.channels k ?_⟩
    rintro ⟨t, ht, hfold⟩
    exact hother t ht (hfold.trans hk.symm)

/-! ## Several lines -/

/-- The members that lines list of a channel. -/
def listedIn (s : Support) (target : String) (lines : List Message) : List Member :=
  (tokensOf target lines).filterMap s.memberOf?

theorem listedIn_cons_of_lists (s : Support) (h : msg.lists target = true)
    (lines : List Message) : listedIn s target (msg :: lines) =
      msg.nameTokens.filterMap s.memberOf? ++ listedIn s target lines := by
  rw [listedIn, tokensOf, List.filter_cons_of_pos h, List.flatMap_cons, List.filterMap_append]
  rfl

theorem listedIn_cons_of_not_lists (s : Support) (h : msg.lists target = false)
    (lines : List Message) : listedIn s target (msg :: lines) = listedIn s target lines := by
  rw [listedIn, tokensOf, List.filter_cons_of_neg (by simp [h])]
  rfl

/-- How far the list of a channel has come that was `c` when the list was begun. -/
structure Underway (s : Support) (c : Channel) (target : String) (members : List Member)
    (net : Network) : Prop where
  support : net.support = s
  channel : net.channel? target = some (c.listing members)

namespace Underway

variable {s : Support} {c : Channel} {members : List Member}

/-- One more part. -/
theorem part (h : Underway s c target members net) (hmsg : msg.lists target = true) :
    Underway s c target (members ++ msg.nameTokens.filterMap s.memberOf?)
      (process p net msg).1 := by
  obtain ⟨t, hfold, hprocess⟩ := process_of_lists p net hmsg
  have hknown : net.channelOrNew t = c.listing members :=
    Network.channelOrNew_of_spelling h.channel hfold
  rw [hknown, Channel.addListed_listing, h.support] at hprocess
  rw [hprocess]
  exact ⟨h.support, net.channel?_setChannel_self target _⟩

theorem passed (h : Underway s c target members net) (hmsg : msg.PassesBy target) :
    Underway s c target members (process p net msg).1 := by
  have hsame := sameAt_process p net hmsg
  exact ⟨by rw [hsame.rest]; exact h.support, (hsame.channel? rfl).trans h.channel⟩

/-- The list goes on with each of its parts, and with nothing else. -/
theorem run : ∀ {lines : List Message} {net : Network} {members : List Member},
    Underway s c target members net →
    (∀ msg ∈ lines, msg.lists target = true ∨ msg.PassesBy target) →
      Underway s c target (members ++ listedIn s target lines) (net.run (lines.map (.line p)))
  | [], _, members, h, _ => by
      have hnil : members ++ listedIn s target [] = members := List.append_nil members
      rw [hnil]
      exact h
  | msg :: lines, net, members, h, hlines => by
      have hrest : ∀ msg ∈ lines, msg.lists target = true ∨ msg.PassesBy target :=
        fun msg hmsg => hlines msg (List.mem_cons_of_mem _ hmsg)
      show Underway s c target _ ((process p net msg).1.run (lines.map (.line p)))
      cases hmsg : msg.lists target with
      | true =>
          rw [listedIn_cons_of_lists s hmsg, ← List.append_assoc]
          exact run (h.part hmsg) hrest
      | false =>
          rw [listedIn_cons_of_not_lists s hmsg]
          have hpasses := (hlines msg List.mem_cons_self).resolve_left (by simp [hmsg])
          exact run (h.passed hpasses) hrest

end Underway

/-! ## A round -/

theorem process_first_part (hidle : ∀ c ∈ net.channel? target, c.refreshing = false)
    (hmsg : msg.lists target = true) :
    ∃ t, fold t = fold target ∧ (process p net msg).1 = net.setChannel target
      ((net.channelOrNew t).listing (msg.nameTokens.filterMap net.support.memberOf?)) := by
  obtain ⟨t, hfold, hprocess⟩ := process_of_lists p net hmsg
  have hidle : (net.channelOrNew t).refreshing = false := by
    rw [Network.channelOrNew, net.channel?_congr hfold]
    cases hc : net.channel? target with
    | none => rfl
    | some c => exact hidle c hc
  rw [Channel.addListed_of_idle hidle] at hprocess
  exact ⟨t, hfold, hprocess⟩

/-- Up to the first part nothing happens, and from there on the list is under way. -/
theorem underway_run : ∀ (net : Network) {lines : List Message},
    (∀ c ∈ net.channel? target, c.refreshing = false) →
    (∀ msg ∈ lines, msg.lists target = true ∨ msg.PassesBy target) →
    (∃ msg ∈ lines, msg.lists target = true) →
      ∃ t, fold t = fold target ∧ Underway net.support (net.channelOrNew t) target
        (listedIn net.support target lines) (net.run (lines.map (.line p)))
  | _, [], _, _, hbegun => by
      obtain ⟨msg, hmsg, -⟩ := hbegun
      cases hmsg
  | net, msg :: lines, hidle, hlines, hbegun => by
      have hrest : ∀ msg ∈ lines, msg.lists target = true ∨ msg.PassesBy target :=
        fun msg hmsg => hlines msg (List.mem_cons_of_mem _ hmsg)
      show ∃ t, _ ∧ Underway _ _ target _ ((process p net msg).1.run (lines.map (.line p)))
      cases hmsg : msg.lists target with
      | true =>
          obtain ⟨t, hfold, hprocess⟩ := process_first_part (p := p) hidle hmsg
          rw [listedIn_cons_of_lists _ hmsg, hprocess]
          exact ⟨t, hfold, .run ⟨rfl, net.channel?_setChannel_self target _⟩ hrest⟩
      | false =>
          rw [listedIn_cons_of_not_lists _ hmsg]
          have hpasses := (hlines msg List.mem_cons_self).resolve_left (by simp [hmsg])
          -- the line leaves the channel and what the server supports as they are
          have hsame := sameAt_process p net hpasses
          have hchannel : (process p net msg).1.channel? target = net.channel? target :=
            hsame.channel? rfl
          have hsupport : (process p net msg).1.support = net.support := by rw [hsame.rest]
          obtain ⟨t, hfold, hunderway⟩ := underway_run (process p net msg).1
            (by rw [hchannel]; exact hidle) hrest (by
              obtain ⟨msg', hmem, hlists⟩ := hbegun
              rcases List.mem_cons.mp hmem with rfl | hmem
              · rw [hmsg] at hlists
                cases hlists
              · exact ⟨msg', hmem, hlists⟩)
          have hnew : (process p net msg).1.channelOrNew t = net.channelOrNew t := by
            rw [Network.channelOrNew, Network.channelOrNew, Network.channel?_congr _ hfold,
              hchannel, net.channel?_congr hfold]
          rw [hsupport, hnew] at hunderway
          exact ⟨t, hfold, hunderway⟩

/-- Nothing but the channel is touched by the parts of its list. -/
theorem run_parts {c : Channel} : ∀ {lines : List Message} {net : Network}
    {members : List Member},
    net.channel? target = some (c.listing members) →
    (∀ msg ∈ lines, msg.lists target = true) →
      net.run (lines.map (.line p)) =
        net.setChannel target (c.listing (members ++ listedIn net.support target lines))
  | [], net, members, hc, _ => by
      have hnil : members ++ listedIn net.support target [] = members := List.append_nil members
      rw [hnil, Network.setChannel_of_channel? hc]
      rfl
  | msg :: lines, net, members, hc, hlines => by
      have hmsg := hlines msg List.mem_cons_self
      obtain ⟨t, hfold, hprocess⟩ := process_of_lists p net hmsg
      have hknown : net.channelOrNew t = c.listing members :=
        Network.channelOrNew_of_spelling hc hfold
      rw [hknown, Channel.addListed_listing] at hprocess
      show (process p net msg).1.run (lines.map (.line p)) = _
      rw [hprocess, run_parts (net.channel?_setChannel_self target _)
        fun msg hmsg => hlines msg (List.mem_cons_of_mem _ hmsg), Network.setChannel_setChannel,
        listedIn_cons_of_lists _ hmsg, ← List.append_assoc]
      rfl

/-- A round of the list of the members of a channel: at least one part of it, and its end. In
between there may be any lines that have nothing to do with the channel. -/
structure NamesRound (target : String) (lines : List Message) (last : Message)
    (tokens : List String) : Prop where
  each : ∀ msg ∈ lines, msg.lists target = true ∨ msg.PassesBy target
  begun : ∃ msg ∈ lines, msg.lists target = true
  ended : last.EndsList target
  /-- All that is listed, however it comes in parts. -/
  tokens : tokensOf target lines = tokens

theorem tokensOf_filter (target : String) (lines : List Message) :
    tokensOf target (lines.filter (·.lists target)) = tokensOf target lines := by
  rw [tokensOf, List.filter_filter]
  simp only [Bool.and_self]
  rfl

/-- A round that lists the same members as the last one changes nothing. -/
theorem run_round_again {c : Channel} {members : List Member} {lines : List Message}
    {last : Message} (hc : net.channel? target = some (c.listed members))
    (hlines : ∀ msg ∈ lines, msg.lists target = true) (hbegun : lines ≠ [])
    (hlast : last.EndsList target) (hmembers : listedIn net.support target lines = members) :
    net.run ((lines ++ [last]).map (.line p)) = net := by
  cases lines with
  | nil => exact absurd rfl hbegun
  | cons msg lines =>
      have hmsg := hlines msg List.mem_cons_self
      -- the list of the last round is closed, so that the first part begins a new one
      have hidle : ∀ c ∈ net.channel? target, c.refreshing = false := by
        rw [hc]
        rintro c' ⟨⟩
        rfl
      obtain ⟨t, hfold, hprocess⟩ := process_first_part (p := p) hidle hmsg
      have hknown : net.channelOrNew t = c.listed members :=
        Network.channelOrNew_of_spelling hc hfold
      have hparts : net.run ((msg :: lines).map (.line p)) =
          net.setChannel target (c.listing members) := by
        show (process p net msg).1.run (lines.map (.line p)) = _
        rw [hprocess, hknown, run_parts (net.channel?_setChannel_self target _)
          fun msg hmsg => hlines msg (List.mem_cons_of_mem _ hmsg), Network.setChannel_setChannel,
          ← hmembers, listedIn_cons_of_lists _ hmsg]
        rfl
      rw [List.map_append, Network.run, List.foldl_append]
      show (process p (net.run ((msg :: lines).map (.line p))) last).1 = net
      rw [hparts, process_of_endsList hlast (net.channel?_setChannel_self target _)]
      show Network.setChannel _ target (c.listed members) = net
      rw [Network.setChannel_setChannel, Network.setChannel_of_channel? hc]

/-- What a round comes to that lists some members of a channel. -/
structure Relisted (net : Network) (target : String) (members : List Member)
    (after : Network × Outcome) (c : Channel) : Prop where
  known : after.1.channel? target = some c
  named : fold c.name = fold target
  /-- The channel is as it was, but for its members. -/
  channel : c = { net.channelOrNew c.name with members := membersOf members, refreshing := false }
  /-- Those are members who were listed, as they were listed last. -/
  members : ∀ k, c.members.get? k = (members.filter (fold ·.nick = k)).getLast?
  /-- The list goes to the store, and its size is announced. -/
  outcome : after.2 = .write (.replaceMembers c.name c.sortedMembers) ++
    .emit (((after.1.event "channel.names.complete").setText "channel" c.name).set "count"
      (.int c.sortedMembers.length))
  stored : membersOf c.sortedMembers = c.members

theorem Underway.relisted {c : Channel} {members : List Member} {before : Network}
    {last : Message} (h : Underway net.support c target members before)
    (hlast : last.EndsList target) (hname : fold c.name = fold target)
    (hsame : net.channelOrNew c.name = c) :
    Relisted net target members (process p before last) (c.listed members) := by
  rw [process_of_endsList hlast h.channel]
  refine ⟨?_, hname, ?_, get?_membersOf members, rfl,
    Channel.membersOf_sortedMembers (membersOf_keyed members)⟩
  · rw [Network.channel?_setChannel_self, Channel.endRefresh_listing]
  · show _ = { net.channelOrNew c.name with members := membersOf members, refreshing := false }
    rw [hsame]
    rfl

/--
**A round lists the members of a channel, and no others.** However the tokens come in parts, and
whatever is said in between or happens elsewhere: in the end the members are those that the tokens
stand for, and to hear the round again changes nothing.
-/
theorem names_round (p : Persona) {net : Network} (hnet : net.Reachable) {target : String}
    (hidle : ∀ c ∈ net.channel? target, c.refreshing = false) {lines : List Message}
    {last : Message} {tokens : List String} (hround : NamesRound target lines last tokens) :
    let after := process p (net.run (lines.map (.line p))) last
    (∃ c, Relisted net target (tokens.filterMap net.support.memberOf?) after c) ∧
      after.1.run ((lines.filter (·.lists target) ++ [last]).map (.line p)) = after.1 := by
  intro after
  obtain ⟨t, hfold, hunderway⟩ := underway_run (p := p) net hidle hround.each hround.begun
  rw [listedIn, hround.tokens] at hunderway
  have hrelisted := hunderway.relisted (p := p) hround.ended
    ((hnet.keyed.fold_channelOrNew t).trans hfold) (hnet.keyed.channelOrNew_name t)
  refine ⟨⟨_, hrelisted⟩, ?_⟩
  have hsupport : after.1.support = net.support := by
    show (process p _ last).1.support = _
    rw [process_of_endsList hround.ended hunderway.channel]
    exact hunderway.support
  refine run_round_again hrelisted.known (fun msg hmsg => (List.mem_filter.mp hmsg).2) ?_
    hround.ended ?_
  · obtain ⟨msg, hmem, hlists⟩ := hround.begun
    exact List.ne_nil_of_mem (List.mem_filter.mpr ⟨hmem, hlists⟩)
  · rw [hsupport, listedIn, tokensOf_filter, hround.tokens]

/-- The members of a channel are listed in two parts, one of them a spelling of the channel that was
not heard before. In between someone says something there, and others are listed elsewhere. -/
theorem names_round_interleaved :
    let p : Persona := ⟨"1.0", "noon"⟩
    let entered : Message := ⟨[], some ⟨"kestrel", none, none⟩, "JOIN", ["#lean"]⟩
    let net := (Network.new 1 "Libera" "kestrel").run [.line p entered]
    let lines : List Message := [
      ⟨[], none, "353", ["kestrel", "=", "#lean", "@+ada!ada@host kestrel grace"]⟩,
      ⟨[], some ⟨"ada", none, none⟩, "PRIVMSG", ["#lean", "hello"]⟩,
      ⟨[], none, "353", ["kestrel", "=", "#lean4", "ada"]⟩,
      ⟨[], none, "353", ["kestrel", "=", "#Lean", "+Grace @"]⟩]
    let last : Message := ⟨[], none, "366", ["kestrel", "#LEAN", "End of /NAMES list"]⟩
    let tokens := ["@+ada!ada@host", "kestrel", "grace", "+Grace", "@"]
    let after := process p (net.run (lines.map (.line p))) last
    net.Reachable ∧ (∀ c ∈ net.channel? "#lean", c.refreshing = false) ∧
    NamesRound "#lean" lines last tokens ∧
    (∃ c, Relisted net "#lean" (tokens.filterMap net.support.memberOf?) after c) ∧
      after.1.run ((lines.filter (·.lists "#lean") ++ [last]).map (.line p)) = after.1 := by
  intro p entered net lines last tokens
  have hnet : net.Reachable := .run _ (.new 1 "Libera" "kestrel")
  have hidle : ∀ c ∈ net.channel? "#lean", c.refreshing = false := by decide +kernel
  have hround : NamesRound "#lean" lines last tokens := by
    refine ⟨fun msg hmsg => ?_, ⟨_, List.mem_cons_self, by decide +kernel⟩,
      ⟨rfl, "#LEAN", rfl, by decide +kernel⟩, by decide +kernel⟩
    simp only [lines, List.mem_cons, List.not_mem_nil, or_false] at hmsg
    rcases hmsg with rfl | rfl | rfl | rfl
    · exact .inl (by decide +kernel)
    · exact .inr (.inl (.inl rfl))
    · refine .inr (.inr ⟨by decide, ?_⟩)
      rintro t ⟨⟩
      decide +kernel
    · exact .inl (by decide +kernel)
  exact ⟨hnet, hidle, hround, names_round p hnet hidle hround⟩

end IrcClient
