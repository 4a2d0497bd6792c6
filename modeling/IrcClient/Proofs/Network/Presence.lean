import IrcClient.Proofs.Network.Naming

/-!
# An open channel lists the client

The client's nickname and the members of a channel are changed by different handlers: a NICK
changes both, a welcome the one, a list of members the other. Still the client is always among
the members of a channel that it is in (`open_channel_lists_me`), except while the server is
listing them.

What the server owes is said of each line as it comes (`Network.Admits`): it does not end a list
without having named the client, and gives it no nickname outside of a NICK while it is in a
channel. Nothing is asked of the other users, who may come and go and take any nickname, the
client's included.
-/

namespace IrcClient

/-! ## Who is in a channel -/

namespace Channel

variable {c c' : Channel} {me nick old new : String}

theorem hasMember_upsertMember (c : Channel) (m : Member) (nick : String) :
    (c.upsertMember m).hasMember nick = (sameName m.nick nick || c.hasMember nick) := by
  rw [hasMember, member?, upsertMember, Table.get?_insert]
  by_cases h : fold m.nick = fold nick
  · simp [sameName, h]
  · simp [sameName, h, hasMember, member?]

theorem hasMember_removeMember (c : Channel) (gone nick : String) :
    (c.removeMember gone).hasMember nick = (!sameName gone nick && c.hasMember nick) := by
  rw [hasMember, member?, removeMember, Table.get?_erase]
  by_cases h : fold gone = fold nick
  · simp [sameName, h]
  · simp [sameName, h, hasMember, member?]

theorem renameMember_of_hasMember (h : c.hasMember old = true) (new nick : String) :
    (c.renameMember old new).hasMember nick =
      (sameName new nick || (!sameName old nick && c.hasMember nick)) := by
  obtain ⟨m, hm⟩ := Option.isSome_iff_exists.mp h
  have he : c.renameMember old new = (c.removeMember old).upsertMember { m with nick := new } := by
    rw [renameMember, hm]
  rw [he, hasMember_upsertMember, hasMember_removeMember]

theorem renameMember_of_not_hasMember (h : c.hasMember old = false) (new : String) :
    c.renameMember old new = c := by
  have hm : c.member? old = none := Option.isNone_iff_eq_none.mp (by simpa [hasMember] using h)
  rw [renameMember, hm]

theorem hasMember_of_sameName (h : sameName me nick = true) :
    c.hasMember nick = c.hasMember me := by
  rw [hasMember, member?, ← sameName_iff.mp h, hasMember, member?]

/-- Whether a nickname is in the channel, unless the channel is closed or being listed. -/
def Lists (c : Channel) (me : String) : Prop :=
  c.isOpen = true → c.refreshing = false → c.hasMember me = true

theorem lists_of_closed (h : c.isOpen = false) : c.Lists me := by
  intro ho
  rw [h] at ho
  cases ho

theorem lists_of_refreshing (h : c.refreshing = true) : c.Lists me := by
  intro _ hr
  rw [h] at hr
  cases hr

/-- Whoever else goes, the client stays. -/
theorem Lists.removeMember (h : c.Lists me) (hne : sameName me nick = false) :
    (c.removeMember nick).Lists me := by
  intro ho hr
  rw [hasMember_removeMember, sameName_comm, hne, h ho hr]
  rfl

theorem Lists.edited {v : Verb} (h : c.Lists me) (he : Edited me c v c') : c'.Lists me := by
  cases he with
  | entered nick =>
      intro ho hr
      show (c.upsertMember (c.joinedMember nick)).hasMember me = true
      rw [hasMember_upsertMember, Bool.or_eq_true]
      -- the channel was open before, or it is the client that comes in
      rcases (Bool.or_eq_true _ _).mp ho with ho | hme
      · exact .inr (h ho hr)
      · exact .inl ((sameName_comm nick me).trans hme)
  | left v hv nick =>
      unfold Handling.leftChannel
      split
      · exact lists_of_closed rfl
      · rename_i hme
        exact h.removeMember (Bool.eq_false_iff.mpr hme)
  | topic v hv topic => exact h
  | modes v hv modes members hs =>
      intro ho hr
      have hm : c.hasMember me = true := h ho hr
      have hk := hs (fold me)
      obtain ⟨m, hm⟩ := Option.isSome_iff_exists.mp hm
      have hm : c.members.get? (fold me) = some m := hm
      rw [hm] at hk
      obtain ⟨m', hm', -⟩ := Option.map_eq_some_iff.mp hk
      exact Option.isSome_iff_exists.mpr ⟨m', hm'⟩
  | listed members =>
      obtain ⟨t, ht⟩ := addListed_eq c members
      rw [ht]
      exact lists_of_refreshing rfl

/-- A change of nicknames takes the client along where it is the client's own. -/
theorem Lists.renamed (h : c.Lists me) (old new : String) :
    (c.renameMember old new).Lists (if sameName me old then new else me) := by
  intro ho hr
  rw [renameMember_eq] at ho hr
  have hme : c.hasMember me = true := h ho hr
  by_cases hown : sameName me old = true
  · have hold : c.hasMember old = true := by
      rw [hasMember_of_sameName hown]
      exact hme
    rw [if_pos hown, renameMember_of_hasMember hold, sameName_iff.mpr rfl]
    rfl
  · rw [if_neg hown]
    cases hold : c.hasMember old with
    | false =>
        rw [renameMember_of_not_hasMember hold]
        exact hme
    | true =>
        have hne : sameName old me = false := by
          rw [sameName_comm]
          exact Bool.eq_false_iff.mpr hown
        rw [renameMember_of_hasMember hold, hne, hme]
        exact Bool.or_true _

end Channel

/-! ## What the server owes -/

namespace Network

/-- Whether a line is one that a server sends while so much is known of the network. -/
structure Admits (net : Network) (msg : Message) : Prop where
  /-- The list of an open channel ends when the client has been named. -/
  complete : msg.command = "366" → ∀ target ∈ msg.arg 1, ∀ c ∈ net.channel? target,
    c.isOpen = true → c.hasMember net.nickname = true
  /-- While a channel is open, the client keeps its nickname, or changes it by a NICK. -/
  settled : msg.command ∈ ["001", "432", "433"] → ∀ c ∈ net.channels.values, c.isOpen = false

instance (net : Network) (msg : Message) : Decidable (net.Admits msg) :=
  decidable_of_iff
    ((msg.command = "366" → ∀ target ∈ msg.arg 1, ∀ c ∈ net.channel? target,
      c.isOpen = true → c.hasMember net.nickname = true) ∧
    (msg.command ∈ ["001", "432", "433"] → ∀ c ∈ net.channels.values, c.isOpen = false))
    ⟨fun h => ⟨h.1, h.2⟩, fun h => ⟨h.1, h.2⟩⟩

/-- Whether a step, if it is a line, is one that a server sends. -/
def Allows (net : Network) : Step → Prop
  | .line _ msg => net.Admits msg
  | .seed _ | .mark .. => True

/-- Whether each line of some steps is one that a server sends when it comes. -/
def Orderly : Network → List Step → Prop
  | _, [] => True
  | net, step :: steps => net.Allows step ∧ Orderly (net.step step) steps

instance (net : Network) : ∀ step, Decidable (net.Allows step)
  | .line _ msg => inferInstanceAs (Decidable (net.Admits msg))
  | .seed _ | .mark .. => .isTrue trivial

instance decidableOrderly : ∀ (net : Network) steps, Decidable (net.Orderly steps)
  | _, [] => .isTrue trivial
  | net, step :: steps =>
    have := decidableOrderly (net.step step) steps
    inferInstanceAs (Decidable (net.Allows step ∧ (net.step step).Orderly steps))

/-! ## What every line keeps -/

/-- Whether the client is among the members of every channel that it is in. -/
def Present (net : Network) : Prop :=
  net.Each (·.Lists net.nickname)

namespace Present

variable {net : Network}

theorem setChannel (h : net.Present) {c : Channel} (hc : c.Lists net.nickname)
    (target : String) : (net.setChannel target c).Present :=
  Each.setChannel h hc target

theorem channelOrNew (h : net.Present) (target : String) :
    (net.channelOrNew target).Lists net.nickname :=
  Each.channelOrNew h (fun _ => Channel.lists_of_closed rfl) target

/-- Where no channel is open, the client may take any nickname. -/
theorem of_closed (h : ∀ c ∈ net.channels.values, c.isOpen = false) : net.Present :=
  fun k c hk => Channel.lists_of_closed (h c (Table.mem_values_iff.mpr ⟨k, hk⟩))

theorem seed (h : net.Present) (records : List ChannelRecord) : (net.seed records).Present :=
  seed_induction (fun _ _ h => h.setChannel (Channel.lists_of_closed rfl) _) records h

theorem mark (h : net.Present) (channel : String) (autoJoin : Bool) :
    (net.mark channel autoJoin).Present := by
  have hc : ({ net.channelOrNew channel with autoJoin } : Channel).Lists net.nickname :=
    h.channelOrNew channel
  exact h.setChannel hc channel

end Present

/-- **Whatever a line changes, the client stays in the channels that it is in.** -/
theorem present_changes {net net' : Network} {msg : Message} {v : Verb} (h : net.Present)
    (ha : net.Admits msg) (hv : Verb.ofCommand? msg.command = some v)
    (hc : net.Changes msg v net') : net'.Present := by
  cases hc with
  | nothing v => exact h
  | welcomed =>
      have hcommand : msg.command = "001" := List.mem_singleton.mp (Verb.mem_commands hv)
      exact .of_closed (ha.settled (by simp [hcommand]))
  | rejected _ =>
      have hcommand : msg.command ∈ ["432", "433"] := Verb.mem_commands hv
      exact .of_closed (ha.settled (List.mem_cons_of_mem _ hcommand))
  | announced _ | collected _ _ _ _ _ | collectionEnded _ => exact h
  | edited v target c he => exact h.setChannel ((h.channelOrNew target).edited he) target
  | listEnded target c ht hc =>
      refine h.setChannel (fun ho _ => ?_) target
      -- the list that ends here is complete, and the client is on it
      have hcommand : msg.command = "366" := List.mem_singleton.mp (Verb.mem_commands hv)
      exact ha.complete hcommand target ht c hc ho
  | quit nick hn =>
      refine Each.mapChannels h fun c hc => ?_
      unfold Handling.quitChannel
      split
      · -- the client itself leaves all channels, and they are closed
        split
        · exact Channel.lists_of_closed rfl
        · exact hc
      · rename_i hme
        exact hc.removeMember (Bool.eq_false_iff.mpr hme)
  | renamed old new ho hn => exact Each.mapChannels h fun c hc => hc.renamed old new

theorem present_step {net : Network} (h : net.Present) {step : Step} (ha : net.Allows step) :
    (net.step step).Present := by
  cases step with
  | seed records => exact h.seed records
  | mark channel autoJoin => exact h.mark channel autoJoin
  | line p msg =>
      show (process p net msg).1.Present
      rcases changes_process p net msg with he | ⟨v, hv, hc⟩
      · rw [he]
        exact h
      · exact present_changes h ha hv hc

theorem present_run {net : Network} {steps : List Step} (h : net.Present)
    (ho : net.Orderly steps) : (net.run steps).Present := by
  induction steps generalizing net with
  | nil => exact h
  | cons step steps ih => exact ih (present_step h ho.1) ho.2

/--
**An open channel lists the client.** Whatever lines come after one another, of which each is
one that a server sends: when a channel is open and its members are not being listed, a member
goes by the nickname that the client has at the moment, and this is whom that nickname finds.
-/
theorem open_channel_lists_me (id : NetworkId) (label nickname : String) (steps : List Step)
    (h : (new id label nickname).Orderly steps) :
    let net := (new id label nickname).run steps
    ∀ c ∈ net.channels.values, c.isOpen = true → c.refreshing = false →
      ∃ m ∈ c.members.values, net.isMe m.nick = true ∧ c.member? net.nickname = some m := by
  intro net c hc ho hr
  have hpresent : net.Present := present_run (Each.new id label nickname) h
  have hkeyed : net.Keyed := .run steps (new_keyed id label nickname)
  obtain ⟨k, hk⟩ := Table.mem_values_iff.mp hc
  obtain ⟨m, hm⟩ := Option.isSome_iff_exists.mp (hpresent k c hk ho hr)
  have hname : fold m.nick = fold net.nickname := hkeyed.members k c hk _ m hm
  exact ⟨m, Table.mem_values_iff.mpr ⟨_, hm⟩, sameName_iff.mpr hname.symm, hm⟩

/-- The client is welcomed, enters a channel and is named in it. Then someone else takes its
nickname, in another spelling, and someone is kicked out. -/
theorem open_channel_lists_me_taken :
    let from_ (nick : String) : Option Source := some ⟨nick, none, none⟩
    let line command source args : Step := .line ⟨"1.0", "noon"⟩ ⟨[], source, command, args⟩
    let steps := [
      line "001" none ["kestrel", "Welcome"],
      line "JOIN" (from_ "kestrel") ["#lean"],
      line "353" none ["kestrel", "=", "#lean", "kestrel @ada grace"],
      line "366" none ["kestrel", "#lean", "End of /NAMES list"],
      line "NICK" (from_ "ada") ["Kestrel"],
      line "KICK" (from_ "kestrel") ["#Lean", "grace"]]
    let net := (new 1 "Libera" "kestrel").run steps
    (new 1 "Libera" "kestrel").Orderly steps ∧
      net.channels.values.map (fun c => (c.isOpen, c.refreshing, c.sortedMembers)) =
        [(true, false, [⟨"Kestrel", "o"⟩])] ∧
      ∀ c ∈ net.channels.values, c.isOpen = true → c.refreshing = false →
        ∃ m ∈ c.members.values, net.isMe m.nick = true ∧ c.member? net.nickname = some m := by
  intro from_ line steps net
  have ho : (new 1 "Libera" "kestrel").Orderly steps := by decide +kernel
  exact ⟨ho, by decide +kernel, open_channel_lists_me 1 "Libera" "kestrel" steps ho⟩

end Network

end IrcClient
