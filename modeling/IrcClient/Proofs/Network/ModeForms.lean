import IrcClient.Proofs.Handling.Flags
import IrcClient.Proofs.Handling.Modes
import IrcClient.Proofs.Network.Naming
import IrcClient.Proofs.Support

/-!
# The form of modes

Flags are written by two commands, in three ways, and the modes of a member by three commands;
others carry them along when people come, go and change their nicknames. All of them keep to one
form: the flags of a channel are a flag string, and the modes of a member are in their rank.

What the writers do to a text is said once (`ModeForms`): a form of flags is kept where one flag is
set or unset, a form of modes where they are sorted or one of them is taken away, and both fit
the empty text. Whatever has such forms still has them after any line (`modesAre_process`). So two
facts are left that are about texts alone: flag strings are such a form, and ranked modes are.
-/

namespace IrcClient

/-- Whether the flags of a channel and the modes of its members have their forms. -/
structure Channel.ModesAre (F M : String → Prop) (c : Channel) : Prop where
  flags : F c.modes
  members : ∀ k m, c.members.get? k = some m → M m.modes

/-- Forms that flags and modes keep, whatever is done to them under an announcement. -/
structure ModeForms (s : Support) (F M : String → Prop) : Prop where
  noFlags : F ""
  noModes : M ""
  setFlag : ∀ {modes mode}, F modes → mode ≠ '+' → ∀ adding, F (Handling.setFlag modes mode adding)
  sorted : ∀ modes, M (s.sortPrefixModes modes)
  taken : ∀ {modes}, M modes → ∀ mode, M (String.ofList (modes.toList.filter (· ≠ mode)))

/-- Flag strings are such a form. -/
theorem modeForms_flagString (s : Support) :
    ModeForms s Handling.IsFlagString fun _ => True where
  noFlags := .inl rfl
  noModes := trivial
  setFlag h hmode adding := h.setFlag hmode adding
  sorted _ := trivial
  taken _ _ := trivial

/-- And so are modes in their rank. -/
theorem modeForms_ranked (s : Support) : ModeForms s (fun _ => True) s.Ranked where
  noFlags := trivial
  noModes := s.ranked_empty
  setFlag _ _ _ := trivial
  sorted := s.ranked_sortPrefixModes
  taken h _ := h.filter _

variable {s : Support} {F M : String → Prop} {c : Channel}

/-! ## Channels -/

namespace Channel.ModesAre

theorem new (hs : ModeForms s F M) (name : String) : (Channel.new name).ModesAre F M :=
  ⟨hs.noFlags, fun k m h => absurd h (by simp [Channel.new])⟩

theorem clear (h : c.ModesAre F M) {c' : Channel} (hmodes : c'.modes = c.modes)
    (hmembers : c'.members = .empty) : c'.ModesAre F M :=
  ⟨hmodes ▸ h.flags, fun k m hm => absurd hm (by simp [hmembers])⟩

/-- A member is set whose modes have the form. -/
theorem insert (h : c.ModesAre F M) (k : String) {m : Member} (hm : M m.modes) :
    ModesAre F M { c with members := c.members.insert k m } := by
  refine ⟨h.flags, fun j m' hj => ?_⟩
  simp only [Table.get?_insert] at hj
  split at hj
  · rw [← Option.some.inj hj]
    exact hm
  · exact h.members j m' hj

theorem removeMember (h : c.ModesAre F M) (nick : String) : (c.removeMember nick).ModesAre F M := by
  refine ⟨h.flags, fun j m hj => ?_⟩
  simp only [Channel.removeMember, Table.get?_erase] at hj
  split at hj
  · cases hj
  · exact h.members j m hj

/-- Who comes in has no modes, or has those that the nickname has already. -/
theorem addMember (hs : ModeForms s F M) (h : c.ModesAre F M) (nick : String) :
    (c.addMember nick).ModesAre F M := by
  refine h.insert _ ?_
  unfold joinedMember
  cases hm : c.member? nick with
  | none => exact hs.noModes
  | some m => exact h.members _ m hm

theorem renameMember (h : c.ModesAre F M) (old new : String) :
    (c.renameMember old new).ModesAre F M := by
  unfold Channel.renameMember
  split
  · exact h
  · rename_i m hm
    exact (h.removeMember old).insert _ (h.members _ m hm)

theorem leftChannel (h : c.ModesAre F M) (isMe : Bool) (nick : String) :
    (Handling.leftChannel isMe nick c).ModesAre F M := by
  unfold Handling.leftChannel
  split
  · exact h.clear rfl rfl
  · exact h.removeMember nick

theorem quitChannel (h : c.ModesAre F M) (isMe : Bool) (nick : String) :
    (Handling.quitChannel isMe nick c).ModesAre F M := by
  unfold Handling.quitChannel
  split
  · split
    · exact h.clear rfl rfl
    · exact h
  · exact h.removeMember nick

/-- Members that are listed have the modes that their prefixes stand for. -/
theorem addListed (hs : ModeForms s F M) (h : c.ModesAre F M) (names : String) :
    (Handling.addListed c (Handling.listedMembers s names)).ModesAre F M := by
  have hlisted : ∀ m ∈ Handling.listedMembers s names, M m.modes := by
    intro m hm
    obtain ⟨token, -, htoken⟩ := List.mem_filterMap.mp hm
    dsimp only at htoken
    split at htoken
    · cases htoken
    · rw [← Option.some.inj htoken]
      exact hs.sorted _
  have hbegun : c.beginRefresh.ModesAre F M := by
    unfold beginRefresh
    split
    · exact h
    · exact h.clear rfl rfl
  have hfold : ∀ (members : List Member) {c : Channel}, (∀ m ∈ members, M m.modes) →
      c.ModesAre F M → (members.foldl upsertMember c).ModesAre F M := by
    intro members
    induction members with
    | nil => exact fun _ hc => hc
    | cons m members ih =>
      intro c hmembers hc
      rw [List.forall_mem_cons] at hmembers
      exact ih hmembers.2 (hc.insert _ hmembers.1)
  exact hfold _ hlisted hbegun

/-- The flags are told all at once. -/
theorem told (hs : ModeForms s F M) (h : c.ModesAre F M) {letters : List Char}
    (hplus : '+' ∉ letters) :
    ModesAre F M { c with modes := letters.foldl (Handling.setFlag · · true) "" } := by
  have hfold : ∀ (letters : List Char) {modes : String}, '+' ∉ letters → F modes →
      F (letters.foldl (Handling.setFlag · · true) modes) := by
    intro letters
    induction letters with
    | nil => exact fun _ hmodes => hmodes
    | cons mode letters ih =>
      intro modes hplus hmodes
      rw [List.mem_cons, not_or] at hplus
      exact ih hplus.2 (hs.setFlag hmodes (Ne.symm hplus.1) true)
  exact ⟨hfold letters hplus hs.noFlags, h.members⟩

end Channel.ModesAre

/-! ## Mode strings -/

namespace Handling.ModeRun

variable {r : ModeRun}

theorem modesAre_carryOut (hs : ModeForms s F M) (h : r.channel.ModesAre F M) {mode : Char}
    (hmode : mode ≠ '+') (param : Option String) :
    (r.carryOut s mode param).channel.ModesAre F M := by
  unfold carryOut
  split
  · split
    · exact h
    · unfold setMemberMode
      split
      · exact h
      · rename_i m hm
        refine h.insert _ ?_
        dsimp only
        split
        · exact hs.sorted _
        · exact hs.taken (h.members _ m hm) mode
  · split
    · exact h
    · exact ⟨hs.setFlag h.flags hmode _, h.members⟩

theorem modesAre_step (hs : ModeForms s F M) (h : r.channel.ModesAre F M) (mode : Char) :
    (r.step s mode).channel.ModesAre F M := by
  by_cases hplus : mode = '+'
  · subst hplus
    exact h
  by_cases hminus : mode = '-'
  · subst hminus
    exact h
  · let r' := { r with params := r.params.drop (takesOne s r.adding mode).toNat }
    have h' : r'.channel.ModesAre F M := h
    rw [step_letter hplus hminus]
    exact modesAre_carryOut hs h' hplus _

theorem modesAre_foldl (hs : ModeForms s F M) : ∀ (modes : List Char) {r : ModeRun},
    r.channel.ModesAre F M → (modes.foldl (step s) r).channel.ModesAre F M
  | [], _, h => h
  | mode :: modes, _, h => modesAre_foldl hs modes (modesAre_step hs h mode)

end Handling.ModeRun

/-! ## Networks -/

namespace Network

variable {net net' : Network} {msg : Message} {v : Verb}

theorem modesAre_mode (hs : ModeForms net.support F M) (h : net.Each (·.ModesAre F M))
    (msg : Message) : (Handling.mode net msg).1.Each (·.ModesAre F M) := by
  unfold Handling.mode
  split
  · split
    · exact h
    · refine h.setChannel ?_ _
      exact Handling.ModeRun.modesAre_foldl hs _ (h.channelOrNew (.new hs) _)
  · exact h

theorem modesAre_channelModeIs (hs : ModeForms net.support F M) (h : net.Each (·.ModesAre F M))
    (msg : Message) : (Handling.channelModeIs net msg).1.Each (·.ModesAre F M) := by
  unfold Handling.channelModeIs
  split
  · refine h.setChannel ?_ _
    exact (h.channelOrNew (.new hs) _).told hs (Handling.plus_notMem_flagLetters _)
  · exact h

theorem modesAre_namesReply (hs : ModeForms net.support F M) (h : net.Each (·.ModesAre F M))
    (msg : Message) : (Handling.namesReply net msg).1.Each (·.ModesAre F M) := by
  unfold Handling.namesReply
  split
  · refine h.setChannel ?_ _
    exact (h.channelOrNew (.new hs) _).addListed hs _
  · exact h

/-- Changes that write no modes carry them along, or drop them with those who had them. -/
theorem modesAre_changes (hs : ModeForms net.support F M) (h : net.Each (·.ModesAre F M))
    (hc : net.Changes msg v net') (hmode : v ≠ .mode) (hmodeIs : v ≠ .channelModeIs)
    (hnames : v ≠ .namesReply) : net'.Each (·.ModesAre F M) := by
  cases hc with
  | nothing _ | welcomed | rejected _ | announced _ | collected _ _ _ _ _ | collectionEnded _ =>
      exact h
  | edited _ target c he =>
      have hbefore : (net.channelOrNew target).ModesAre F M := h.channelOrNew (.new hs) target
      refine h.setChannel ?_ target
      cases he with
      | entered nick =>
          have hadded := hbefore.addMember hs nick
          exact ⟨hadded.flags, hadded.members⟩
      | left _ _ nick => exact hbefore.leftChannel _ nick
      | topic _ _ topic => exact ⟨hbefore.flags, hbefore.members⟩
      | modes _ hv _ _ _ => exact (hv.elim hmode hmodeIs).elim
      | listed members => exact absurd rfl hnames
  | listEnded target c _ hfound =>
      have hended : c.endRefresh.ModesAre F M :=
        ⟨(h _ c hfound).flags, (h _ c hfound).members⟩
      exact h.setChannel hended target
  | quit nick _ => exact h.mapChannels fun c hc => hc.quitChannel _ nick
  | renamed old new _ _ =>
      have hmap := h.mapChannels (Q := (·.ModesAre F M)) fun c hc => hc.renameMember old new
      exact hmap

/-- **Whatever the line, flags and modes keep their forms.** -/
theorem modesAre_process (hs : ModeForms net.support F M) (h : net.Each (·.ModesAre F M))
    (p : Persona) (msg : Message) : (process p net msg).1.Each (·.ModesAre F M) := by
  unfold process
  split
  · exact h
  · rename_i v _
    by_cases hmode : v = .mode
    · rw [hmode]
      exact modesAre_mode hs h msg
    by_cases hmodeIs : v = .channelModeIs
    · rw [hmodeIs]
      exact modesAre_channelModeIs hs h msg
    by_cases hnames : v = .namesReply
    · rw [hnames]
      exact modesAre_namesReply hs h msg
    · exact modesAre_changes hs h (changes_handler p v net msg) hmode hmodeIs hnames

/-! ## What is announced -/

theorem prefixModes_process (p : Persona) (net : Network) (h : ¬msg.AnnouncesPrefixes) :
    (process p net msg).1.support.prefixModes = net.support.prefixModes := by
  unfold process
  split
  · rfl
  · rename_i v hv
    by_cases hannouncement : v = .announcement
    · subst hannouncement
      have hcommand : msg.command = "005" := List.mem_singleton.mp (Verb.mem_commands hv)
      exact Handling.prefixModes_announcement net hcommand h
    · rw [(changes_handler p v net msg).support hannouncement]

/-- Whether the modes of every member are in their rank, as it is announced. -/
def Ranked (net : Network) : Prop :=
  net.Each fun c => ∀ k m, c.members.get? k = some m → net.support.Ranked m.modes

theorem ranked_process (h : net.Ranked) (p : Persona) (hmsg : ¬msg.AnnouncesPrefixes) :
    (process p net msg).1.Ranked := by
  have hforms : net.Each (·.ModesAre (fun _ => True) net.support.Ranked) :=
    fun k c hk => ⟨trivial, h k c hk⟩
  have hkept := modesAre_process (modeForms_ranked net.support) hforms p msg
  intro k c hk j m hj
  rw [Support.ranked_congr (prefixModes_process p net hmsg)]
  exact (hkept k c hk).members j m hj

theorem isFlagString_run : ∀ (lines : List (Persona × Message)) {net : Network},
    net.Each (·.ModesAre Handling.IsFlagString fun _ => True) →
      (net.run (lines.map fun l => .line l.1 l.2)).Each
        (·.ModesAre Handling.IsFlagString fun _ => True)
  | [], _, h => h
  | (p, msg) :: lines, net, h =>
      isFlagString_run lines (modesAre_process (modeForms_flagString net.support) h p msg)

/--
**Modes are always written in one way.** Whatever lines come in, the flags of every channel are
a flag string: no text, or a `+` with increasing letters behind it. And where the modes of every
member are in their rank, so they are after any line that does not announce prefixes; then they
are drawn from the modes that are announced, in that order.
-/
theorem modes_keep_form (id : NetworkId) (label nickname : String)
    (lines : List (Persona × Message)) (p : Persona) (net : Network) (msg : Message) :
    ((new id label nickname).run (lines.map fun l => .line l.1 l.2)).Each
      (Handling.IsFlagString ·.modes) ∧
    (net.Ranked → ¬msg.AnnouncesPrefixes →
      (process p net msg).1.Ranked ∧
      (process p net msg).1.Each fun c => ∀ k m, c.members.get? k = some m →
        m.modes.toList.Sublist (process p net msg).1.support.prefixModes.toList) := by
  refine ⟨fun k c hk => ?_, fun h hmsg => ?_⟩
  · have hrun := isFlagString_run lines (Each.new id label nickname)
    exact (hrun k c hk).flags
  · have hranked : (process p net msg).1.Ranked := ranked_process h p hmsg
    exact ⟨hranked, fun k c hk j m hj => (hranked k c hk j m hj).sublist⟩

/-- An operator with a voice, who is given the rank again and then loses it. -/
theorem modes_keep_form_taken :
    let net := (new 1 "Libera" "ada").setChannel "#lean"
      ((Channel.new "#lean").upsertMember ⟨"ada", "ov"⟩)
    let msg : Message := ⟨[], none, "MODE", ["#lean", "+o-o", "ADA", "ada"]⟩
    let net' := (process ⟨"1.0", "noon"⟩ net msg).1
    net.Ranked ∧ ¬msg.AnnouncesPrefixes ∧ net'.Ranked ∧
    (net'.channel? "#lean").map (·.members.values) = some [⟨"ada", "v"⟩] := by
  intro net msg net'
  have hnet : net.Ranked := by
    refine Each.setChannel (Each.new 1 "Libera" "ada") (fun k m hm => ?_) "#lean"
    simp only [Channel.upsertMember, Channel.new, Table.get?_insert] at hm
    split at hm
    · rw [← Option.some.inj hm]
      show Support.initial.sortPrefixModes "ov" = "ov"
      decide
    · cases hm
  have hmsg : ¬msg.AnnouncesPrefixes := fun h => absurd h.1 (by decide)
  obtain ⟨hranked, -⟩ := (modes_keep_form 1 "Libera" "ada" [] ⟨"1.0", "noon"⟩ net msg).2 hnet hmsg
  exact ⟨hnet, hmsg, hranked, by decide +kernel⟩

end Network

end IrcClient
