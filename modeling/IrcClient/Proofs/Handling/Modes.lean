import IrcClient.Proofs.Handling.Hearing
import IrcClient.Proofs.Network.Channels
import IrcClient.Proofs.Store.Updates

/-!
# A mode line and its pieces

Which parameter belongs to which letter of a mode string depends on all that stands before it: on
the sign in force, and on how many of the letters before have taken a parameter. Still a line can
be cut anywhere. The first piece keeps the parameters that its letters take (`paramsTaken`), the
second one begins with the sign that was in force (`signAfter`), and the two do what the whole
line does (`mode_line_splits`).

A piece is read as a run of its own, which is the middle of the longer one: more parameters are
left behind it, and something was written before (`ModeRun.amid`).
-/

namespace IrcClient

/-- Whether a line changes the modes of a target: the mode string, and the parameters behind it. -/
structure Message.IsMode (msg : Message) (target modes : String) (params : List String) : Prop where
  command : msg.command = "MODE"
  args : msg.args = target :: modes :: params

namespace Message.IsMode

variable {msg : Message} {target modes : String} {params : List String}

theorem arg_zero (h : msg.IsMode target modes params) : msg.arg 0 = some target := by
  rw [arg, h.args]
  rfl

theorem arg_one (h : msg.IsMode target modes params) : msg.arg 1 = some modes := by
  rw [arg, h.args]
  rfl

theorem drop_args (h : msg.IsMode target modes params) : msg.args.drop 2 = params := by
  rw [h.args]
  rfl

end Message.IsMode

/-- Modes that are given to members or taken from them are written without a look at the record,
and leave it alone. -/
theorem StoredChannel.after_upsertMembers {name : String} : ∀ {ws : List Write},
    (∀ w ∈ ws, ∃ m, w = .upsertMember name m) →
      ∃ g : Table String Member → Table String Member,
        ∀ c : StoredChannel, c.after ws = ⟨c.record, g c.members⟩
  | [], _ => ⟨id, fun _ => rfl⟩
  | w :: ws, h => by
      obtain ⟨m, rfl⟩ := h w List.mem_cons_self
      obtain ⟨g, hg⟩ := after_upsertMembers fun w hw => h w (List.mem_cons_of_mem _ hw)
      exact ⟨fun ms => g (ms.insert (fold m.nick) m), fun c => hg _⟩

namespace Handling

/-! ## Signs and parameters -/

/-- The sign in force behind a character. -/
def nextSign (adding : Bool) (c : Char) : Bool :=
  if c = '+' then true else if c = '-' then false else adding

/-- The sign in force at the end of a mode string: the last one, or `+` if there is none. -/
def signAfter (modes : String) : Bool :=
  modes.toList.foldl nextSign true

/-- A sign as it is written. -/
def signText (adding : Bool) : String :=
  if adding then "+" else "-"

/-- Whether a character is a letter that takes a parameter under a sign. -/
def takesOne (s : Support) (adding : Bool) (c : Char) : Bool :=
  c ≠ '+' && c ≠ '-' && s.takesParam c adding

/-- How many letters take a parameter, each under the sign in force where it stands. -/
def paramsTaken (s : Support) : Bool → List Char → Nat
  | _, [] => 0
  | adding, c :: modes => (takesOne s adding c).toNat + paramsTaken s (nextSign adding c) modes

namespace ModeRun

/-! ## One character -/

/-- What a letter does to the channel, with the parameter that it has taken. -/
def carryOut (s : Support) (r : ModeRun) (mode : Char) (param : Option String) : ModeRun :=
  if s.isPrefixMode mode then
    match param with
    | none => r
    | some nick => r.setMemberMode s mode nick
  else if s.isListMode mode then r
  else r.setChannelFlag mode

/-- A letter takes its parameter, if it takes one, and is carried out. -/
theorem step_letter {c : Char} (hplus : c ≠ '+') (hminus : c ≠ '-') (s : Support) (r : ModeRun) :
    r.step s c =
      carryOut s { r with params := r.params.drop (takesOne s r.adding c).toNat } c
        (if takesOne s r.adding c then r.params.head? else none) := by
  have htakes : takesOne s r.adding c = s.takesParam c r.adding := by
    simp [takesOne, hplus, hminus]
  have hparams : (if s.takesParam c r.adding then r.params.drop 1 else r.params) =
      r.params.drop (takesOne s r.adding c).toNat := by
    rw [htakes]
    cases s.takesParam c r.adding <;> rfl
  unfold step
  split
  · exact absurd rfl hplus
  · exact absurd rfl hminus
  · rw [← hparams, htakes]
    rfl

variable {s : Support} {r : ModeRun}

theorem adding_carryOut (s : Support) (r : ModeRun) (mode : Char) (param : Option String) :
    (r.carryOut s mode param).adding = r.adding := by
  unfold carryOut
  split
  · split
    · rfl
    · unfold setMemberMode
      split <;> rfl
  · split <;> rfl

theorem params_carryOut (s : Support) (r : ModeRun) (mode : Char) (param : Option String) :
    (r.carryOut s mode param).params = r.params := by
  unfold carryOut
  split
  · split
    · rfl
    · unfold setMemberMode
      split <;> rfl
  · split <;> rfl

theorem adding_step (s : Support) (r : ModeRun) (c : Char) :
    (r.step s c).adding = nextSign r.adding c := by
  by_cases hplus : c = '+'
  · subst hplus
    rfl
  by_cases hminus : c = '-'
  · subst hminus
    rfl
  · rw [step_letter hplus hminus, adding_carryOut, nextSign, if_neg hplus, if_neg hminus]

theorem params_step (s : Support) (r : ModeRun) (c : Char) :
    (r.step s c).params = r.params.drop (takesOne s r.adding c).toNat := by
  by_cases hplus : c = '+'
  · subst hplus
    rfl
  by_cases hminus : c = '-'
  · subst hminus
    rfl
  · rw [step_letter hplus hminus, params_carryOut]

/-! ## The middle of a longer run -/

/-- A run as it is in the middle of a longer one: something was written before, some flag may have
changed, and more parameters are left. -/
def amid (r : ModeRun) (writes : List Write) (changed : Bool) (more : List String) : ModeRun :=
  { r with
    params := r.params ++ more
    flagsChanged := changed || r.flagsChanged
    writes := writes ++ r.writes }

theorem channel_amid (r : ModeRun) (writes : List Write) (changed : Bool) (more : List String) :
    (r.amid writes changed more).channel = r.channel :=
  rfl

theorem carryOut_amid (s : Support) (r : ModeRun) (mode : Char) (param : Option String)
    (writes : List Write) (changed : Bool) (more : List String) :
    carryOut s (r.amid writes changed more) mode param =
      (carryOut s r mode param).amid writes changed more := by
  unfold carryOut
  split
  · split
    · rfl
    · unfold setMemberMode
      dsimp only [amid]
      split
      · rfl
      · rw [List.append_assoc]
        rfl
  · split
    · rfl
    · dsimp only [setChannelFlag, amid]
      rw [Bool.or_assoc]

/-- In the middle of a longer run a character does what it does in the shorter one, if that one
has a parameter where it takes one, or else the longer one has none either. -/
theorem step_amid {c : Char} {more : List String}
    (h : (takesOne s r.adding c).toNat ≤ r.params.length ∨ more = []) (writes : List Write)
    (changed : Bool) :
    (r.amid writes changed more).step s c = (r.step s c).amid writes changed more := by
  by_cases hplus : c = '+'
  · subst hplus
    rfl
  by_cases hminus : c = '-'
  · subst hminus
    rfl
  · -- a letter takes its parameter from the front, where the shorter run has it as well
    have hparams : (r.params ++ more).drop (takesOne s r.adding c).toNat =
        r.params.drop (takesOne s r.adding c).toNat ++ more := by
      rcases h with h | rfl
      · exact List.drop_append_of_le_length h
      · rw [List.append_nil, List.append_nil]
    have hhead : (if takesOne s r.adding c then (r.params ++ more).head? else none) =
        if takesOne s r.adding c then r.params.head? else none := by
      rcases h with h | rfl
      · split
        · rename_i ht
          rw [ht] at h
          obtain ⟨param, rest, hrest⟩ := List.exists_cons_of_length_pos h
          rw [hrest]
          rfl
        · rfl
      · rw [List.append_nil]
    rw [step_letter hplus hminus, step_letter hplus hminus, ← carryOut_amid]
    show carryOut s { r.amid writes changed more with
      params := (r.params ++ more).drop (takesOne s r.adding c).toNat } c
      (if takesOne s r.adding c then (r.params ++ more).head? else none) = _
    rw [hparams, hhead]
    rfl

/-! ## Several characters -/

theorem adding_foldl (s : Support) : ∀ (modes : List Char) (r : ModeRun),
    (modes.foldl (step s) r).adding = modes.foldl nextSign r.adding
  | [], _ => rfl
  | c :: modes, r => by
      rw [List.foldl_cons, adding_foldl s modes, adding_step, List.foldl_cons]

theorem params_foldl (s : Support) : ∀ (modes : List Char) (r : ModeRun),
    (modes.foldl (step s) r).params = r.params.drop (paramsTaken s r.adding modes)
  | [], _ => rfl
  | c :: modes, r => by
      rw [List.foldl_cons, params_foldl s modes, params_step, adding_step, List.drop_drop,
        paramsTaken]

theorem foldl_amid {more : List String} (writes : List Write) (changed : Bool) :
    ∀ (modes : List Char) {r : ModeRun},
      paramsTaken s r.adding modes ≤ r.params.length ∨ more = [] →
      modes.foldl (step s) (r.amid writes changed more) =
        (modes.foldl (step s) r).amid writes changed more
  | [], _, _ => rfl
  | c :: modes, r, h => by
      have hc : (takesOne s r.adding c).toNat ≤ r.params.length ∨ more = [] := by
        refine h.imp_left fun h => ?_
        rw [paramsTaken] at h
        omega
      rw [List.foldl_cons, step_amid hc, foldl_amid writes changed modes, List.foldl_cons]
      refine h.imp_left fun h => ?_
      rw [paramsTaken] at h
      rw [adding_step, params_step, List.length_drop]
      omega

/-- **A mode string is read piece by piece**: the second piece begins where the first one has left
the channel, with the sign in force and the parameters that are left. -/
theorem read_append (s : Support) (c : Channel) (m₁ m₂ : String) {ps₁ : List String}
    (h : ps₁.length = paramsTaken s true m₁.toList) (ps₂ : List String) :
    let r₁ := read s { channel := c, params := ps₁ } m₁
    let r₂ := read s { channel := r₁.channel, params := ps₂ } (signText (signAfter m₁) ++ m₂)
    read s { channel := c, params := ps₁ ++ ps₂ } (m₁ ++ m₂) =
      r₂.amid r₁.writes r₁.flagsChanged [] := by
  intro r₁ r₂
  have hfirst : m₁.toList.foldl (step s) { channel := c, params := ps₁ ++ ps₂ } =
      r₁.amid [] false ps₂ :=
    foldl_amid (r := { channel := c, params := ps₁ }) [] false m₁.toList
      (.inl (Nat.le_of_eq h.symm))
  have hleft : r₁.params = [] := by
    show (m₁.toList.foldl (step s) _).params = []
    rw [params_foldl]
    exact List.drop_eq_nil_of_le (Nat.le_of_eq h)
  have hsign : r₁.adding = signAfter m₁ := adding_foldl s m₁.toList _
  -- with its sign read, the second piece stands where the whole line stands behind the first
  have hbetween : r₁.amid [] false ps₂ =
      ({ channel := r₁.channel, params := ps₂, adding := signAfter m₁ } : ModeRun).amid
        r₁.writes r₁.flagsChanged [] := by
    simp [amid, hleft, hsign]
  have hsecond : r₂ = m₂.toList.foldl (step s)
      { channel := r₁.channel, params := ps₂, adding := signAfter m₁ } := by
    show (signText (signAfter m₁) ++ m₂).toList.foldl (step s) _ = _
    rw [String.toList_append, List.foldl_append]
    cases signAfter m₁ <;> rfl
  show (m₁ ++ m₂).toList.foldl (step s) _ = _
  rw [String.toList_append, List.foldl_append, hfirst, hbetween, hsecond,
    foldl_amid _ _ _ (.inr rfl)]

/-! ## What a mode string writes -/

/-- What is told by the reading of a mode string: the members whose modes change, one by one, and
whether a flag has changed. -/
structure Tells (before : Channel) (r : ModeRun) : Prop where
  name : r.channel.name = before.name
  writes : ∀ w ∈ r.writes, ∃ m, w = .upsertMember before.name m
  flags : r.flagsChanged = false → r.channel.modes = before.modes

variable {before : Channel}

theorem Tells.carryOut (h : Tells before r) (s : Support) (mode : Char) (param : Option String) :
    Tells before (r.carryOut s mode param) := by
  unfold ModeRun.carryOut
  split
  · split
    · exact h
    · unfold setMemberMode
      split
      · exact h
      · refine ⟨h.name, fun w hw => ?_, h.flags⟩
        rcases List.mem_append.mp hw with hw | hw
        · exact h.writes w hw
        · rw [List.mem_singleton.mp hw, h.name]
          exact ⟨_, rfl⟩
  · split
    · exact h
    · refine ⟨h.name, h.writes, fun hf => ?_⟩
      obtain ⟨hbefore, hsame⟩ := Bool.or_eq_false_iff.mp hf
      have hsame : setFlag r.channel.modes mode r.adding = r.channel.modes := by simpa using hsame
      exact hsame.trans (h.flags hbefore)

theorem Tells.step (h : Tells before r) (s : Support) (c : Char) : Tells before (r.step s c) := by
  by_cases hplus : c = '+'
  · subst hplus
    exact ⟨h.name, h.writes, h.flags⟩
  by_cases hminus : c = '-'
  · subst hminus
    exact ⟨h.name, h.writes, h.flags⟩
  · rw [step_letter hplus hminus]
    have h' : Tells before { r with params := r.params.drop (takesOne s r.adding c).toNat } :=
      ⟨h.name, h.writes, h.flags⟩
    exact h'.carryOut s c _

theorem Tells.foldl (s : Support) : ∀ (modes : List Char) {r : ModeRun},
    Tells before r → Tells before (modes.foldl (ModeRun.step s) r)
  | [], _, h => h
  | c :: modes, _, h => Tells.foldl s modes (h.step s c)

theorem tells_read (s : Support) (c : Channel) (params : List String) (modes : String) :
    Tells c (read s { channel := c, params } modes) :=
  Tells.foldl s modes.toList ⟨rfl, by simp, fun _ => rfl⟩

/-- What is written of a mode string that has been read. -/
def told (r : ModeRun) : List Write :=
  r.writes ++ if r.flagsChanged then [.modes r.channel.name r.channel.modes] else []

theorem Tells.updates_told (h : Tells before r) {w : Write} (hw : w ∈ r.told) :
    w.updates? = some before.name := by
  rcases List.mem_append.mp hw with hw | hw
  · obtain ⟨m, rfl⟩ := h.writes w hw
    rfl
  · split at hw
    · rw [List.mem_singleton.mp hw, h.name]
      rfl
    · cases hw

/-- The flags are written once, behind the members. -/
theorem after_told {g : Table String Member → Table String Member}
    (hg : ∀ c : StoredChannel, c.after r.writes = ⟨c.record, g c.members⟩) (c : StoredChannel) :
    c.after r.told =
      ⟨if r.flagsChanged then { c.record with modes := r.channel.modes } else c.record,
        g c.members⟩ := by
  rw [told, StoredChannel.after_append, hg]
  split <;> rfl

/-- The flags are written by the whole line if they are written by one of its pieces, and the
last one to write them has them as they are in the end. -/
theorem after_told_amid {r₁ r₂ : ModeRun} (h₁ : Tells before r₁) (h₂ : Tells r₁.channel r₂)
    (c : StoredChannel) :
    c.after (r₂.amid r₁.writes r₁.flagsChanged []).told = (c.after r₁.told).after r₂.told := by
  obtain ⟨g₁, hg₁⟩ := StoredChannel.after_upsertMembers h₁.writes
  obtain ⟨g₂, hg₂⟩ := StoredChannel.after_upsertMembers h₂.writes
  have hg : ∀ c : StoredChannel,
      c.after (r₂.amid r₁.writes r₁.flagsChanged []).writes = ⟨c.record, g₂ (g₁ c.members)⟩ := by
    intro c
    rw [amid, StoredChannel.after_append, hg₁, hg₂]
  rw [after_told (g := fun ms => g₂ (g₁ ms)) hg, after_told hg₁, after_told hg₂]
  by_cases hf₂ : r₂.flagsChanged = true
  · by_cases hf₁ : r₁.flagsChanged = true <;> simp [amid, hf₁, hf₂]
  · have hsame : r₂.channel.modes = r₁.channel.modes := h₂.flags (Bool.eq_false_iff.mpr hf₂)
    by_cases hf₁ : r₁.flagsChanged = true <;> simp [amid, hf₁, hf₂, hsame]

theorem Tells.amid {r₁ r₂ : ModeRun} (h₁ : Tells before r₁) (h₂ : Tells r₁.channel r₂) :
    Tells before (r₂.amid r₁.writes r₁.flagsChanged []) where
  name := h₂.name.trans h₁.name
  writes w hw := by
    rcases List.mem_append.mp hw with hw | hw
    · exact h₁.writes w hw
    · obtain ⟨m, rfl⟩ := h₂.writes w hw
      exact ⟨m, by rw [h₁.name]⟩
  flags hf := by
    obtain ⟨hf₁, hf₂⟩ := Bool.or_eq_false_iff.mp hf
    exact (h₂.flags hf₂).trans (h₁.flags hf₁)

/-- Whatever lines of history stand behind them, the pieces leave the channels of a store as the
whole leaves them. -/
theorem shelf_told_amid {r₁ r₂ : ModeRun} (h₁ : Tells before r₁) (h₂ : Tells r₁.channel r₂)
    (l l₁ l₂ : HistoryLine) (s : Store) (network : NetworkId) :
    (s.attemptAll network
        ((r₂.amid r₁.writes r₁.flagsChanged []).told ++ [.line l])).shelf network =
      (s.attemptAll network ((r₁.told ++ [.line l₁]) ++ (r₂.told ++ [.line l₂]))).shelf
        network := by
  cases hf : s.failing with
  | true => rw [Store.attemptAll_of_failing hf, Store.attemptAll_of_failing hf]
  | false =>
      have hupdates : ∀ {c : Channel} {r : ModeRun} {l : HistoryLine}, Tells c r →
          c.name = before.name →
          ∀ w ∈ r.told ++ [.line l], w.updates? = some before.name ∨ ∃ l, w = .line l := by
        intro c r l h hname w hw
        rcases List.mem_append.mp hw with hw | hw
        · exact .inl (by rw [h.updates_told hw, hname])
        · exact .inr ⟨l, List.mem_singleton.mp hw⟩
      rw [Store.shelf_attemptAll hf (hupdates (h₁.amid h₂) rfl), Store.shelf_attemptAll hf ?_]
      · refine congrArg (Table.modify _ _) (funext fun c => ?_)
        simp [StoredChannel.after_append, after_told_amid h₁ h₂, Write.onChannel]
      · intro w hw
        rcases List.mem_append.mp hw with hw | hw
        · exact hupdates h₁ rfl w hw
        · exact hupdates h₂ h₁.name w hw

end ModeRun

/-! ## Mode lines -/

variable {p : Persona} {net : Network} {msg : Message} {target modes : String}
  {params : List String}

/-- What is read of a mode line. -/
def modesRead (net : Network) (target modes : String) (params : List String) : ModeRun :=
  ModeRun.read net.support { channel := net.channelOrNew target, params } modes

theorem tells_modesRead (net : Network) (target modes : String) (params : List String) :
    ModeRun.Tells (net.channelOrNew target) (modesRead net target modes params) :=
  ModeRun.tells_read net.support (net.channelOrNew target) params modes

/-- A mode line is read piece by piece, the second piece where the first one has left the
network. -/
theorem modesRead_append (net : Network) (target m₁ m₂ : String) {ps₁ : List String}
    (h : ps₁.length = paramsTaken net.support true m₁.toList) (ps₂ : List String) :
    let r₁ := modesRead net target m₁ ps₁
    let net₁ := net.setChannel target r₁.channel
    modesRead net target (m₁ ++ m₂) (ps₁ ++ ps₂) =
      (modesRead net₁ target (signText (signAfter m₁) ++ m₂) ps₂).amid r₁.writes r₁.flagsChanged
        [] := by
  intro r₁ net₁
  have hchannel : net₁.channelOrNew target = r₁.channel :=
    net.channelOrNew_setChannel target r₁.channel
  rw [modesRead, modesRead, hchannel]
  exact ModeRun.read_append net.support (net.channelOrNew target) m₁ m₂ h ps₂

/-- The write that makes a channel known, if it is not. -/
def madeKnown (net : Network) (target : String) : List Write :=
  if net.hasChannel target then [] else [.upsertChannel (net.channelOrNew target).name]

theorem process_eq_mode (p : Persona) (net : Network) (h : msg.IsMode target modes params) :
    process p net msg = mode net msg := by
  have hverb : Verb.ofCommand? msg.command = some .mode := by rw [h.command]; rfl
  rw [process_of_ofCommand? hverb, Verb.handler]

theorem process_of_isMode (p : Persona) (net : Network) (h : msg.IsMode target modes params)
    (hc : net.support.isChannel target = true) :
    (process p net msg).1 = net.setChannel target (modesRead net target modes params).channel ∧
    ∃ l, (process p net msg).2.writes =
      madeKnown net target ++ ((modesRead net target modes params).told ++ [.line l]) := by
  have hname : (modesRead net target modes params).channel.name =
      (net.channelOrNew target).name := (tells_modesRead net target modes params).name
  rw [process_eq_mode p net h, mode, h.arg_zero, h.arg_one]
  dsimp only
  rw [hc, h.drop_args, if_neg (by decide)]
  refine ⟨rfl, ?_⟩
  simp only [Outcome.writes_append, Outcome.writes_only, Outcome.writes_write,
    Outcome.writes_writing, Outcome.writes_emit, List.append_nil, List.append_assoc,
    madeKnown, ModeRun.told, hname]
  cases net.hasChannel target <;> exact ⟨_, rfl⟩

/-- The modes of users are not kept. -/
theorem process_of_isMode_user (h : msg.IsMode target modes params)
    (hc : net.support.isChannel target = false) : process p net msg = (net, .empty) := by
  rw [process_eq_mode p net h, mode, h.arg_zero, h.arg_one]
  dsimp only
  rw [hc, if_pos (by decide)]

/-- A mode line that finds the channel as another line has set it. -/
theorem process_of_isMode_setChannel (h : msg.IsMode target modes params)
    (hc : net.support.isChannel target = true) (c : Channel) :
    let r := modesRead (net.setChannel target c) target modes params
    (process p (net.setChannel target c) msg).1 = net.setChannel target r.channel ∧
      (∃ l, (process p (net.setChannel target c) msg).2.writes = r.told ++ [.line l]) ∧
      ModeRun.Tells c r := by
  intro r
  have hknown : madeKnown (net.setChannel target c) target = [] := by
    rw [madeKnown, Network.hasChannel_setChannel, if_pos rfl]
  have htells : ModeRun.Tells ((net.setChannel target c).channelOrNew target) r :=
    tells_modesRead _ target modes params
  rw [Network.channelOrNew_setChannel] at htells
  obtain ⟨hafter, l, hwrites⟩ := process_of_isMode p (net.setChannel target c) h hc
  rw [Network.setChannel_setChannel] at hafter
  rw [hknown, List.nil_append] at hwrites
  exact ⟨hafter, ⟨l, hwrites⟩, htells⟩

/--
**A mode line does what its pieces do.** Cut anywhere: the first piece keeps the parameters that
its letters take, and the second one begins with the sign that was in force where the line was
cut. The network becomes the same, and any store comes to hold the same channels of it.
-/
theorem mode_line_splits (p : Persona) (net : Network) {whole first second : Message}
    {target m₁ m₂ : String} {ps₁ ps₂ : List String}
    (hwhole : whole.IsMode target (m₁ ++ m₂) (ps₁ ++ ps₂)) (hfirst : first.IsMode target m₁ ps₁)
    (hsecond : second.IsMode target (signText (signAfter m₁) ++ m₂) ps₂)
    (hparams : ps₁.length = paramsTaken net.support true m₁.toList) :
    let once := process p net whole
    let before := process p net first
    let after := process p before.1 second
    once.1 = after.1 ∧ ∀ (s : Store) (network : NetworkId),
      (s.attemptAll network once.2.writes).shelf network =
        ((s.attemptAll network before.2.writes).attemptAll network after.2.writes).shelf
          network := by
  intro once before after
  cases hc : net.support.isChannel target with
  | false =>
      -- the modes of a user are not kept, whole or in pieces
      have honce : once = (net, .empty) := process_of_isMode_user hwhole hc
      have hbefore : before = (net, .empty) := process_of_isMode_user hfirst hc
      have hafter : after = (net, .empty) := by
        show process p before.1 second = _
        rw [hbefore]
        exact process_of_isMode_user hsecond hc
      rw [honce, hafter, hbefore]
      exact ⟨rfl, fun s network => rfl⟩
  | true =>
      obtain ⟨honce, l, hwrites⟩ := process_of_isMode p net hwhole hc
      obtain ⟨hbefore, l₁, hwrites₁⟩ := process_of_isMode p net hfirst hc
      obtain ⟨hafter, ⟨l₂, hwrites₂⟩, h₂⟩ := process_of_isMode_setChannel (p := p) hsecond hc
        (modesRead net target m₁ ps₁).channel
      have h₁ := tells_modesRead net target m₁ ps₁
      -- to read the whole is to read on behind the first piece
      rw [modesRead_append net target m₁ m₂ hparams ps₂] at honce hwrites
      have hbefore : before.1 = net.setChannel target (modesRead net target m₁ ps₁).channel :=
        hbefore
      constructor
      · show (process p net whole).1 = (process p before.1 second).1
        rw [honce, hbefore, hafter, ModeRun.channel_amid]
      · intro s network
        show (s.attemptAll network (process p net whole).2.writes).shelf network =
          ((s.attemptAll network (process p net first).2.writes).attemptAll network
            (process p before.1 second).2.writes).shelf network
        rw [hbefore, hwrites, hwrites₁, hwrites₂]
        simp only [s.attemptAll_append network (madeKnown net target)]
        rw [← (s.attemptAll network (madeKnown net target)).attemptAll_append]
        exact ModeRun.shelf_told_amid h₁ h₂ l l₁ l₂ _ network

/-- A line is cut behind a minus, between two letters that take a parameter each. -/
theorem mode_line_splits_minus :
    let p : Persona := ⟨"1.0", "noon"⟩
    let source : Source := ⟨"ada", none, none⟩
    let net := (Network.new 1 "Libera" "kestrel").setChannel "#lean"
      (((Channel.new "#lean").addMember "Ada").addMember "grace")
    let whole : Message := ⟨[], some source, "MODE",
      ["#Lean", "+o-bv+kn", "ada", "*!*@spam", "grace", "key"]⟩
    let first : Message := ⟨[], some source, "MODE", ["#Lean", "+o-b", "ada", "*!*@spam"]⟩
    let second : Message := ⟨[], some source, "MODE", ["#Lean", "-v+kn", "grace", "key"]⟩
    let once := process p net whole
    let before := process p net first
    let after := process p before.1 second
    whole.IsMode "#Lean" ("+o-b" ++ "v+kn") (["ada", "*!*@spam"] ++ ["grace", "key"]) ∧
    first.IsMode "#Lean" "+o-b" ["ada", "*!*@spam"] ∧
    second.IsMode "#Lean" (signText (signAfter "+o-b") ++ "v+kn") ["grace", "key"] ∧
    ["ada", "*!*@spam"].length = paramsTaken net.support true "+o-b".toList ∧
    once.1 = after.1 ∧ ∀ (s : Store) (network : NetworkId),
      (s.attemptAll network once.2.writes).shelf network =
        ((s.attemptAll network before.2.writes).attemptAll network after.2.writes).shelf
          network := by
  intro p source net whole first second
  have hwhole : whole.IsMode "#Lean" ("+o-b" ++ "v+kn") (["ada", "*!*@spam"] ++ ["grace", "key"]) :=
    ⟨rfl, by decide⟩
  have hfirst : first.IsMode "#Lean" "+o-b" ["ada", "*!*@spam"] := ⟨rfl, rfl⟩
  have hsecond : second.IsMode "#Lean" (signText (signAfter "+o-b") ++ "v+kn") ["grace", "key"] :=
    ⟨rfl, by decide⟩
  have hparams : ["ada", "*!*@spam"].length = paramsTaken net.support true "+o-b".toList := by
    decide +kernel
  exact ⟨hwhole, hfirst, hsecond, hparams, mode_line_splits p net hwhole hfirst hsecond hparams⟩

end Handling

end IrcClient
