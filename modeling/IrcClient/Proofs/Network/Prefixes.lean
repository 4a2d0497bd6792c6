import IrcClient.Proofs.Handling.Frame
import IrcClient.Proofs.Support
import IrcClient.Proofs.Table
import Mathlib.Data.List.Nodup

/-!
# The prefix table

What the server says of prefixes is kept three times over: the characters and the mode letters,
each in their rank, and a map from the ones to the others. Members are listed by the map and
sorted by the letters, so the three have to be of one mind whatever comes in. They are, since one
token sets all of them or none (`applyPrefix_eq_ok_iff`), and no other token sets any
(`samePrefixes_applyToken`).

A token is put in force by itself, so what is supported after any lines is what their tokens make
of it one by one (`support_run`), and how the server dealt them out to lines is nowhere to be seen.
-/

namespace IrcClient

/-- What a token says of its name: what follows the first `=`. -/
def tokenValue (token : String) : String :=
  String.ofList ((cut? '=' token.toList).getD (token.toList, [])).2

namespace Support

variable {s s' : Support} {value token : String} {modes chars : List Char} {c mode : Char}

/-! ## What is announced -/

/-- The mode letters and the characters of a value: none, or as many of one as of the other. -/
inductive Prefixes : String → List Char → List Char → Prop where
  | none : Prefixes "" [] []
  | table {value : String} {modes chars : List Char} (hmodes : ')' ∉ modes)
      (hvalue : value.toList = '(' :: (modes ++ ')' :: chars))
      (hlength : modes.length = chars.length) : Prefixes value modes chars

theorem Prefixes.length (h : Prefixes value modes chars) : modes.length = chars.length := by
  cases h with
  | none => rfl
  | table _ _ hlength => exact hlength

theorem readPrefix?_eq_some_iff : readPrefix? value = some (modes, chars) ↔
    value.toList = '(' :: (modes ++ ')' :: chars) ∧ ')' ∉ modes ∧
      modes.length = chars.length := by
  unfold readPrefix?
  split
  · rename_i rest hvalue
    rw [hvalue, Option.filter_eq_some_iff, cut?_eq_some_iff, List.cons_inj_right]
    simp only [decide_eq_true_eq, and_assoc]
  · rename_i hvalue
    constructor
    · intro h
      cases h
    · intro h
      exact absurd h.1 (hvalue _)

/-- A value is accepted if it writes prefixes, and then it is these that are in force. -/
theorem applyPrefix_eq_ok_iff : s.applyPrefix value = .ok s' ↔
    ∃ modes chars, Prefixes value modes chars ∧ s' = s.withPrefixes modes chars := by
  unfold applyPrefix
  by_cases hempty : value = ""
  · subst hempty
    rw [if_pos (by decide)]
    constructor
    · intro h
      exact ⟨[], [], .none, (Except.ok.inj h).symm⟩
    · rintro ⟨modes, chars, h, rfl⟩
      cases h with
      | none => rfl
      | table _ hvalue _ => cases hvalue
  · rw [if_neg (by simpa using hempty)]
    constructor
    · intro h
      cases hread : readPrefix? value with
      | none =>
          rw [hread] at h
          cases h
      | some sides =>
          rw [hread] at h
          obtain ⟨hvalue, hmodes, hlength⟩ := readPrefix?_eq_some_iff.mp hread
          exact ⟨_, _, .table hmodes hvalue hlength, (Except.ok.inj h).symm⟩
    · rintro ⟨modes, chars, h, rfl⟩
      cases h with
      | none => exact absurd rfl hempty
      | table hmodes hvalue hlength =>
          rw [readPrefix?_eq_some_iff.mpr ⟨hvalue, hmodes, hlength⟩]

end Support

/-- Whether a token announces prefixes, but not in a form that can be read. -/
def MalformedPrefixes (token : String) : Prop :=
  tokenName token = "PREFIX".toList ∧ ∀ modes chars, ¬Support.Prefixes (tokenValue token) modes chars

namespace Handling

variable {token : String}

theorem applyToken_of_prefixToken (s : Support) (h : tokenName token = "PREFIX".toList) :
    applyToken s token = match s.applyPrefix (tokenValue token) with
      | .ok s' => s'
      | .error _ => s := by
  have hname : String.ofList ((cut? '=' token.toList).getD (token.toList, [])).1 = "PREFIX" := by
    rw [← tokenName, h, String.ofList_toList]
  unfold applyToken
  dsimp only
  rw [hname]
  rfl

theorem applyToken_of_prefixes (s : Support) {modes chars : List Char}
    (hname : tokenName token = "PREFIX".toList)
    (h : Support.Prefixes (tokenValue token) modes chars) :
    applyToken s token = s.withPrefixes modes chars := by
  rw [applyToken_of_prefixToken s hname, Support.applyPrefix_eq_ok_iff.mpr ⟨modes, chars, h, rfl⟩]

/-- A token that cannot be read leaves everything as it is. -/
theorem applyToken_of_malformed (s : Support) (h : MalformedPrefixes token) :
    applyToken s token = s := by
  rw [applyToken_of_prefixToken s h.1]
  split
  · rename_i s' hok
    obtain ⟨modes, chars, hprefixes, -⟩ := Support.applyPrefix_eq_ok_iff.mp hok
    exact absurd hprefixes (h.2 modes chars)
  · rfl

/-- It might as well not have been sent. -/
theorem foldl_applyToken_malformed (s : Support) (before after : List String)
    (h : MalformedPrefixes token) :
    (before ++ token :: after).foldl applyToken s = (before ++ after).foldl applyToken s := by
  rw [List.foldl_append, List.foldl_cons, applyToken_of_malformed _ h, ← List.foldl_append]

end Handling

/-! ## The table and the ranks -/

namespace Support

variable {s s' : Support} {modes chars : List Char} {c mode : Char}

/-- Whether the map takes each character to the letter in the same place of the rank. Where a
character has several places, the last of them counts. -/
structure Paired (s : Support) : Prop where
  length : s.prefixChars.length = s.prefixModes.length
  modeForPrefix : ∀ c mode, s.modeForPrefix c = some mode ↔
    ∃ before after, s.prefixChars.toList.zip s.prefixModes.toList = before ++ (c, mode) :: after ∧
      ∀ e ∈ after, e.1 ≠ c

theorem paired_withPrefixes (s : Support) (h : modes.length = chars.length) :
    (s.withPrefixes modes chars).Paired where
  length := by
    show (String.ofList chars).length = (String.ofList modes).length
    rw [String.length_ofList, String.length_ofList, h]
  modeForPrefix c mode := by
    show (Table.ofList (chars.zip modes)).get? c = some mode ↔ ∃ before after,
      (String.ofList chars).toList.zip (String.ofList modes).toList =
        before ++ (c, mode) :: after ∧ _
    rw [String.toList_ofList, String.toList_ofList]
    exact Table.get?_ofList_eq_some_iff

theorem paired_initial : initial.Paired :=
  paired_withPrefixes _ rfl

theorem Paired.congr (h : s.Paired) (hsame : s.SamePrefixes s') : s'.Paired where
  length := by rw [hsame.chars, hsame.modes, h.length]
  modeForPrefix c mode := by
    rw [hsame.chars, hsame.modes, Support.modeForPrefix, hsame.map]
    exact h.modeForPrefix c mode

/-- **Whatever a token says, the table and the ranks stay of one mind.** -/
theorem Paired.applyToken (h : s.Paired) (token : String) :
    (Handling.applyToken s token).Paired := by
  by_cases hname : tokenName token = "PREFIX".toList
  · rw [Handling.applyToken_of_prefixToken s hname]
    split
    · rename_i s' hok
      obtain ⟨modes, chars, hprefixes, rfl⟩ := applyPrefix_eq_ok_iff.mp hok
      exact paired_withPrefixes s hprefixes.length
    · exact h
  · exact h.congr (Handling.samePrefixes_applyToken s hname)

theorem Paired.foldl_applyToken : ∀ (tokens : List String) {s : Support}, s.Paired →
    (tokens.foldl Handling.applyToken s).Paired
  | [], _, h => h
  | token :: tokens, _, h => Paired.foldl_applyToken tokens (h.applyToken token)

/-! ## Back and forth -/

/-- Whether characters and letters lead to each other, each to one that leads back to it. -/
structure Inverse (s : Support) : Prop where
  iff : ∀ c mode, s.modeForPrefix c = some mode ↔ s.prefixForMode mode = some c
  char : ∀ c ∈ s.prefixChars.toList, ∃ mode ∈ s.prefixModes.toList, s.modeForPrefix c = some mode
  mode : ∀ mode ∈ s.prefixModes.toList, ∃ c ∈ s.prefixChars.toList, s.prefixForMode mode = some c

namespace Paired

theorem map_fst (h : s.Paired) :
    (s.prefixChars.toList.zip s.prefixModes.toList).map (·.1) = s.prefixChars.toList := by
  refine List.map_fst_zip ?_
  rw [String.length_toList, String.length_toList]
  exact Nat.le_of_eq h.length

theorem map_snd (h : s.Paired) :
    (s.prefixChars.toList.zip s.prefixModes.toList).map (·.2) = s.prefixModes.toList := by
  refine List.map_snd_zip ?_
  rw [String.length_toList, String.length_toList]
  exact Nat.le_of_eq h.length.symm

/-- Where no character has two places, the map is the pairs. -/
theorem modeForPrefix_iff_mem (h : s.Paired) (hchars : s.prefixChars.toList.Nodup) :
    s.modeForPrefix c = some mode ↔
      (c, mode) ∈ s.prefixChars.toList.zip s.prefixModes.toList := by
  rw [h.modeForPrefix]
  constructor
  · rintro ⟨before, after, hzip, -⟩
    rw [hzip]
    exact List.mem_append_right _ List.mem_cons_self
  · intro hmem
    obtain ⟨before, after, hzip⟩ := List.append_of_mem hmem
    have hnodup : ((before ++ (c, mode) :: after).map (·.1)).Nodup := by
      rw [← hzip, h.map_fst]
      exact hchars
    rw [List.map_append, List.map_cons] at hnodup
    have hrest := (List.nodup_cons.mp (List.nodup_append.mp hnodup).2.1).1
    exact ⟨before, after, hzip, fun e he heq => hrest (List.mem_map.mpr ⟨e, he, heq⟩)⟩

/-- Where no character and no letter has two places, the two directions are inverse. -/
theorem inverse (h : s.Paired) (hchars : s.prefixChars.toList.Nodup)
    (hmodes : s.prefixModes.toList.Nodup) : s.Inverse := by
  have hiff : ∀ c mode, s.modeForPrefix c = some mode ↔ s.prefixForMode mode = some c := by
    intro c mode
    constructor
    · intro hc
      have hentry : (c, mode) ∈ s.prefixMap.entries := Table.mem_entries_iff.mpr hc
      obtain ⟨e, hfind⟩ : ∃ e, s.prefixMap.entries.find? (·.2 = mode) = some e :=
        Option.isSome_iff_exists.mp (List.find?_isSome.mpr ⟨(c, mode), hentry, by simp⟩)
      have he : s.modeForPrefix e.1 = some e.2 :=
        Table.mem_entries_iff.mp (List.mem_of_find?_eq_some hfind)
      have hmode : e.2 = mode := by simpa using List.find?_some hfind
      -- two places of one letter would be two pairs
      have hpairs : ((s.prefixChars.toList.zip s.prefixModes.toList).map (·.2)).Nodup := by
        rw [h.map_snd]
        exact hmodes
      have heq : e = (c, mode) := List.inj_on_of_nodup_map hpairs
        ((h.modeForPrefix_iff_mem hchars).mp he) ((h.modeForPrefix_iff_mem hchars).mp hc) hmode
      rw [prefixForMode, hfind, heq]
      rfl
    · intro hmode
      obtain ⟨e, hfind, rfl⟩ := Option.map_eq_some_iff.mp hmode
      obtain rfl : e.2 = mode := by simpa using List.find?_some hfind
      exact Table.mem_entries_iff.mp (List.mem_of_find?_eq_some hfind)
  refine ⟨hiff, fun c hc => ?_, fun mode hmode => ?_⟩
  · rw [← h.map_fst] at hc
    obtain ⟨⟨c, mode⟩, hmem, rfl⟩ := List.mem_map.mp hc
    exact ⟨mode, (List.of_mem_zip hmem).2, (h.modeForPrefix_iff_mem hchars).mpr hmem⟩
  · rw [← h.map_snd] at hmode
    obtain ⟨⟨c, mode⟩, hmem, rfl⟩ := List.mem_map.mp hmode
    exact ⟨c, (List.of_mem_zip hmem).1,
      (hiff c mode).mp ((h.modeForPrefix_iff_mem hchars).mpr hmem)⟩

end Paired

end Support

/-! ## Lines -/

namespace Network

/-- The tokens that a step announces. -/
def Step.announced : Step → List String
  | .line _ msg => if msg.command = "005" then Handling.announcedTokens msg else []
  | .seed _ | .mark _ _ => []

theorem support_step (net : Network) (next : Step) :
    (net.step next).support = next.announced.foldl Handling.applyToken net.support := by
  cases next with
  | seed _ | mark _ _ => rfl
  | line p msg =>
      show (process p net msg).1.support = List.foldl _ _ (if _ then _ else _)
      split
      · rename_i hcommand
        rw [process_of_ofCommand? (v := .announcement) (by rw [hcommand]; rfl)]
        rfl
      · rename_i hcommand
        rw [(framed_process p net msg).support hcommand]
        rfl

/-- What is supported in the end is what the tokens make of it, one after another. -/
theorem support_run : ∀ (steps : List Step) (net : Network),
    (net.run steps).support =
      (steps.flatMap Step.announced).foldl Handling.applyToken net.support
  | [], _ => rfl
  | next :: steps, net => by
      show ((net.step next).run steps).support = _
      rw [support_run steps, support_step, List.flatMap_cons, List.foldl_append]

/--
**What is announced of prefixes is kept whole.** Whatever lines come in after one another: there
are as many prefix characters as mode letters, the map pairs them place by place, and where no
character and no letter comes twice, each leads to the other and back. A value is accepted if it
is empty or writes as many letters in parentheses as characters behind them; then these are in
force. A token that is refused for its value might as well not have been sent, and it does not
matter how the tokens are divided into lines.
-/
theorem prefixes_kept_whole (id : NetworkId) (label nickname : String) (steps : List Step) :
    let tokens := steps.flatMap Step.announced
    let s := ((new id label nickname).run steps).support
    s.Paired ∧
    (s.prefixChars.toList.Nodup → s.prefixModes.toList.Nodup → s.Inverse) ∧
    (∀ value, (∃ s', s.applyPrefix value = .ok s') ↔ value = "" ∨ ∃ modes chars,
      value.toList = '(' :: (modes ++ ')' :: chars) ∧ ')' ∉ modes ∧
        modes.length = chars.length) ∧
    (∀ before token modes chars, tokens = before ++ [token] →
      tokenName token = "PREFIX".toList → Support.Prefixes (tokenValue token) modes chars →
        s.prefixModes.toList = modes ∧ s.prefixChars.toList = chars) ∧
    (∀ before token after, tokens = before ++ token :: after → MalformedPrefixes token →
      ∀ id label nickname steps', steps'.flatMap Step.announced = before ++ after →
        ((new id label nickname).run steps').support = s) ∧
    ∀ id label nickname steps', steps'.flatMap Step.announced = tokens →
      ((new id label nickname).run steps').support = s := by
  intro tokens s
  have hs : s = tokens.foldl Handling.applyToken .initial := support_run steps _
  have hpaired : s.Paired := by
    rw [hs]
    exact .foldl_applyToken tokens Support.paired_initial
  refine ⟨hpaired, hpaired.inverse, fun value => ?_,
    fun before token modes chars htokens hname hprefixes => ?_,
    fun before token after htokens hmalformed id label nickname steps' hsteps => ?_,
    fun id label nickname steps' hsteps => ?_⟩
  · -- a value is accepted in one of two forms
    constructor
    · rintro ⟨s', hok⟩
      obtain ⟨modes, chars, hprefixes, -⟩ := Support.applyPrefix_eq_ok_iff.mp hok
      cases hprefixes with
      | none => exact .inl rfl
      | table hmodes hvalue hlength => exact .inr ⟨modes, chars, hvalue, hmodes, hlength⟩
    · rintro (rfl | ⟨modes, chars, hvalue, hmodes, hlength⟩)
      · exact ⟨_, Support.applyPrefix_eq_ok_iff.mpr ⟨[], [], .none, rfl⟩⟩
      · exact ⟨_, Support.applyPrefix_eq_ok_iff.mpr
          ⟨modes, chars, .table hmodes hvalue hlength, rfl⟩⟩
  · -- the last token of the name is in force, whatever came before it
    rw [hs, htokens, List.foldl_append, List.foldl_cons, List.foldl_nil,
      Handling.applyToken_of_prefixes _ hname hprefixes]
    exact ⟨String.toList_ofList, String.toList_ofList⟩
  · rw [support_run, hsteps, hs, htokens, Handling.foldl_applyToken_malformed _ _ _ hmalformed]
    rfl
  · rw [support_run, hsteps, hs]
    rfl

/-- A parenthesis among the characters, a value that cannot be read, and then both in one line. -/
theorem prefixes_kept_whole_parenthesis :
    let line args : Step := .line ⟨"1.0", "noon"⟩ ⟨[], none, "005", args⟩
    let steps := [line ["ada", "PREFIX=(qo)~)", "PREFIX=(h)%&", "are supported"],
      line ["ada", "CHANTYPES=#", "are supported"]]
    let s := ((new 1 "Libera" "ada").run steps).support
    s.prefixChars.toList.Nodup ∧ s.prefixModes.toList.Nodup ∧ s.Inverse ∧
    s.modeForPrefix ')' = some 'o' ∧ MalformedPrefixes "PREFIX=(h)%&" ∧
    ((new 1 "Libera" "ada").run
      [line ["ada", "PREFIX=(qo)~)", "CHANTYPES=#", "are supported"]]).support = s := by
  intro line steps s
  obtain ⟨-, hinverse, -, -, habsent, -⟩ := prefixes_kept_whole 1 "Libera" "ada" steps
  have hchars : s.prefixChars.toList.Nodup := by decide +kernel
  have hmodes : s.prefixModes.toList.Nodup := by decide +kernel
  have hmalformed : MalformedPrefixes "PREFIX=(h)%&" := by
    refine ⟨rfl, fun modes chars h => ?_⟩
    have hok := Support.applyPrefix_eq_ok_iff (s := .initial).mpr ⟨modes, chars, h, rfl⟩
    have herror : Support.initial.applyPrefix (tokenValue "PREFIX=(h)%&") =
        .error (.malformedPrefix "(h)%&") := rfl
    rw [herror] at hok
    cases hok
  refine ⟨hchars, hmodes, hinverse hchars hmodes, by decide +kernel, hmalformed, ?_⟩
  exact habsent ["PREFIX=(qo)~)"] "PREFIX=(h)%&" ["CHANTYPES=#"] rfl hmalformed 1 "Libera" "ada"
    [line ["ada", "PREFIX=(qo)~)", "CHANTYPES=#", "are supported"]] rfl

end Network

end IrcClient
