import IrcClient.Proofs.Network.Prefixes
import IrcClient.Proofs.Text.Split

/-!
# Nicknames and the marks in front of them

In a list of members every nickname has the prefix characters of its modes in front of it, in
whatever order the server likes, and perhaps an address behind it. To take such a token apart is to
undo that: the nickname comes out, and the modes, each of them once and the higher ones first
(`prefixing_undone`).

The scan stops in the right place because the map knows exactly the characters that are announced
(`Paired.contains_iff`). What it collects on the way is sorted, and that is a matter of which
letters there are (`sortPrefixModes_eq_iff`), so the order of the characters and their number are
forgotten.
-/

namespace IrcClient

namespace Support

variable {s : Support} {a b modes marks nick suffix : String} {asked : Char → Prop} {c mode : Char}

/-! ## Letters in their rank -/

/-- The place of a letter in the rank. The highest one has place `0`. -/
def rank (s : Support) (mode : Char) : Nat :=
  s.prefixModes.toList.idxOf mode

/-- Whether a text is made of the letters asked for, each of them once and the higher ones first. -/
structure InRank (s : Support) (asked : Char → Prop) (modes : String) : Prop where
  mem : ∀ mode, mode ∈ modes.toList ↔ asked mode
  once : modes.toList.Nodup
  ranked : modes.toList.Pairwise fun a b => s.rank a < s.rank b

/-- There is one such text at most. -/
theorem InRank.unique (ha : s.InRank asked a) (hb : s.InRank asked b) : a = b := by
  have hperm : a.toList.Perm b.toList :=
    (List.perm_ext_iff_of_nodup ha.once hb.once).mpr fun mode =>
      (ha.mem mode).trans (hb.mem mode).symm
  refine String.toList_injective (hperm.eq_of_pairwise (fun x y _ _ hxy hyx => ?_)
    ha.ranked hb.ranked)
  exact absurd hyx (Nat.lt_asymm hxy)

theorem mem_sortPrefixModes : mode ∈ (s.sortPrefixModes modes).toList ↔
    s.isPrefixMode mode = true ∧ mode ∈ modes.toList := by
  rw [toList_sortPrefixModes, List.mem_filter, List.contains_iff_mem, isPrefixMode,
    List.contains_iff_mem]

/-- Two texts are sorted alike if they have the same modes in them, and only then. -/
theorem sortPrefixModes_eq_iff : s.sortPrefixModes a = s.sortPrefixModes b ↔
    ∀ mode, s.isPrefixMode mode = true → (mode ∈ a.toList ↔ mode ∈ b.toList) := by
  constructor
  · intro h mode hmode
    have hmem : mode ∈ (s.sortPrefixModes a).toList ↔ mode ∈ (s.sortPrefixModes b).toList := by
      rw [h]
    rw [mem_sortPrefixModes, mem_sortPrefixModes] at hmem
    simpa only [hmode, true_and] using hmem
  · intro h
    refine String.toList_injective ?_
    rw [toList_sortPrefixModes, toList_sortPrefixModes]
    refine List.filter_congr fun mode hmode => ?_
    rw [Bool.eq_iff_iff, List.contains_iff_mem, List.contains_iff_mem]
    exact h mode (List.contains_iff_mem.mpr hmode)

/-- Where no letter has two places, the letters are announced in the order of their places. -/
theorem pairwise_rank (hmodes : s.prefixModes.toList.Nodup) :
    s.prefixModes.toList.Pairwise fun a b => s.rank a < s.rank b := by
  refine List.pairwise_iff_getElem.mpr fun i j hi hj hij => ?_
  rw [rank, rank, hmodes.idxOf_getElem i hi, hmodes.idxOf_getElem j hj]
  exact hij

theorem inRank_sortPrefixModes (hmodes : s.prefixModes.toList.Nodup) (modes : String) :
    s.InRank (fun mode => s.isPrefixMode mode = true ∧ mode ∈ modes.toList)
      (s.sortPrefixModes modes) where
  mem _ := mem_sortPrefixModes
  once := hmodes.sublist (s.ranked_sortPrefixModes modes).sublist
  ranked := (pairwise_rank hmodes).sublist (s.ranked_sortPrefixModes modes).sublist

/-! ## Prefixes in force -/

/-- Whether the prefixes in force are those of a value that was accepted. -/
def PrefixesAccepted (s : Support) : Prop :=
  ∃ (before accepted : Support) (value : String),
    before.applyPrefix value = .ok accepted ∧ accepted.SamePrefixes s

theorem PrefixesAccepted.paired (h : s.PrefixesAccepted) : s.Paired := by
  obtain ⟨before, accepted, value, haccepted, hsame⟩ := h
  obtain ⟨modes, chars, hprefixes, rfl⟩ := applyPrefix_eq_ok_iff.mp haccepted
  exact (paired_withPrefixes before hprefixes.length).congr hsame

theorem prefixesAccepted_initial : initial.PrefixesAccepted :=
  ⟨initial, initial, "(ov)@+", rfl, ⟨rfl, rfl, rfl⟩⟩

theorem PrefixesAccepted.applyToken (h : s.PrefixesAccepted) (token : String) :
    (Handling.applyToken s token).PrefixesAccepted := by
  by_cases hname : tokenName token = "PREFIX".toList
  · rw [Handling.applyToken_of_prefixToken s hname]
    split
    · rename_i accepted haccepted
      exact ⟨s, accepted, tokenValue token, haccepted, ⟨rfl, rfl, rfl⟩⟩
    · exact h
  · obtain ⟨before, accepted, value, haccepted, hsame⟩ := h
    have hkept := Handling.samePrefixes_applyToken s hname
    exact ⟨before, accepted, value, haccepted, hkept.map.trans hsame.map,
      hkept.chars.trans hsame.chars, hkept.modes.trans hsame.modes⟩

theorem PrefixesAccepted.foldl_applyToken : ∀ (tokens : List String) {s : Support},
    s.PrefixesAccepted → (tokens.foldl Handling.applyToken s).PrefixesAccepted
  | [], _, h => h
  | token :: tokens, _, h => PrefixesAccepted.foldl_applyToken tokens (h.applyToken token)

/-- Whatever lines come in, there are no prefixes in force but accepted ones. -/
theorem prefixesAccepted_run (id : NetworkId) (label nickname : String)
    (steps : List Network.Step) :
    ((Network.new id label nickname).run steps).support.PrefixesAccepted := by
  rw [Network.support_run]
  exact .foldl_applyToken _ prefixesAccepted_initial

/-- Where no character and no letter has two places, the map knows the characters announced. -/
theorem Paired.contains_iff (h : s.Paired) (hchars : s.prefixChars.toList.Nodup)
    (hmodes : s.prefixModes.toList.Nodup) :
    s.prefixMap.contains c = true ↔ c ∈ s.prefixChars.toList := by
  rw [Table.contains, Option.isSome_iff_exists]
  constructor
  · rintro ⟨mode, hmode⟩
    exact (List.of_mem_zip ((h.modeForPrefix_iff_mem hchars).mp hmode)).1
  · intro hc
    obtain ⟨mode, -, hmode⟩ := (h.inverse hchars hmodes).char c hc
    exact ⟨mode, hmode⟩

/-! ## Tokens -/

/--
Whether a server can write a member so: some prefix characters, the nickname, and perhaps an address
behind a `!`. The nickname begins where the prefix characters end.
-/
structure WritesMember (s : Support) (marks nick suffix : String) : Prop where
  marks : ∀ c ∈ marks.toList, c ∈ s.prefixChars.toList
  nonempty : nick ≠ ""
  begins : ∀ c ∈ nick.toList.head?, c ∉ s.prefixChars.toList
  plain : '!' ∉ nick.toList
  suffix : ∃ address, suffix.toList = behind '!' address

/-- A letter that one of some prefix characters stands for: the two have the same place. -/
def MarkedBy (s : Support) (marks : String) (mode : Char) : Prop :=
  ∃ c ∈ marks.toList, (c, mode) ∈ s.prefixChars.toList.zip s.prefixModes.toList

/-- The scan stops where the nickname begins, and the nickname ends where the address begins. -/
theorem splitNamesToken_of_writesMember
    (hmap : ∀ c, s.prefixMap.contains c = true ↔ c ∈ s.prefixChars.toList)
    (h : s.WritesMember marks nick suffix) :
    s.splitNamesToken (marks ++ nick ++ suffix) =
      (s.sortPrefixModes (String.ofList (marks.toList.filterMap s.modeForPrefix)), nick) := by
  obtain ⟨address, hsuffix⟩ := h.suffix
  -- behind an empty nickname the scan would go on, where `!` is a prefix character
  obtain ⟨c, rest, hnick⟩ := List.exists_cons_of_ne_nil (mt String.toList_eq_nil_iff.mp h.nonempty)
  have hmarks : ∀ c ∈ marks.toList, s.prefixMap.contains c = true :=
    fun c hc => (hmap c).mpr (h.marks c hc)
  have hstop : ¬s.prefixMap.contains c = true := by
    rw [hmap]
    exact h.begins c (by rw [hnick, List.head?_cons]; rfl)
  have htoken : (marks ++ nick ++ suffix).toList =
      marks.toList ++ (nick.toList ++ behind '!' address) := by
    rw [String.toList_append, String.toList_append, hsuffix, List.append_assoc]
  have htake : (marks ++ nick ++ suffix).toList.takeWhile s.prefixMap.contains = marks.toList := by
    rw [htoken, hnick, List.cons_append, List.takeWhile_append_of_pos hmarks,
      List.takeWhile_cons_of_neg hstop, List.append_nil]
  have hdrop : (marks ++ nick ++ suffix).toList.dropWhile s.prefixMap.contains =
      nick.toList ++ behind '!' address := by
    rw [htoken, hnick, List.cons_append, List.dropWhile_append_of_pos hmarks,
      List.dropWhile_cons_of_neg hstop]
  have hcut : ((cut? '!' (nick.toList ++ behind '!' address)).map (·.1)).getD
      (nick.toList ++ behind '!' address) = nick.toList := by
    rw [cut?_behind h.plain]
    cases address with
    | none => exact List.append_nil _
    | some address => rfl
  rw [splitNamesToken, htake, hdrop, hcut, String.ofList_toList]

/-- What the scan collects are the letters in the places of the characters. -/
theorem Paired.inRank_marks (h : s.Paired) (hchars : s.prefixChars.toList.Nodup)
    (hmodes : s.prefixModes.toList.Nodup) (marks : String) :
    s.InRank (s.MarkedBy marks)
      (s.sortPrefixModes (String.ofList (marks.toList.filterMap s.modeForPrefix))) := by
  have hsorted := inRank_sortPrefixModes hmodes
    (String.ofList (marks.toList.filterMap s.modeForPrefix))
  refine ⟨fun mode => ?_, hsorted.once, hsorted.ranked⟩
  -- no character has two places, so the map can be asked for the letter in its place
  rw [hsorted.mem, String.toList_ofList, List.mem_filterMap]
  constructor
  · rintro ⟨-, c, hc, hmode⟩
    exact ⟨c, hc, (h.modeForPrefix_iff_mem hchars).mp hmode⟩
  · rintro ⟨c, hc, hpair⟩
    exact ⟨List.contains_iff_mem.mpr (List.of_mem_zip hpair).2, c, hc,
      (h.modeForPrefix_iff_mem hchars).mpr hpair⟩

/--
**Taking a token apart undoes prefixing.** Where the announced characters and letters are distinct,
a token that is made of prefix characters, in any order and any number, a nickname and perhaps an
address comes apart into that nickname and the letters of these characters, each once and the higher
ones first, and into nothing else. Sorting letters a second time changes nothing, and how they are
sorted depends on which of the prefix modes are among them and on nothing else.
-/
theorem prefixing_undone (s : Support) :
    (s.PrefixesAccepted → s.prefixChars.toList.Nodup → s.prefixModes.toList.Nodup →
      ∀ marks nick suffix, s.WritesMember marks nick suffix → ∀ modes who,
        s.splitNamesToken (marks ++ nick ++ suffix) = (modes, who) ↔
          s.InRank (s.MarkedBy marks) modes ∧ who = nick) ∧
    (∀ modes, s.sortPrefixModes (s.sortPrefixModes modes) = s.sortPrefixModes modes) ∧
    ∀ a b, s.sortPrefixModes a = s.sortPrefixModes b ↔
      ∀ mode, s.isPrefixMode mode = true → (mode ∈ a.toList ↔ mode ∈ b.toList) := by
  refine ⟨fun haccepted hchars hmodes marks nick suffix hwritten modes who => ?_,
    s.ranked_sortPrefixModes, fun a b => sortPrefixModes_eq_iff⟩
  have hpaired := haccepted.paired
  have hmarked := hpaired.inRank_marks hchars hmodes marks
  rw [splitNamesToken_of_writesMember (fun _ => hpaired.contains_iff hchars hmodes) hwritten,
    Prod.mk.injEq]
  constructor
  · rintro ⟨rfl, rfl⟩
    exact ⟨hmarked, rfl⟩
  · rintro ⟨hread, rfl⟩
    exact ⟨hmarked.unique hread, rfl⟩

/-- A network where the sign in front of an address is a prefix character as well. -/
theorem prefixing_undone_ambiguous :
    let line : Message := ⟨[], none, "005", ["ada", "PREFIX=(yqov)!♛@+", "are supported"]⟩
    let s := ((Network.new 1 "Libera" "ada").run [.line ⟨"1.0", "noon"⟩ line]).support
    s.PrefixesAccepted ∧ s.prefixChars.toList.Nodup ∧ s.prefixModes.toList.Nodup ∧
    s.WritesMember "+!♛+" "grace" "!grace@host" ∧
    s.InRank (s.MarkedBy "+!♛+") "yqv" ∧
    s.splitNamesToken "+!♛+grace!grace@host" = ("yqv", "grace") := by
  intro line s
  have haccepted : s.PrefixesAccepted := prefixesAccepted_run 1 "Libera" "ada" _
  have hchars : s.prefixChars.toList.Nodup := by decide +kernel
  have hmodes : s.prefixModes.toList.Nodup := by decide +kernel
  have hprefixes : s.prefixChars = "!♛@+" := by decide +kernel
  have hwritten : s.WritesMember "+!♛+" "grace" "!grace@host" := by
    refine ⟨?_, by decide, ?_, by decide +kernel, some "grace@host".toList, by decide +kernel⟩
    · rw [hprefixes]
      simp
    · rw [hprefixes]
      simp
  have hsplit : s.splitNamesToken "+!♛+grace!grace@host" = ("yqv", "grace") := by decide +kernel
  have hundone := (prefixing_undone s).1 haccepted hchars hmodes _ _ _ hwritten "yqv" "grace"
  exact ⟨haccepted, hchars, hmodes, hwritten, (hundone.mp hsplit).1, hsplit⟩

end Support

end IrcClient
