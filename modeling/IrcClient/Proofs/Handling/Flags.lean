import IrcClient.Handling.Modes

/-!
# Flag strings

The flags of a channel are set one by one, taken back one by one, or told all at once, by
letters that come in any order and any number of times. However it came about, a flag string is
no text at all, or a `+` with letters behind it that increase (`IsFlagString`). So there is one
text for each set of flags, and two of them can be compared as texts.
-/

namespace IrcClient.Handling

/-- Whether a text is a flag string: no text, or a `+` with letters in order behind it. -/
def IsFlagString (modes : String) : Prop :=
  modes = "" ∨ ∃ letters : List Char, letters ≠ [] ∧ modes = "+" ++ String.ofList letters ∧
    letters.Pairwise (·.toNat < ·.toNat) ∧ '+' ∉ letters

variable {modes : String}

theorem plus_notMem_flagLetters (modes : String) : '+' ∉ flagLetters modes := by
  simp [flagLetters]

/-- The letters of a flag string are those that stand behind the `+`. -/
theorem flagLetters_cons {letters : List Char} (h : '+' ∉ letters) :
    flagLetters ("+" ++ String.ofList letters) = letters := by
  have hfilter : letters.filter (· ≠ '+') = letters := by
    refine List.filter_eq_self.mpr fun c hc => decide_eq_true ?_
    rintro rfl
    exact h hc
  have hletters : (String.ofList letters).toList = letters := String.toList_ofList
  rw [flagLetters, String.toList_append, hletters, List.filter_append, hfilter]
  rfl

theorem IsFlagString.nodup (h : IsFlagString modes) : (flagLetters modes).Nodup := by
  obtain rfl | ⟨letters, -, rfl, hlt, hplus⟩ := h
  · exact List.nodup_nil
  · rw [flagLetters_cons hplus]
    refine hlt.imp fun hab => ?_
    rintro rfl
    exact Nat.lt_irrefl _ hab

/-- Letters are put in order; where none comes twice, each is less than the next. -/
theorem isFlagString_flagString {letters : List Char} (hnodup : letters.Nodup)
    (hplus : '+' ∉ letters) : IsFlagString (flagString letters) := by
  unfold flagString
  split
  · exact .inl rfl
  · rename_i hne
    have hperm : (letters.mergeSort fun a b => a.toNat ≤ b.toNat).Perm letters :=
      List.mergeSort_perm _ _
    have hsorted : (letters.mergeSort fun a b => a.toNat ≤ b.toNat).Pairwise
        fun a b => decide (a.toNat ≤ b.toNat) :=
      List.pairwise_mergeSort (by grind) (by grind) letters
    refine .inr ⟨_, fun h => hne ?_, rfl, ?_, fun h => hplus (hperm.mem_iff.mp h)⟩
    · rw [h] at hperm
      rw [hperm.symm.eq_nil]
      rfl
    · refine (hsorted.and (hperm.nodup_iff.mpr hnodup)).imp ?_
      rintro a b ⟨hle, hab⟩
      exact Nat.lt_of_le_of_ne (of_decide_eq_true hle) fun he => hab (Char.toNat_inj.mp he)

/-- A flag string in which a flag is set or unset is one again. -/
theorem IsFlagString.setFlag (h : IsFlagString modes) {mode : Char} (hmode : mode ≠ '+')
    (adding : Bool) : IsFlagString (setFlag modes mode adding) := by
  have hplus : '+' ∉ flagLetters modes := plus_notMem_flagLetters modes
  unfold Handling.setFlag
  dsimp only
  split
  · exact h
  · rename_i hchange
    split
    · rename_i hadding
      have hnew : mode ∉ flagLetters modes := by simpa [hadding] using hchange
      refine isFlagString_flagString (List.nodup_append.mpr ⟨h.nodup, by simp, ?_⟩) ?_
      · rintro a ha b hb rfl
        rw [List.mem_singleton.mp hb] at ha
        exact hnew ha
      · simp [hplus, Ne.symm hmode]
    · refine isFlagString_flagString (h.nodup.filter _) fun hmem => hplus ?_
      exact (List.mem_filter.mp hmem).1

end IrcClient.Handling
