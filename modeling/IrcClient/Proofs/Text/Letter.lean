import IrcClient.Text.Blank
import IrcClient.Text.Letter
import Mathlib

/-!
# Letters in upper case

Writing letters in upper case changes letters only, and makes letters of them. So no class of
characters in which there are no letters is left or entered by it (`toUpper_of_letterless`):
blanks, line breaks and marks of punctuation stay what they are.
-/

namespace IrcClient

theorem isAlpha_iff (c : Char) : c.isAlpha = true ↔
    65 ≤ c.toNat ∧ c.toNat ≤ 90 ∨ 97 ≤ c.toNat ∧ c.toNat ≤ 122 := by
  have hupper : c.isUpper = true ↔ 65 ≤ c.toNat ∧ c.toNat ≤ 90 := by
    show decide (65 ≤ c.val ∧ c.val ≤ 90) = true ↔ _
    rw [decide_eq_true_eq]
    exact Iff.rfl
  have hlower : c.isLower = true ↔ 97 ≤ c.toNat ∧ c.toNat ≤ 122 := by
    show (decide (97 ≤ c.val) && decide (c.val ≤ 122)) = true ↔ _
    rw [Bool.and_eq_true, decide_eq_true_eq, decide_eq_true_eq]
    exact Iff.rfl
  rw [← hupper, ← hlower, ← Bool.or_eq_true]
  exact Iff.rfl

/-- A class of characters without letters. -/
def Letterless (p : Char → Bool) : Prop :=
  ∀ c, c.isAlpha = true → p c = false

theorem toUpper_of_letterless {p : Char → Bool} (h : Letterless p) (c : Char) :
    p c.toUpper = p c := by
  by_cases hc : c.isAlpha = true
  · rw [h c hc, h c.toUpper (c.isAlpha_toUpper_eq_isAlpha.trans hc)]
  · have hlower : ¬c.isLower = true := by
      intro hlower
      exact hc (by rw [Char.isAlpha, hlower, Bool.or_true])
    rw [Char.toUpper_eq_of_not_isLower hlower]

theorem letterless_isBlank : Letterless isBlank := by
  intro c hc
  rw [isAlpha_iff] at hc
  simp only [isBlank, Bool.or_eq_false_iff, Bool.and_eq_false_iff, decide_eq_false_iff_not,
    beq_eq_false_iff_ne]
  omega

theorem letterless_beq {x : Char} (hx : x.isAlpha = false) : Letterless (· == x) := by
  rintro c hc
  rw [beq_eq_false_iff_ne]
  rintro rfl
  exact absurd (hc.symm.trans hx) (by decide)

theorem letterless_isLineBreak : Letterless isLineBreak := by
  intro c hc
  rw [isLineBreak, Bool.or_eq_false_iff]
  exact ⟨letterless_beq (by decide) c hc, letterless_beq (by decide) c hc⟩

/-- A character that is no letter is nothing but itself in upper case. -/
theorem toUpper_eq_iff {x : Char} (hx : x.isAlpha = false) (c : Char) :
    c.toUpper = x ↔ c = x := by
  rw [← beq_iff_eq, toUpper_of_letterless (letterless_beq hx), beq_iff_eq]

/-! ## Texts -/

theorem toList_upper (s : String) : (upper s).toList = s.toList.map Char.toUpper := by
  rw [upper, String.toList_ofList]

theorem upper_upper (s : String) : upper (upper s) = upper s := by
  rw [← String.toList_inj, toList_upper, toList_upper, List.map_map]
  exact List.map_congr_left fun c _ => c.toUpper_toUpper_eq_toUpper

end IrcClient
