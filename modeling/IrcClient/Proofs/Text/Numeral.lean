import IrcClient.Text.Numeral

/-!
# What a numeral stands for

A count is read from its decimal digits, which may be led by zeros or by a plus sign, and from
nothing else (`parseCount_eq_some_iff`). The digits that a number is written with are one of
its numerals (`isNumeral_toString`).
-/

namespace IrcClient

/-- A text is a numeral of a number: decimal digits, with a plus sign in front if it likes. -/
def IsNumeral (text : String) (n : Nat) : Prop :=
  ∃ digits : List Char, (text.toList = digits ∨ text.toList = '+' :: digits) ∧ digits ≠ [] ∧
    (∀ c ∈ digits, c.isDigit = true) ∧ Nat.ofDigitChars 10 digits 0 = n

theorem digitsFrom_eq_some_iff : ∀ {digits : List Char} {acc n : Nat},
    digitsFrom acc digits = some n ↔
      (∀ c ∈ digits, c.isDigit = true) ∧ Nat.ofDigitChars 10 digits acc = n
  | [], acc, n => by simp [digitsFrom]
  | c :: rest, acc, n => by
    unfold digitsFrom digit?
    split
    · rename_i h
      simp [h, digitsFrom_eq_some_iff, Nat.ofDigitChars_cons]
    · rename_i h
      simp [h]

theorem digits?_eq_some_iff {digits : List Char} {n : Nat} :
    digits? digits = some n ↔
      digits ≠ [] ∧ (∀ c ∈ digits, c.isDigit = true) ∧ Nat.ofDigitChars 10 digits 0 = n := by
  cases digits with
  | nil => simp [digits?]
  | cons c rest => rw [digits?, digitsFrom_eq_some_iff, and_iff_right (List.cons_ne_nil c rest)]

theorem parseCount_eq_some_iff {bound n : Nat} {text : String} :
    parseCount bound text.toList = some n ↔ IsNumeral text n ∧ n < bound := by
  have hplus : ('+' : Char).isDigit = false := by decide
  unfold parseCount
  rw [Option.filter_eq_some_iff, decide_eq_true_eq]
  refine and_congr_left fun _ => ?_
  split
  · rename_i rest h
    rw [digits?_eq_some_iff, IsNumeral, h]
    constructor
    · exact fun hd => ⟨rest, .inr rfl, hd⟩
    · rintro ⟨digits, rfl | hd, hdigits⟩
      · exact absurd (hdigits.2.1 '+' List.mem_cons_self) (by simp [hplus])
      · cases hd
        exact hdigits
  · rename_i h
    rw [digits?_eq_some_iff, IsNumeral]
    constructor
    · exact fun hd => ⟨text.toList, .inl rfl, hd⟩
    · rintro ⟨digits, hd | hd, hdigits⟩
      · rwa [hd]
      · exact absurd hd (h digits)

/-- A number is read back from the digits that it is written with. -/
theorem isNumeral_toString (n : Nat) : IsNumeral (toString n) n := by
  refine ⟨Nat.toDigits 10 n, .inl ?_, Nat.toDigits_ne_nil, ?_, Nat.ofDigitChars_ten_toDigits⟩
  · rw [Nat.toString_eq_ofList_toDigits, String.toList_ofList]
  · exact fun c hc => Nat.isDigit_of_mem_toDigits (by decide) (by decide) hc

theorem IsNumeral.comma_notMem {text : String} {n : Nat} (h : IsNumeral text n) :
    ',' ∉ text.toList := by
  obtain ⟨digits, hd | hd, -, hdigit, -⟩ := h
  · rw [hd]
    exact fun hc => absurd (hdigit ',' hc) (by decide)
  · rw [hd, List.mem_cons, not_or]
    exact ⟨by decide, fun hc => absurd (hdigit ',' hc) (by decide)⟩

end IrcClient
