import IrcClient.Message
import IrcClient.Proofs.Text.Split

/-!
# Lines of tokens

A line is made of tokens with spaces between them (`Spaced`), and how many spaces there are does
not matter. A token is taken off the front of a line together with the spaces behind it
(`token?_spaced`), and what is left does not begin with a blank.
-/

namespace IrcClient

/-- Tokens in a row, with one space or more between each and the next. -/
inductive Spaced : List (List Char) → List Char → Prop where
  | last (token : List Char) : Spaced [token] token
  | more (token : List Char) (extra : Nat) {tokens : List (List Char)} {line : List Char}
      (h : Spaced tokens line) :
      Spaced (token :: tokens) (token ++ ' ' :: (List.replicate extra ' ' ++ line))

variable {token : List Char} {tokens : List (List Char)} {line : List Char}

theorem Spaced.eq_of_singleton (h : Spaced [token] line) : line = token := by
  cases h with
  | last => rfl
  | more _ _ h => cases h

theorem Spaced.exists_rest (h : Spaced (token :: tokens) line) (hne : tokens ≠ []) :
    ∃ extra rest, line = token ++ ' ' :: (List.replicate extra ' ' ++ rest) ∧
      Spaced tokens rest := by
  cases h with
  | last => exact absurd rfl hne
  | more _ extra h => exact ⟨extra, _, rfl, h⟩

/-- A line begins as its first token does. -/
theorem Spaced.head?_eq (h : Spaced (token :: tokens) line) (hne : token ≠ []) :
    line.head? = token.head? := by
  cases h with
  | last => rfl
  | more _ extra h =>
    cases token with
    | nil => exact absurd rfl hne
    | cons => rfl

/-- A line holds what its tokens hold, and spaces. -/
theorem Spaced.mem_iff {x : Char} (hx : x ≠ ' ') (h : Spaced tokens line) :
    x ∈ line ↔ ∃ token ∈ tokens, x ∈ token := by
  induction h with
  | last token => simp
  | more token extra h ih => simp [hx, ih]

/-- There is a line break in a line only where there is one in a token. -/
theorem Spaced.noBreak_iff (h : Spaced tokens line) : (∀ c ∈ line, isLineBreak c = false) ↔
    ∀ token ∈ tokens, ∀ c ∈ token, isLineBreak c = false := by
  constructor
  · intro hline token htoken c hc
    by_cases hspace : c = ' '
    · rw [hspace]
      decide
    · exact hline c ((h.mem_iff hspace).mpr ⟨token, htoken, hc⟩)
  · intro htokens c hc
    by_cases hspace : c = ' '
    · rw [hspace]
      decide
    · obtain ⟨token, htoken, hc⟩ := (h.mem_iff hspace).mp hc
      exact htokens token htoken c hc

/-- A text that does not begin with a blank. -/
def Begun (s : List Char) : Prop :=
  ∀ c, s.head? = some c → isBlank c = false

theorem begun_dropBlanks (s : List Char) : Begun (dropBlanks s) := by
  intro c hc
  have := List.head?_dropWhile_not isBlank s
  rw [dropBlanks] at hc
  rw [hc] at this
  exact this

theorem dropBlanks_eq_self {s : List Char} (h : Begun s) : dropBlanks s = s := by
  cases s with
  | nil => rfl
  | cons c s => rw [dropBlanks, List.dropWhile_cons_of_neg (by simp [h c rfl])]

theorem dropBlanks_spaces (k : Nat) {s : List Char} (h : Begun s) :
    dropBlanks (List.replicate k ' ' ++ s) = s := by
  rw [dropBlanks, List.dropWhile_append_of_pos, ← dropBlanks, dropBlanks_eq_self h]
  intro c hc
  rw [List.eq_of_mem_replicate hc]
  decide

theorem dropEndWhile_of_getLast? {ending : List Char}
    (hlast : ∀ c ∈ line.getLast?, isLineBreak c = false)
    (hending : ∀ c ∈ ending, isLineBreak c = true) :
    dropEndWhile isLineBreak (line ++ ending) = line := by
  rw [dropEndWhile, List.reverse_append, List.dropWhile_append_of_pos (by simpa using hending)]
  cases hr : line.reverse with
  | nil => simpa using hr.symm
  | cons c rest =>
    have hc : isLineBreak c = false := hlast c (by rw [← List.head?_reverse, hr]; rfl)
    rw [List.dropWhile_cons_of_neg (by simp [hc]), ← hr, List.reverse_reverse]

/-- Line breaks at the end are not part of a line that has none. -/
theorem dropEndWhile_lineBreaks {ending : List Char}
    (hline : ∀ c ∈ line, isLineBreak c = false) (hending : ∀ c ∈ ending, isLineBreak c = true) :
    dropEndWhile isLineBreak (line ++ ending) = line :=
  dropEndWhile_of_getLast? (fun c hc => hline c (List.mem_of_getLast? hc)) hending

theorem token?_spaced (hspace : ' ' ∉ token) (extra : Nat) {rest : List Char} (h : Begun rest) :
    token? (token ++ ' ' :: (List.replicate extra ' ' ++ rest)) = some (token, rest) := by
  rw [token?, cut?_eq_some_iff.mpr ⟨rfl, hspace⟩, Option.map_some, dropBlanks_spaces extra h]

/-- A token goes up to a space, and what is read next does not begin with a blank. -/
theorem token?_eq_some {s rest : List Char} (h : token? s = some (token, rest)) :
    ' ' ∉ token ∧ Begun rest ∧ ∃ blanks, s = token ++ ' ' :: blanks ∧ ∀ c ∈ rest, c ∈ blanks := by
  obtain ⟨⟨token', blanks⟩, hc, he⟩ := Option.map_eq_some_iff.mp h
  cases he
  obtain ⟨rfl, hspace⟩ := cut?_eq_some_iff.mp hc
  exact ⟨hspace, begun_dropBlanks blanks, blanks, rfl, fun c => (List.dropWhile_sublist _).mem⟩

end IrcClient
