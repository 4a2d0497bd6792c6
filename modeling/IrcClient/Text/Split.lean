/-!
# Cutting lists at separators

Protocol text is taken apart at single characters: at the first one (`cut?`), at
every one (`pieces`), or at runs of them (`words`). All three work on lists, so
that the same lemmas serve characters and bytes.
-/

namespace IrcClient

variable {α : Type} [DecidableEq α]

/-- What comes before the first `c`, and what comes after it. -/
def cut? (c : α) : List α → Option (List α × List α)
  | [] => none
  | x :: rest => if x = c then some ([], rest) else (cut? c rest).map fun p => (x :: p.1, p.2)

/-- The pieces between the occurrences of `c`: one more of them than there are of `c`. -/
def pieces (c : α) : List α → List (List α)
  | [] => [[]]
  | x :: rest =>
    if x = c then [] :: pieces c rest
    else match pieces c rest with
      | [] => [[x]]
      | p :: ps => (x :: p) :: ps

/-- The longest pieces that hold no separator, the empty ones left out. -/
def words (isSeparator : α → Bool) (l : List α) : List (List α) :=
  go [] l
where
  /-- Reads on with the current word, reversed, in hand. -/
  go (word : List α) : List α → List (List α)
    | [] => if word.isEmpty then [] else [word.reverse]
    | x :: rest =>
      if isSeparator x then
        if word.isEmpty then go [] rest else word.reverse :: go [] rest
      else go (x :: word) rest

/-- The list without the longest end whose members all satisfy `p`. -/
def dropEndWhile (p : α → Bool) (l : List α) : List α :=
  (l.reverse.dropWhile p).reverse

/-- The list without its last member, if that is `c`. -/
def dropLast? (c : α) (l : List α) : Option (List α) :=
  if l.getLast? = some c then some l.dropLast else none

/-- The rest of a list that begins as `beginning` does. -/
def rest? : List α → List α → Option (List α)
  | [], l => some l
  | _ :: _, [] => none
  | b :: bs, x :: xs => if b = x then rest? bs xs else none

/-- The list cut into blocks of `n`, the last of which may be shorter. -/
def blocks (n : Nat) (l : List α) : List (List α) :=
  if h : l = [] ∨ n = 0 then [] else
    have : (l.drop n).length < l.length := by
      have := List.length_pos_iff.mpr (not_or.mp h).1
      rw [List.length_drop]
      omega
    l.take n :: blocks n (l.drop n)
termination_by l.length

theorem cut?_eq_some_iff {c : α} : ∀ {l a b : List α},
    cut? c l = some (a, b) ↔ l = a ++ c :: b ∧ c ∉ a
  | [], a, b => by simp [cut?]
  | x :: rest, a, b => by
    unfold cut?
    split
    · rename_i hx
      subst hx
      cases a with
      | nil => simp
      | cons y a => simp; rintro rfl; simp
    · rename_i hx
      rw [Option.map_eq_some_iff]
      constructor
      · rintro ⟨⟨a', b'⟩, h, he⟩
        obtain ⟨hr, hc⟩ := cut?_eq_some_iff.mp h
        simp only [Prod.mk.injEq] at he
        obtain ⟨rfl, rfl⟩ := he
        simp [hr, hc, Ne.symm hx]
      · rintro ⟨h, hc⟩
        cases a with
        | nil => simp at h; exact absurd h.1 hx
        | cons y a =>
          simp only [List.cons_append, List.cons.injEq] at h
          simp only [List.mem_cons, not_or] at hc
          refine ⟨(a, b), cut?_eq_some_iff.mpr ⟨h.2, hc.2⟩, ?_⟩
          rw [h.1]

theorem cut?_eq_none_iff {c : α} : ∀ {l : List α}, cut? c l = none ↔ c ∉ l
  | [] => by simp [cut?]
  | x :: rest => by
    unfold cut?
    split
    · rename_i hx
      simp [hx]
    · rename_i hx
      simp [cut?_eq_none_iff, Ne.symm hx]

theorem pieces_ne_nil (c : α) : ∀ l : List α, pieces c l ≠ []
  | [] => by simp [pieces]
  | x :: rest => by
    unfold pieces
    split
    · simp
    · split <;> simp

end IrcClient
