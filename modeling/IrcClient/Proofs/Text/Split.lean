import IrcClient.Text.Split

/-!
# Pieces and what they were cut from

Cutting at a separator and putting the separator back between the pieces are inverse to each
other (`pieces_eq_iff`), on the pieces that the separator is not in. The other ways of cutting
are told apart in the same way: by what the pieces make up, and by where the cut is.
-/

namespace IrcClient

variable {α : Type}

/-- A separator and what stands behind it, or nothing at all. -/
def behind (c : α) (tail : Option (List α)) : List α :=
  (tail.map (c :: ·)).getD []

@[simp] theorem behind_none (c : α) : behind c none = [] := rfl

@[simp] theorem behind_some (c : α) (tail : List α) : behind c (some tail) = c :: tail := rfl

theorem mem_behind {c x : α} {tail : Option (List α)} :
    x ∈ behind c tail ↔ ∃ b ∈ tail, x = c ∨ x ∈ b := by
  cases tail with
  | none => simp
  | some b => simp

theorem mem_intercalate {c x : α} : ∀ {ps : List (List α)}, x ∈ [c].intercalate ps →
    x = c ∨ ∃ p ∈ ps, x ∈ p
  | [], h => absurd h (by simp)
  | [p], h => by
    rw [List.intercalate_singleton] at h
    exact .inr ⟨p, List.mem_cons_self, h⟩
  | p :: q :: ps, h => by
    rw [List.intercalate_cons_cons, List.mem_append, List.mem_append, List.mem_singleton] at h
    obtain (h | h) | h := h
    · exact .inr ⟨p, List.mem_cons_self, h⟩
    · exact .inl h
    · exact (mem_intercalate h).imp_right fun ⟨r, hr, hx⟩ => ⟨r, List.mem_cons_of_mem p hr, hx⟩

theorem mem_intercalate_of_mem {c x : α} : ∀ {ps : List (List α)} {p : List α}, p ∈ ps → x ∈ p →
    x ∈ [c].intercalate ps
  | [p], _, h, hx => by
    rw [List.intercalate_singleton, ← List.mem_singleton.mp h]
    exact hx
  | p :: q :: ps, _, h, hx => by
    rw [List.intercalate_cons_cons, List.mem_append, List.mem_append]
    obtain rfl | h := List.mem_cons.mp h
    · exact .inl (.inl hx)
    · exact .inr (mem_intercalate_of_mem h hx)

variable [DecidableEq α]

/-! ## Pieces -/

theorem pieces_eq_splitOn (c : α) : ∀ l : List α, pieces c l = l.splitOn c
  | [] => by rw [pieces, List.splitOn_nil]
  | x :: rest => by
    rw [pieces, List.splitOn_cons_eq_if_modifyHead, pieces_eq_splitOn c rest]
    cases h : rest.splitOn c with
    | nil => exact absurd h (List.splitOn_ne_nil c rest)
    | cons p ps => simp

/-- A piece goes up to the next separator. -/
theorem notMem_of_mem_pieces {c : α} : ∀ {l p : List α}, p ∈ pieces c l → c ∉ p
  | [], p, h => by
    rw [pieces, List.mem_singleton] at h
    simp [h]
  | x :: rest, p, h => by
    unfold pieces at h
    split at h
    · rcases List.mem_cons.mp h with rfl | h
      · simp
      · exact notMem_of_mem_pieces h
    · rename_i hx
      cases hr : pieces c rest with
      | nil => exact absurd hr (pieces_ne_nil c rest)
      | cons q qs =>
        rw [hr] at h
        have hq := fun p (hp : p ∈ q :: qs) => notMem_of_mem_pieces (hr ▸ hp)
        rcases List.mem_cons.mp h with rfl | h
        · simp [Ne.symm hx, hq q List.mem_cons_self]
        · exact hq p (List.mem_cons_of_mem _ h)

theorem intercalate_pieces (c : α) (l : List α) : [c].intercalate (pieces c l) = l := by
  rw [pieces_eq_splitOn, List.intercalate_splitOn]

theorem mem_of_mem_pieces {c x : α} {l p : List α} (hp : p ∈ pieces c l) (hx : x ∈ p) : x ∈ l := by
  rw [← intercalate_pieces c l]
  exact mem_intercalate_of_mem hp hx

theorem pieces_intercalate {c : α} {ps : List (List α)} (hne : ps ≠ []) (h : ∀ p ∈ ps, c ∉ p) :
    pieces c ([c].intercalate ps) = ps := by
  rw [pieces_eq_splitOn, List.splitOn_intercalate c h hne]

/-- **Pieces are what the separator stands between.** -/
theorem pieces_eq_iff {c : α} {l : List α} {ps : List (List α)} :
    pieces c l = ps ↔ l = [c].intercalate ps ∧ ps ≠ [] ∧ ∀ p ∈ ps, c ∉ p := by
  constructor
  · rintro rfl
    exact ⟨(intercalate_pieces c l).symm, pieces_ne_nil c l, fun p => notMem_of_mem_pieces⟩
  · rintro ⟨rfl, hne, h⟩
    exact pieces_intercalate hne h

/-! ## What stands behind a separator -/

theorem cut?_behind {c : α} {a : List α} (h : c ∉ a) (tail : Option (List α)) :
    cut? c (a ++ behind c tail) = tail.map fun b => (a, b) := by
  cases tail with
  | none =>
    rw [behind_none, List.append_nil]
    exact cut?_eq_none_iff.mpr h
  | some b => exact cut?_eq_some_iff.mpr ⟨rfl, h⟩

/-- Every list can be cut so. -/
theorem exists_behind (c : α) (l : List α) : ∃ a tail, l = a ++ behind c tail ∧ c ∉ a := by
  cases h : cut? c l with
  | none => exact ⟨l, none, (List.append_nil l).symm, cut?_eq_none_iff.mp h⟩
  | some p => exact ⟨p.1, some p.2, cut?_eq_some_iff.mp h⟩

/-- Without a separator, everything is in front of it. -/
theorem of_cut?_getD {c : α} {l a b : List α} (h : (cut? c l).getD (l, []) = (a, b)) :
    c ∉ a ∧ (l = a ∧ b = [] ∨ l = a ++ c :: b) := by
  cases hc : cut? c l with
  | none =>
    rw [hc] at h
    cases h
    exact ⟨cut?_eq_none_iff.mp hc, .inl ⟨rfl, rfl⟩⟩
  | some p =>
    rw [hc] at h
    cases h
    obtain ⟨hl, ha⟩ := cut?_eq_some_iff.mp hc
    exact ⟨ha, .inr hl⟩

theorem rest?_eq_some_iff : ∀ {beginning l rest : List α},
    rest? beginning l = some rest ↔ l = beginning ++ rest
  | [], l, rest => by simp [rest?]
  | b :: bs, [], rest => by simp [rest?]
  | b :: bs, x :: xs, rest => by
    unfold rest?
    split
    · rename_i h
      simp [h, rest?_eq_some_iff]
    · rename_i h
      simp [Ne.symm h]

/-! ## Words -/

omit [DecidableEq α]

variable {isSeparator : α → Bool}

theorem words_go_append (rest : List α) : ∀ {w : List α}, (∀ x ∈ w, isSeparator x = false) →
    ∀ word, words.go isSeparator word (w ++ rest) = words.go isSeparator (w.reverse ++ word) rest
  | [], _, _ => rfl
  | x :: w, h, word => by
    rw [List.forall_mem_cons] at h
    rw [List.cons_append, words.go, h.1, if_neg (by decide), words_go_append rest h.2,
      List.reverse_cons, List.append_assoc, List.singleton_append]

/-- A word ends at the next separator. What has no members is no word. -/
theorem words_append {w : List α} (h : ∀ x ∈ w, isSeparator x = false) {c : α}
    (hc : isSeparator c = true) (rest : List α) :
    words isSeparator (w ++ c :: rest) = [w].filter (!·.isEmpty) ++ words isSeparator rest := by
  rw [words, words_go_append (c :: rest) h, List.append_nil, words.go, if_pos hc,
    List.isEmpty_reverse, List.reverse_reverse]
  cases w with
  | nil => rfl
  | cons x w => rfl

theorem words_of_no_separator {w : List α} (h : ∀ x ∈ w, isSeparator x = false) :
    words isSeparator w = [w].filter (!·.isEmpty) := by
  have hgo := words_go_append [] h []
  rw [List.append_nil, List.append_nil] at hgo
  rw [words, hgo, words.go, List.isEmpty_reverse, List.reverse_reverse]
  cases w with
  | nil => rfl
  | cons x w => rfl

/-- **Words are what separators stand between**, the empty ones left out. -/
theorem words_intercalate {c : α} (hc : isSeparator c = true) : ∀ {ws : List (List α)},
    (∀ w ∈ ws, ∀ x ∈ w, isSeparator x = false) →
    words isSeparator ([c].intercalate ws) = ws.filter (!·.isEmpty)
  | [], _ => rfl
  | [w], h => by
    rw [List.intercalate_singleton, words_of_no_separator (h w List.mem_cons_self)]
  | w :: v :: ws, h => by
    rw [List.forall_mem_cons] at h
    rw [List.intercalate_cons_cons, List.append_assoc, List.singleton_append,
      words_append h.1 hc, words_intercalate hc h.2, ← List.filter_append, List.singleton_append]

end IrcClient
