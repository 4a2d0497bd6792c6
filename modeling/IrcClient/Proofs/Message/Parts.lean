import IrcClient.Message
import IrcClient.Proofs.Text.Split

/-!
# The parts of a line

A source, a tag and the arguments are each read back from what they are written as, and each
reader makes only such parts as can be written (`WellFormed`). A source or a tag can be written
in one way; of arguments there are many ways to write them, of which the lemmas here say only
how one argument is read after the other (`argsFrom_word`).
-/

namespace IrcClient

/-! ## Sources -/

/-- A source that can stand in a line and be told apart there. -/
structure Source.WellFormed (s : Source) : Prop where
  nick : '!' ∉ s.nick.toList ∧ '@' ∉ s.nick.toList
  user : ∀ user ∈ s.user, '@' ∉ user.toList
  noSpace : ' ' ∉ s.render.toList

namespace Source

theorem toList_render (s : Source) : s.render.toList =
    s.nick.toList ++ behind '!' (s.user.map String.toList) ++
      behind '@' (s.host.map String.toList) := by
  obtain ⟨nick, user, host⟩ := s
  cases user <;> cases host <;> simp [render]

theorem parse_behind {nick : List Char} {user : Option (List Char)} (hnick : '!' ∉ nick)
    (hwho : '@' ∉ nick ++ behind '!' user) (host : Option (List Char)) :
    parse (nick ++ behind '!' user ++ behind '@' host) =
      ⟨String.ofList nick, user.map String.ofList, host.map String.ofList⟩ := by
  unfold parse
  rw [cut?_behind hwho]
  cases host with
  | none =>
    dsimp only [Option.map_none]
    rw [behind_none, List.append_nil, cut?_behind hnick]
    cases user with
    | none => simp
    | some user => rfl
  | some host =>
    dsimp only [Option.map_some]
    rw [cut?_behind hnick]
    cases user with
    | none => simp
    | some user => rfl

/-- Every text is cut into a nickname, a user name and a host in one way. -/
theorem exists_parse (s : List Char) : ∃ nick user host,
    s = nick ++ behind '!' user ++ behind '@' host ∧
      '!' ∉ nick ∧ '@' ∉ nick ++ behind '!' user := by
  obtain ⟨who, host, hs, hwho⟩ := exists_behind '@' s
  obtain ⟨nick, user, rfl, hnick⟩ := exists_behind '!' who
  exact ⟨nick, user, host, hs, hnick, hwho⟩

theorem toList_render_parse (s : List Char) : (parse s).render.toList = s := by
  obtain ⟨nick, user, host, rfl, hnick, hwho⟩ := exists_parse s
  rw [parse_behind hnick hwho, toList_render]
  simp [Function.comp_def]

theorem wellFormed_parse {s : List Char} (h : ' ' ∉ s) : (parse s).WellFormed where
  nick := by
    obtain ⟨nick, user, host, rfl, hnick, hwho⟩ := exists_parse s
    rw [parse_behind hnick hwho, String.toList_ofList]
    exact ⟨hnick, fun hm => hwho (List.mem_append_left _ hm)⟩
  user := by
    obtain ⟨nick, user, host, rfl, hnick, hwho⟩ := exists_parse s
    rw [parse_behind hnick hwho]
    rintro _ hm hat
    obtain ⟨user, rfl, rfl⟩ := Option.map_eq_some_iff.mp hm
    rw [String.toList_ofList] at hat
    exact hwho (List.mem_append_right _ (mem_behind.mpr ⟨user, rfl, .inr hat⟩))
  noSpace := by rwa [toList_render_parse]

theorem parse_render {s : Source} (h : s.WellFormed) : parse s.render.toList = s := by
  have hwho : '@' ∉ s.nick.toList ++ behind '!' (s.user.map String.toList) := by
    rw [List.mem_append, mem_behind, not_or]
    refine ⟨h.nick.2, ?_⟩
    rintro ⟨_, hm, hat | hat⟩
    · exact absurd hat (by decide)
    · obtain ⟨user, hu, rfl⟩ := Option.map_eq_some_iff.mp hm
      exact h.user user hu hat
  rw [toList_render, parse_behind h.nick.1 hwho]
  simp [Function.comp_def]

end Source

/-! ## Tags -/

/-- A tag that can stand among others and be told apart there. -/
structure Tag.WellFormed (t : Tag) : Prop where
  name : ' ' ∉ t.name.toList ∧ ';' ∉ t.name.toList ∧ '=' ∉ t.name.toList
  value : ∀ value ∈ t.value, ' ' ∉ value.toList ∧ ';' ∉ value.toList

namespace Tag

theorem toList_render (t : Tag) :
    t.render.toList = t.name.toList ++ behind '=' (t.value.map String.toList) := by
  obtain ⟨name, value⟩ := t
  cases value <;> simp [render]

theorem parse_behind {name : List Char} (h : '=' ∉ name) (value : Option (List Char)) :
    parse (name ++ behind '=' value) = ⟨String.ofList name, value.map String.ofList⟩ := by
  rw [parse, cut?_behind h]
  cases value with
  | none => simp
  | some value => rfl

theorem toList_render_parse (s : List Char) : (parse s).render.toList = s := by
  obtain ⟨name, value, rfl, h⟩ := exists_behind '=' s
  rw [parse_behind h, toList_render]
  simp [Function.comp_def]

theorem wellFormed_parse {s : List Char} (hspace : ' ' ∉ s) (hsemicolon : ';' ∉ s) :
    (parse s).WellFormed := by
  obtain ⟨name, value, rfl, h⟩ := exists_behind '=' s
  rw [parse_behind h]
  rw [List.mem_append, not_or] at hspace hsemicolon
  refine ⟨?_, ?_⟩
  · rw [String.toList_ofList]
    exact ⟨hspace.1, hsemicolon.1, h⟩
  · rintro _ hm
    obtain ⟨value, rfl, rfl⟩ := Option.map_eq_some_iff.mp hm
    rw [String.toList_ofList]
    exact ⟨fun hx => hspace.2 (mem_behind.mpr ⟨value, rfl, .inr hx⟩),
      fun hx => hsemicolon.2 (mem_behind.mpr ⟨value, rfl, .inr hx⟩)⟩

theorem parse_render {t : Tag} (h : t.WellFormed) : parse t.render.toList = t := by
  rw [toList_render, parse_behind h.name.2.2]
  simp [Function.comp_def]

/-- A well-formed tag has none of the characters that end it. -/
theorem WellFormed.notMem_render {t : Tag} (h : t.WellFormed) :
    ' ' ∉ t.render.toList ∧ ';' ∉ t.render.toList := by
  have hx : ∀ x, x ≠ '=' → x ∉ t.name.toList → (∀ value ∈ t.value, x ∉ value.toList) →
      x ∉ t.render.toList := by
    intro x hne hname hvalue
    rw [toList_render, List.mem_append, mem_behind, not_or]
    refine ⟨hname, ?_⟩
    rintro ⟨_, hm, hx | hx⟩
    · exact hne hx
    · obtain ⟨value, hv, rfl⟩ := Option.map_eq_some_iff.mp hm
      exact hvalue value hv hx
  exact ⟨hx ' ' (by decide) h.name.1 fun v hv => (h.value v hv).1,
    hx ';' (by decide) h.name.2.1 fun v hv => (h.value v hv).2⟩

end Tag

/-! ## Arguments -/

/-- An argument that can stand before others. The last one can be any text. -/
structure IsMiddle (arg : List Char) : Prop where
  ne_nil : arg ≠ []
  noSpace : ' ' ∉ arg
  noColon : arg.head? ≠ some ':'

theorem argsFrom_space (s : List Char) : argsFrom [] (' ' :: s) = argsFrom [] s := by
  rw [argsFrom, if_pos rfl]
  rfl

theorem argsFrom_spaces : ∀ (k : Nat) (s : List Char),
    argsFrom [] (List.replicate k ' ' ++ s) = argsFrom [] s
  | 0, _ => rfl
  | k + 1, s => by
    rw [List.replicate_succ, List.cons_append, argsFrom_space, argsFrom_spaces k]

theorem argsFrom_colon (s : List Char) : argsFrom [] (':' :: s) = [s] := by
  rw [argsFrom, if_neg (by decide), if_pos (by decide)]

/-- The rest of an argument is read up to the next space. -/
theorem argsFrom_word : ∀ {a word : List Char}, ' ' ∉ a → word ≠ [] → ∀ rest,
    argsFrom word (a ++ ' ' :: rest) = (word.reverse ++ a) :: argsFrom [] rest
  | [], word, _, hne, rest => by
    rw [List.nil_append, argsFrom, if_pos rfl, if_neg (by simpa using hne), List.append_nil]
  | c :: a, word, hs, hne, rest => by
    rw [List.mem_cons, not_or] at hs
    have hword : (c = ':' && word.isEmpty) = false := by simp [hne]
    rw [List.cons_append, argsFrom, if_neg (Ne.symm hs.1), hword, if_neg (by decide),
      argsFrom_word hs.2 (List.cons_ne_nil c word), List.reverse_cons, List.append_assoc,
      List.singleton_append]

theorem argsFrom_middle {a : List Char} (h : IsMiddle a) (rest : List Char) :
    argsFrom [] (a ++ ' ' :: rest) = a :: argsFrom [] rest := by
  obtain ⟨hne, hspace, hcolon⟩ := h
  cases a with
  | nil => exact absurd rfl hne
  | cons c a =>
    rw [List.mem_cons, not_or] at hspace
    have hc : c ≠ ':' := fun hc => hcolon (by rw [hc]; rfl)
    rw [List.cons_append, argsFrom, if_neg (Ne.symm hspace.1), if_neg (by simp [hc]),
      argsFrom_word hspace.2 (List.cons_ne_nil c [])]
    rfl

/-- Whatever is read as an argument, and is not the last, can stand before others. -/
theorem isMiddle_of_argsFrom : ∀ {s word a : List Char}, ' ' ∉ word → word.getLast? ≠ some ':' →
    a ∈ (argsFrom word s).dropLast → IsMiddle a
  | [], word, a, _, _, ha => by
    unfold argsFrom at ha
    split at ha <;> cases ha
  | c :: s, word, a, hspace, hcolon, ha => by
    unfold argsFrom at ha
    split at ha
    · split at ha
      · exact isMiddle_of_argsFrom List.not_mem_nil (by simp) ha
      · -- a space ends the word, which is not the last argument if another one follows
        rename_i hne
        cases hargs : argsFrom [] s with
        | nil =>
          rw [hargs] at ha
          cases ha
        | cons b bs =>
          rw [hargs, List.dropLast_cons_cons, ← hargs, List.mem_cons] at ha
          obtain rfl | ha := ha
          · refine ⟨by simpa using hne, by simpa using hspace, ?_⟩
            rwa [List.head?_reverse]
          · exact isMiddle_of_argsFrom List.not_mem_nil (by simp) ha
    · rename_i hc
      split at ha
      · cases ha
      · -- the word goes on, and no colon stands at its front
        rename_i hcw
        refine isMiddle_of_argsFrom ?_ ?_ ha
        · rw [List.mem_cons, not_or]
          exact ⟨Ne.symm hc, hspace⟩
        · cases word with
          | nil => simpa using hcw
          | cons d word => rwa [List.getLast?_cons_cons]

theorem mem_of_mem_argsFrom {x : Char} : ∀ {s word a : List Char}, a ∈ argsFrom word s → x ∈ a →
    x ∈ word ∨ x ∈ s
  | [], word, a, ha, hx => by
    unfold argsFrom at ha
    split at ha
    · cases ha
    · rw [List.mem_singleton.mp ha, List.mem_reverse] at hx
      exact .inl hx
  | c :: s, word, a, ha, hx => by
    have later : ∀ {word'}, a ∈ argsFrom word' s → (x ∈ word' → x ∈ word ∨ x ∈ c :: s) →
        x ∈ word ∨ x ∈ c :: s := fun ha hword =>
      (mem_of_mem_argsFrom ha hx).elim hword fun hs => .inr (List.mem_cons_of_mem c hs)
    unfold argsFrom at ha
    split at ha
    · split at ha
      · exact later ha nofun
      · obtain rfl | ha := List.mem_cons.mp ha
        · exact .inl (List.mem_reverse.mp hx)
        · exact later ha nofun
    · split at ha
      · rw [List.mem_singleton.mp ha] at hx
        exact .inr (List.mem_cons_of_mem c hx)
      · refine later ha fun hword => ?_
        obtain rfl | hword := List.mem_cons.mp hword
        · exact .inr List.mem_cons_self
        · exact .inl hword

end IrcClient
