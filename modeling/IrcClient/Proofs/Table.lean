import IrcClient.Table

/-!
# Tables and the lists they are made of

A value that is changed in its place leaves the others alone, so changes can be put together and
put in another order (`modify_modify`, `modify_comm`).

A table that is filled from a list keeps, for every key, the last binding of the list
(`get?_insertAll`).
Where the list says no more than one thing of a key, its order cannot matter, and the
table is the one that holds exactly the bindings of the list.
-/

namespace IrcClient.Table

variable {κ α : Type} [DecidableEq κ] [Key κ]

/-- Storing what is there already changes nothing. -/
theorem insert_of_get? {t : Table κ α} {k : κ} {a : α} (h : t.get? k = some a) :
    t.insert k a = t := by
  refine ext_get? fun j => ?_
  rw [get?_insert]
  split
  · rename_i hk
    rw [← hk, h]
  · rfl

/-- Of two values stored under one key the second one counts. -/
theorem insert_insert (t : Table κ α) (k : κ) (a b : α) :
    (t.insert k a).insert k b = t.insert k b := by
  refine ext_get? fun j => ?_
  simp only [get?_insert]
  split <;> rfl

/-- Forgetting what is not there changes nothing. -/
theorem erase_of_get?_none {t : Table κ α} {k : κ} (h : t.get? k = none) : t.erase k = t := by
  refine ext_get? fun j => ?_
  rw [get?_erase]
  split
  · rename_i hk
    rw [← hk, h]
  · rfl

theorem erase_erase (t : Table κ α) (k : κ) : (t.erase k).erase k = t.erase k :=
  erase_of_get?_none (by rw [get?_erase, if_pos rfl])

/-- An entry that is erased might as well not have been set. -/
theorem erase_insert (t : Table κ α) (k : κ) (a : α) : (t.insert k a).erase k = t.erase k := by
  refine ext_get? fun j => ?_
  rw [get?_erase, get?_erase, get?_insert]
  split <;> rfl

theorem length_values (t : Table κ α) : t.values.length = t.size :=
  List.length_map _

/-! ## Changes in place -/

/-- To change what is under a key is to store the changed value, if there is one. -/
theorem modify_of_get? {t : Table κ α} {k : κ} {a : α} (h : t.get? k = some a) (f : α → α) :
    t.modify k f = t.insert k (f a) := by
  refine ext_get? fun j => ?_
  rw [get?_modify, get?_insert]
  split
  · rename_i hk
    rw [← hk, h, Option.map_some]
  · rfl

/-- A change that leaves what is there as it is changes nothing. -/
theorem modify_eq_self {t : Table κ α} {k : κ} {f : α → α} (h : ∀ a, t.get? k = some a → f a = a) :
    t.modify k f = t := by
  cases hk : t.get? k with
  | some a => rw [modify_of_get? hk, h a hk, insert_of_get? hk]
  | none =>
      refine ext_get? fun j => ?_
      rw [get?_modify]
      split
      · rename_i hj
        rw [← hj, hk, Option.map_none]
      · rfl

theorem modify_modify (t : Table κ α) (k : κ) (f g : α → α) :
    (t.modify k f).modify k g = t.modify k (g ∘ f) := by
  refine ext_get? fun j => ?_
  simp only [get?_modify]
  split
  · exact Option.map_map g f _
  · rfl

/-- What is under two keys, or what can be done in either order, is changed in either order. -/
theorem modify_comm (t : Table κ α) {a b : κ} {f g : α → α}
    (h : a = b → ∀ x, g (f x) = f (g x)) :
    (t.modify a f).modify b g = (t.modify b g).modify a f := by
  by_cases hab : a = b
  · subst hab
    rw [modify_modify, modify_modify]
    exact congrArg (t.modify a) (funext (h rfl))
  · refine ext_get? fun j => ?_
    simp only [get?_modify]
    by_cases ha : a = j
    · have hb : ¬ b = j := fun hb => hab (ha.trans hb.symm)
      simp only [ha, hb, if_true, if_false]
    · simp only [ha, if_false]

/-! ## Lists of bindings -/

/-- Of several bindings for a key the last one of the list counts, and none of an older table. -/
theorem get?_insertAll (k : κ) : ∀ (l : List (κ × α)) (t : Table κ α),
    (t.insertAll l).get? k = ((l.filter (·.1 = k)).getLast?.map (·.2)).or (t.get? k)
  | [], _ => rfl
  | e :: l, t => by
      show ((t.insert e.1 e.2).insertAll l).get? k = _
      rw [get?_insertAll k l, get?_insert, List.filter_cons]
      by_cases hk : e.1 = k
      · simp only [hk, decide_true, if_true, List.getLast?_cons, Option.map_some, Option.some_or]
        cases (l.filter (·.1 = k)).getLast? <;> rfl
      · simp only [hk, decide_false, Bool.false_eq_true, if_false]

theorem get?_insertAll_of_ne {k : κ} {l : List (κ × α)} {t : Table κ α} (h : ∀ e ∈ l, e.1 ≠ k) :
    (t.insertAll l).get? k = t.get? k := by
  have hnone : l.filter (·.1 = k) = [] :=
    List.filter_eq_nil_iff.mpr fun e he => by simp [h e he]
  rw [get?_insertAll, hnone]
  rfl

/-- A key of which a list says one thing only has that value in the end. -/
theorem get?_insertAll_of_mem {k : κ} {a : α} {l : List (κ × α)} {t : Table κ α}
    (h : (k, a) ∈ l) (hu : ∀ b, (k, b) ∈ l → b = a) : (t.insertAll l).get? k = some a := by
  have hne : l.filter (·.1 = k) ≠ [] :=
    List.ne_nil_of_mem (List.mem_filter.mpr ⟨h, by simp⟩)
  obtain ⟨⟨k', b⟩, hlast⟩ : ∃ e, (l.filter (·.1 = k)).getLast? = some e :=
    ⟨_, List.getLast?_eq_some_getLast hne⟩
  obtain ⟨hl, hk⟩ := List.mem_filter.mp (List.mem_of_getLast? hlast)
  obtain rfl : k' = k := of_decide_eq_true hk
  rw [get?_insertAll, hlast, Option.map_some, Option.some_or, hu b hl]

/-- What a list makes of a key is said by the last of its bindings for that key. -/
theorem get?_ofList_eq_some_iff {k : κ} {a : α} {l : List (κ × α)} :
    (ofList l).get? k = some a ↔
      ∃ before after, l = before ++ (k, a) :: after ∧ ∀ e ∈ after, e.1 ≠ k := by
  rw [ofList, get?_insertAll, get?_empty, Option.or_none]
  constructor
  · intro h
    obtain ⟨⟨k', b⟩, hlast, hb⟩ := Option.map_eq_some_iff.mp h
    obtain ⟨front, hfront⟩ := List.getLast?_eq_some_iff.mp hlast
    obtain ⟨first, rest, rfl, -, hrest⟩ := List.filter_eq_append_iff.mp hfront
    obtain ⟨between, after, rfl, -, hk, hafter⟩ := List.filter_eq_cons_iff.mp hrest
    obtain rfl : k' = k := of_decide_eq_true hk
    obtain rfl : b = a := hb
    refine ⟨first ++ between, after, (List.append_assoc _ _ _).symm, fun e he => ?_⟩
    simpa using List.filter_eq_nil_iff.mp hafter e he
  · rintro ⟨before, after, rfl, hafter⟩
    have hnone : after.filter (·.1 = k) = [] :=
      List.filter_eq_nil_iff.mpr fun e he => by simp [hafter e he]
    rw [List.filter_append, List.filter_cons_of_pos (by simp), hnone, List.getLast?_concat]
    rfl

/-- A list with exactly the bindings of a table makes that table. -/
theorem ofList_eq_of_mem_iff {l : List (κ × α)} {t : Table κ α}
    (h : ∀ k a, (k, a) ∈ l ↔ t.get? k = some a) : ofList l = t := by
  refine ext_get? fun k => ?_
  unfold ofList
  cases hk : t.get? k with
  | some a =>
      refine get?_insertAll_of_mem ((h k a).mpr hk) fun b hb => ?_
      have := (h k b).mp hb
      rw [hk] at this
      exact (Option.some.inj this).symm
  | none =>
      rw [get?_insertAll_of_ne, get?_empty]
      rintro ⟨k', a⟩ he rfl
      have := (h k' a).mp he
      rw [hk] at this
      exact absurd this (by simp)

end IrcClient.Table
