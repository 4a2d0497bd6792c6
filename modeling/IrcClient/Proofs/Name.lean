import IrcClient.Name

/-!
# Tables that are keyed by names

A user or a channel is under the folded form of its name (`KeyedBy`), and is looked up by
folding a spelling. So two things in one table never go by spellings of one name, and every
spelling leads to the one that goes by it (`Named`).

Names that are listed are listed in order (`sortNames_increasing`).
-/

namespace IrcClient

/-! ## Spellings of a name -/

theorem utf8Size_foldChar (c : Char) : (foldChar c).utf8Size = c.utf8Size := by
  unfold foldChar
  split
  · rfl
  · rfl
  · rfl
  · rfl
  · unfold Char.toLower
    split
    · rename_i h
      simp only [UInt32.le_iff_toNat_le] at h
      have h : 65 ≤ c.toNat ∧ c.toNat ≤ 90 := h
      -- letters have one byte, in either case
      have hone : ∀ d : Char, d.toNat ≤ 127 → d.utf8Size = 1 := fun d hd =>
        Char.utf8Size_eq_one_iff.mpr (UInt32.le_iff_toNat_le.mpr hd)
      rw [hone c (by omega), hone]
      show (c.val + ('a'.val - 'A'.val)).toNat ≤ 127
      rw [UInt32.toNat_add, Char.toNat_val]
      have : ('a'.val - 'A'.val).toNat = 32 := rfl
      omega
    · rfl

theorem utf8ByteSize_fold (name : String) : (fold name).utf8ByteSize = name.utf8ByteSize := by
  suffices h : ∀ cs : List Char, (String.ofList (cs.map foldChar)).utf8ByteSize =
      (String.ofList cs).utf8ByteSize by
    rw [fold, h, String.ofList_toList]
  intro cs
  induction cs with
  | nil => rfl
  | cons c cs ih =>
      rw [List.map_cons, String.ofList_cons, String.ofList_cons, String.utf8ByteSize_append,
        String.utf8ByteSize_append, String.utf8ByteSize_singleton, String.utf8ByteSize_singleton,
        utf8Size_foldChar, ih]

/-- Spellings of one name have equally many bytes, so it does no harm to compare these first. -/
theorem sameName_eq_sized (a b : String) :
    sameName a b = (a.utf8ByteSize == b.utf8ByteSize && fold a == fold b) := by
  by_cases h : fold a = fold b
  · have hsize : a.utf8ByteSize = b.utf8ByteSize := by
      rw [← utf8ByteSize_fold a, h, utf8ByteSize_fold]
    simp [sameName, h, hsize]
  · simp [sameName, h]

theorem sameName_comm (a b : String) : sameName a b = sameName b a := by
  rw [Bool.eq_iff_iff, sameName_iff, sameName_iff]
  exact eq_comm

/-! ## Order -/

theorem nameAtMost_trans (a b c : String) (hab : nameAtMost a b = true)
    (hbc : nameAtMost b c = true) : nameAtMost a c = true := by
  unfold nameAtMost at hab hbc ⊢
  rw [Bool.not_eq_true'] at hab hbc ⊢
  rw [Bool.eq_false_iff]
  intro hca
  cases hlt : nameBefore a b with
  | true =>
      have hcb : Key.before c b = true := Key.trans hca hlt
      exact absurd (hbc.symm.trans hcb) (by simp)
  | false =>
      -- neither comes before the other, so they are one
      have he : a = b := Key.connected hlt hab
      rw [he, hbc] at hca
      cases hca

theorem nameAtMost_total (a b : String) : (nameAtMost a b || nameAtMost b a) = true := by
  unfold nameAtMost
  cases h : nameBefore b a with
  | false => rfl
  | true =>
      have hasymm : Key.before a b = false := Key.asymm h
      exact congrArg (! ·) hasymm

theorem nameAtMost_antisymm {a b : String} (hab : nameAtMost a b = true)
    (hba : nameAtMost b a = true) : a = b := by
  rw [nameAtMost, Bool.not_eq_true'] at hab hba
  exact Key.connected hba hab

/-- Names are sorted to the same list in whatever order they come. -/
theorem sortNames_eq_of_perm {names names' : List String} (h : names.Perm names') :
    sortNames names = sortNames names' := by
  have hsorted : ∀ names, (sortNames names).Pairwise fun a b => nameAtMost a b = true :=
    List.pairwise_mergeSort nameAtMost_trans nameAtMost_total
  have hperm : (sortNames names).Perm (sortNames names') :=
    ((List.mergeSort_perm _ _).trans h).trans (List.mergeSort_perm _ _).symm
  exact hperm.eq_of_pairwise (fun a b _ _ => nameAtMost_antisymm) (hsorted names) (hsorted names')

/-- Names of which none comes twice are increasing when they are sorted. -/
theorem sortNames_increasing {names : List String} (h : names.Nodup) :
    (sortNames names).Pairwise fun a b => nameBefore a b = true := by
  have hsorted : (sortNames names).Pairwise fun a b => nameAtMost a b = true :=
    List.pairwise_mergeSort nameAtMost_trans nameAtMost_total names
  have hnodup : (sortNames names).Nodup := (List.mergeSort_perm _ _).nodup_iff.mpr h
  refine (hsorted.and hnodup).imp ?_
  intro a b hab
  cases hlt : nameBefore a b with
  | true => rfl
  | false =>
      have hba : nameBefore b a = false := by simpa [nameAtMost] using hab.1
      have he : a = b := Key.connected hlt hba
      exact absurd he hab.2

/-! ## Keys -/

variable {α : Type} {name : α → String} {t : Table String α}

/-- Whether everything in a table is under the folded form of its name. -/
def KeyedBy (name : α → String) (t : Table String α) : Prop :=
  ∀ k a, t.get? k = some a → fold (name a) = k

namespace KeyedBy

theorem empty : KeyedBy name .empty :=
  fun k a h => absurd h (by simp)

theorem insert (h : KeyedBy name t) {k : String} {a : α} (ha : fold (name a) = k) :
    KeyedBy name (t.insert k a) := by
  intro j b hj
  rw [Table.get?_insert] at hj
  split at hj
  · rename_i hk
    rw [← Option.some.inj hj, ha, hk]
  · exact h j b hj

theorem erase (h : KeyedBy name t) (k : String) : KeyedBy name (t.erase k) := by
  intro j a hj
  rw [Table.get?_erase] at hj
  split at hj
  · exact absurd hj (by simp)
  · exact h j a hj

/-- What is changed in its place keeps its key if it keeps its name. -/
theorem map (h : KeyedBy name t) {f : α → α} (hf : ∀ a, name (f a) = name a) :
    KeyedBy name (t.map f) := by
  intro k a hk
  rw [Table.get?_map, Option.map_eq_some_iff] at hk
  obtain ⟨b, hb, rfl⟩ := hk
  rw [hf, h k b hb]

end KeyedBy

/--
Whether things go by their names: each is under the folded form of its own, no two go by
spellings of one, and every spelling leads to the one that goes by it.
-/
structure Named (name : α → String) (t : Table String α) : Prop where
  keyed : KeyedBy name t
  distinct : t.values.Pairwise fun a b => sameName (name a) (name b) = false
  found : ∀ s a, t.get? (fold s) = some a ↔ a ∈ t.values ∧ sameName (name a) s = true

/-- The keys are all that it takes. -/
theorem KeyedBy.named (h : KeyedBy name t) : Named name t where
  keyed := h
  distinct := by
    have hkey : ∀ e ∈ t.entries, fold (name e.2) = e.1 := fun e he =>
      h e.1 e.2 (Table.mem_entries_iff.mp he)
    rw [Table.values, List.pairwise_map]
    refine t.sorted.imp_of_mem fun {e f} he hf hlt => ?_
    rw [Bool.eq_false_iff, ne_eq, sameName_iff, hkey e he, hkey f hf]
    intro heq
    rw [heq, Key.irrefl] at hlt
    exact absurd hlt (by simp)
  found := by
    intro s a
    rw [Table.mem_values_iff, sameName_iff]
    constructor
    · intro ha
      exact ⟨⟨fold s, ha⟩, h _ a ha⟩
    · rintro ⟨⟨k, hk⟩, hs⟩
      rw [← hs, h k a hk]
      exact hk

/-- No name comes twice among those of the things in a table, or of some of them. -/
theorem Named.nodup (h : Named name t) (p : α → Bool) :
    ((t.values.filter p).map name).Nodup := by
  rw [List.Nodup, List.pairwise_map]
  refine (h.distinct.filter _).imp ?_
  intro a b hab he
  rw [he, sameName_iff.mpr rfl] at hab
  cases hab

end IrcClient
