/-!
# Tables sorted by key

Everything the client remembers by name sits in a table: an association list
whose keys are strictly increasing. The order is part of the type, so a table is
determined by what it holds (`Table.ext_get?`), and two histories that store the
same bindings end in the same value, whatever order they stored them in.

`get?` is the view. Each operation comes with one equation that says what it
does to that view, and nothing further on unfolds an operation.
-/

namespace IrcClient

/-- A decidable strict linear order, given by its test. -/
class Key (κ : Type) where
  before : κ → κ → Bool
  irrefl : ∀ a, before a a = false
  trans : ∀ {a b c}, before a b = true → before b c = true → before a c = true
  connected : ∀ {a b}, before a b = false → before b a = false → a = b

theorem Key.asymm {κ : Type} [Key κ] {a b : κ} (h : Key.before a b = true) :
    Key.before b a = false := by
  cases hb : Key.before b a with
  | false => rfl
  | true => exact absurd (Key.trans h hb) (by simp [Key.irrefl])

theorem Key.ne_of_before {κ : Type} [Key κ] {a b : κ} (h : Key.before a b = true) : a ≠ b := by
  intro e
  subst e
  simp [Key.irrefl] at h

/-! ## Keys in use -/

/-- The dictionary order on lists of numbers; a proper beginning comes first. -/
def lexBefore : List Nat → List Nat → Bool
  | _, [] => false
  | [], _ :: _ => true
  | a :: as, b :: bs => if a < b then true else if b < a then false else lexBefore as bs

theorem lexBefore_irrefl : ∀ as : List Nat, lexBefore as as = false
  | [] => rfl
  | a :: as => by simp [lexBefore, lexBefore_irrefl as]

theorem lexBefore_trans : ∀ {as bs cs : List Nat},
    lexBefore as bs = true → lexBefore bs cs = true → lexBefore as cs = true
  | _, [], _, h, _ => by simp [lexBefore] at h
  | _, _ :: _, [], _, h => by simp [lexBefore] at h
  | [], _ :: _, _ :: _, _, _ => rfl
  | a :: as, b :: bs, c :: cs, hab, hbc => by
    unfold lexBefore at hab hbc ⊢
    split at hab
    · split at hbc
      · rw [if_pos (by omega)]
      · split at hbc
        · simp at hbc
        · rw [if_pos (by omega)]
    · split at hab
      · simp at hab
      · split at hbc
        · rw [if_pos (by omega)]
        · split at hbc
          · simp at hbc
          · rw [if_neg (by omega), if_neg (by omega)]
            exact lexBefore_trans hab hbc

theorem lexBefore_connected : ∀ {as bs : List Nat},
    lexBefore as bs = false → lexBefore bs as = false → as = bs
  | [], [], _, _ => rfl
  | [], _ :: _, h, _ => by simp [lexBefore] at h
  | _ :: _, [], _, h => by simp [lexBefore] at h
  | a :: as, b :: bs, hab, hba => by
    unfold lexBefore at hab hba
    split at hab
    · simp at hab
    · split at hab
      · rw [if_pos (by assumption)] at hba
        simp at hba
      · rw [if_neg (by assumption), if_neg (by assumption)] at hba
        rw [lexBefore_connected hab hba]
        congr 1
        omega

/-- Names are ordered by their code points, which is also the order of their bytes. -/
def nameBefore (a b : String) : Bool :=
  lexBefore (a.toList.map Char.toNat) (b.toList.map Char.toNat)

theorem map_toNat_injective : ∀ {as bs : List Char},
    as.map Char.toNat = bs.map Char.toNat → as = bs
  | [], [], _ => rfl
  | [], _ :: _, h => by simp at h
  | _ :: _, [], h => by simp at h
  | a :: as, b :: bs, h => by
    simp only [List.map_cons, List.cons.injEq] at h
    rw [map_toNat_injective h.2, Char.toNat_inj.mp h.1]

instance : Key String where
  before := nameBefore
  irrefl _ := lexBefore_irrefl _
  trans := lexBefore_trans
  connected h h' := String.toList_injective (map_toNat_injective (lexBefore_connected h h'))

instance : Key Char where
  before a b := decide (a.toNat < b.toNat)
  irrefl a := by simp
  trans h h' := by
    simp only [decide_eq_true_eq] at h h' ⊢
    omega
  connected h h' := by
    simp only [decide_eq_false_iff_not] at h h'
    exact Char.toNat_inj.mp (by omega)

instance : Key Int where
  before a b := decide (a < b)
  irrefl a := by simp
  trans h h' := by
    simp only [decide_eq_true_eq] at h h' ⊢
    omega
  connected h h' := by
    simp only [decide_eq_false_iff_not] at h h'
    omega

/-! ## The table -/

variable {κ α β : Type} [DecidableEq κ] [Key κ]

/-- The value stored under `k` in a list of bindings. -/
def lookupIn (k : κ) : List (κ × α) → Option α
  | [] => none
  | e :: rest => if e.1 = k then some e.2 else lookupIn k rest

/-- Puts a binding at its place among increasing ones, in the stead of an older one. -/
def insertIn (k : κ) (a : α) : List (κ × α) → List (κ × α)
  | [] => [(k, a)]
  | e :: rest =>
    if e.1 = k then (k, a) :: rest
    else if Key.before k e.1 then (k, a) :: e :: rest
    else e :: insertIn k a rest

/-- Bindings in strictly increasing order of their keys. -/
abbrev Increasing (l : List (κ × α)) : Prop :=
  l.Pairwise fun a b => Key.before a.1 b.1 = true

theorem mem_insertIn {k : κ} {a : α} {x : κ × α} : ∀ {l : List (κ × α)},
    x ∈ insertIn k a l → x = (k, a) ∨ x ∈ l
  | [], h => by simpa [insertIn] using h
  | e :: rest, h => by
    unfold insertIn at h
    split at h
    · simp only [List.mem_cons] at h ⊢
      exact h.imp_right .inr
    · split at h
      · simpa only [List.mem_cons] using h
      · simp only [List.mem_cons] at h ⊢
        rcases h with h | h
        · exact .inr (.inl h)
        · exact (mem_insertIn h).imp_right .inr

theorem Increasing.insertIn {k : κ} {a : α} : ∀ {l : List (κ × α)},
    Increasing l → Increasing (insertIn k a l)
  | [], _ => by simp [Increasing, IrcClient.insertIn]
  | e :: rest, h => by
    have hr := List.pairwise_cons.mp h
    unfold IrcClient.insertIn
    split
    · rename_i he
      exact List.pairwise_cons.mpr ⟨fun x hx => he ▸ hr.1 x hx, hr.2⟩
    · rename_i he
      split
      · rename_i hb
        refine List.pairwise_cons.mpr ⟨fun x hx => ?_, h⟩
        rcases List.mem_cons.mp hx with rfl | hx
        · exact hb
        · exact Key.trans hb (hr.1 x hx)
      · rename_i hb
        refine List.pairwise_cons.mpr ⟨fun x hx => ?_, Increasing.insertIn hr.2⟩
        rcases mem_insertIn hx with rfl | hx
        · cases hk : Key.before e.1 k with
          | true => rfl
          | false => exact absurd (Key.connected hk (by simpa using hb)) he
        · exact hr.1 x hx

theorem lookupIn_insertIn (k j : κ) (a : α) : ∀ l : List (κ × α),
    lookupIn j (insertIn k a l) = if k = j then some a else lookupIn j l
  | [] => rfl
  | e :: rest => by
    unfold insertIn
    split
    · rename_i he
      subst he
      simp only [lookupIn]
      split <;> rfl
    · rename_i he
      split
      · rfl
      · simp only [lookupIn, lookupIn_insertIn k j a rest]
        by_cases hj : e.1 = j
        · subst hj
          simp [Ne.symm he]
        · simp [hj]

theorem lookupIn_eq_some_iff {k : κ} {a : α} : ∀ {l : List (κ × α)}, Increasing l →
    (lookupIn k l = some a ↔ (k, a) ∈ l)
  | [], _ => by simp [lookupIn]
  | e :: rest, h => by
    have hr := List.pairwise_cons.mp h
    unfold lookupIn
    split
    · rename_i he
      subst he
      constructor
      · intro ha
        simp only [Option.some.injEq] at ha
        simp [← ha]
      · intro ha
        rcases List.mem_cons.mp ha with ha | ha
        · rw [← ha]
        · exact absurd (hr.1 _ ha) (by simp [Key.irrefl])
    · rename_i he
      rw [lookupIn_eq_some_iff hr.2, List.mem_cons]
      constructor
      · exact .inr
      · rintro (rfl | h)
        · exact absurd rfl he
        · exact h

omit [DecidableEq κ] in
theorem Increasing.eq_of_mem_iff : ∀ {l m : List (κ × α)}, Increasing l → Increasing m →
    (∀ x, x ∈ l ↔ x ∈ m) → l = m
  | [], [], _, _, _ => rfl
  | [], b :: _, _, _, h => by simpa using (h b).mpr (by simp)
  | a :: _, [], _, _, h => by simpa using (h a).mp (by simp)
  | a :: as, b :: bs, ha, hb, h => by
    have ha' := List.pairwise_cons.mp ha
    have hb' := List.pairwise_cons.mp hb
    have hab : a = b := by
      rcases List.mem_cons.mp ((h a).mp (by simp)) with h1 | h1
      · exact h1
      · rcases List.mem_cons.mp ((h b).mpr (by simp)) with h2 | h2
        · exact h2.symm
        · exact absurd (Key.trans (ha'.1 _ h2) (hb'.1 _ h1)) (by simp [Key.irrefl])
    subst hab
    congr 1
    refine Increasing.eq_of_mem_iff ha'.2 hb'.2 fun x => ⟨fun hx => ?_, fun hx => ?_⟩
    · rcases List.mem_cons.mp ((h x).mp (List.mem_cons_of_mem _ hx)) with rfl | h1
      · exact absurd (ha'.1 _ hx) (by simp [Key.irrefl])
      · exact h1
    · rcases List.mem_cons.mp ((h x).mpr (List.mem_cons_of_mem _ hx)) with rfl | h1
      · exact absurd (hb'.1 _ hx) (by simp [Key.irrefl])
      · exact h1

/-- What is stored under each key, as bindings in the order of the keys. -/
structure Table (κ α : Type) [DecidableEq κ] [Key κ] where
  entries : List (κ × α)
  sorted : Increasing entries

namespace Table

instance [DecidableEq α] : DecidableEq (Table κ α) := fun t u =>
  decidable_of_iff (t.entries = u.entries)
    ⟨fun h => by cases t; cases u; congr, fun h => by rw [h]⟩

/-- The table that holds nothing. -/
def empty : Table κ α := ⟨[], .nil⟩

instance : Inhabited (Table κ α) := ⟨empty⟩

instance : EmptyCollection (Table κ α) := ⟨empty⟩

/-- The value stored under `k`. -/
def get? (t : Table κ α) (k : κ) : Option α :=
  lookupIn k t.entries

/-- Whether something is stored under `k`. -/
def contains (t : Table κ α) (k : κ) : Bool :=
  (t.get? k).isSome

/-- Stores `a` under `k`, in the stead of what was there. -/
def insert (t : Table κ α) (k : κ) (a : α) : Table κ α :=
  ⟨insertIn k a t.entries, t.sorted.insertIn⟩

/-- Forgets what is stored under `k`. -/
def erase (t : Table κ α) (k : κ) : Table κ α :=
  ⟨t.entries.filter fun e => e.1 ≠ k, t.sorted.filter _⟩

/-- Changes every value, with its key in view. -/
def mapWithKey (t : Table κ α) (f : κ → α → β) : Table κ β :=
  ⟨t.entries.map fun e => (e.1, f e.1 e.2), List.pairwise_map.mpr t.sorted⟩

/-- Changes every value. -/
def map (t : Table κ α) (f : α → β) : Table κ β :=
  t.mapWithKey fun _ => f

/-- Changes the value stored under `k`, if there is one. -/
def modify (t : Table κ α) (k : κ) (f : α → α) : Table κ α :=
  t.mapWithKey fun j a => if j = k then f a else a

/-- The values, in the order of their keys. -/
def values (t : Table κ α) : List α :=
  t.entries.map (·.2)

/-- The keys in use, in order. -/
def keys (t : Table κ α) : List κ :=
  t.entries.map (·.1)

/-- The number of bindings. -/
def size (t : Table κ α) : Nat :=
  t.entries.length

/-- Stores bindings one after another, so that the last one for a key counts. -/
def insertAll (t : Table κ α) (l : List (κ × α)) : Table κ α :=
  l.foldl (fun t e => t.insert e.1 e.2) t

/-- The table of a list of bindings, of which the last one for a key counts. -/
def ofList (l : List (κ × α)) : Table κ α :=
  empty.insertAll l

/-! ## What each operation does to the view -/

theorem mem_entries_iff {t : Table κ α} {k : κ} {a : α} :
    (k, a) ∈ t.entries ↔ t.get? k = some a :=
  (lookupIn_eq_some_iff t.sorted).symm

theorem mem_values_iff {t : Table κ α} {a : α} :
    a ∈ t.values ↔ ∃ k, t.get? k = some a := by
  simp [values, ← mem_entries_iff]

theorem ext_get? {t u : Table κ α} (h : ∀ k, t.get? k = u.get? k) : t = u := by
  have he : t.entries = u.entries := t.sorted.eq_of_mem_iff u.sorted fun x => by
    rw [mem_entries_iff (t := t), mem_entries_iff (t := u), h]
  cases t; cases u; congr

@[simp] theorem get?_empty (k : κ) : (empty : Table κ α).get? k = none := rfl

theorem get?_insert (t : Table κ α) (k j : κ) (a : α) :
    (t.insert k a).get? j = if k = j then some a else t.get? j :=
  lookupIn_insertIn k j a t.entries

theorem get?_erase (t : Table κ α) (k j : κ) :
    (t.erase k).get? j = if k = j then none else t.get? j := by
  refine Option.ext fun a => ?_
  rw [← mem_entries_iff]
  simp only [erase, List.mem_filter, mem_entries_iff, decide_eq_true_eq]
  split
  · rename_i h
    simp [h]
  · rename_i h
    simp [Ne.symm h]

theorem get?_mapWithKey (t : Table κ α) (f : κ → α → β) (j : κ) :
    (t.mapWithKey f).get? j = (t.get? j).map (f j) := by
  show lookupIn j (t.entries.map _) = (lookupIn j t.entries).map _
  induction t.entries with
  | nil => rfl
  | cons e rest ih =>
    simp only [List.map_cons, lookupIn]
    split
    · rename_i h
      simp [h]
    · exact ih

theorem get?_map (t : Table κ α) (f : α → β) (j : κ) :
    (t.map f).get? j = (t.get? j).map f :=
  get?_mapWithKey t _ j

theorem get?_modify (t : Table κ α) (k j : κ) (f : α → α) :
    (t.modify k f).get? j = if k = j then (t.get? j).map f else t.get? j := by
  rw [modify, get?_mapWithKey]
  split
  · rename_i h
    simp [h]
  · rename_i h
    simp [Ne.symm h]

end Table

end IrcClient
