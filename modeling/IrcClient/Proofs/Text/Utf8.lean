import IrcClient.Text.Utf8

/-!
# Text and its bytes

Strict reading and writing are inverse to each other (`decode?_eq_some_iff`): a text is read
back from its bytes, and bytes that are read are those of the text. So there is one way to
write each text, and overlong forms, surrogates and what breaks off are the bytes of none.

Both directions go by the first byte of a character (`IsLead`). It tells how many bytes follow
and which bits it brings, and its bounds for the second byte are what keeps the number of the
character within the range that its length is for.
-/

namespace IrcClient.Utf8

/-- The bytes of a text are those that the library gives it. -/
theorem encode_eq_utf8EncodeChar (s : String) :
    encode s = s.toList.flatMap String.utf8EncodeChar := by
  have hchar : encodeChar = String.utf8EncodeChar := by
    funext c
    have hv : c.toNat < 0xD800 ∨ 0xDFFF < c.toNat ∧ c.toNat < 0x110000 := c.valid
    have hn : c.val.toNat = c.toNat := rfl
    unfold encodeChar String.utf8EncodeChar
    rw [hn]
    generalize c.toNat = n at hv
    grind
  rw [encode, hchar]

/-! ## First bytes -/

/-- What the first byte of a character can say. -/
inductive IsLead : Nat → Lead → Prop where
  | one (n : Nat) (h : n < 0x80) : IsLead n ⟨0, n, 0, 0⟩
  | two (k : Nat) (h : 2 ≤ k) (h' : k < 32) : IsLead (0xC0 + k) ⟨1, k, 0x80, 0xBF⟩
  | three (k : Nat) (h : k < 16) :
      IsLead (0xE0 + k) ⟨2, k, if k = 0 then 0xA0 else 0x80, if k = 13 then 0x9F else 0xBF⟩
  | four (k : Nat) (h : k < 5) :
      IsLead (0xF0 + k) ⟨3, k, if k = 0 then 0x90 else 0x80, if k = 4 then 0x8F else 0xBF⟩

theorem lead?_of_isLead {b : UInt8} {n : Nat} {l : Lead} (h : IsLead n l) (hb : b.toNat = n) :
    lead? b = some l := by
  unfold lead?
  rw [hb]
  cases h with
  | one n h => simp [h]
  | two k h h' => grind
  | three k h => grind
  | four k h => grind

theorem exists_isLead {n : Nat} (h : n < 0x80 ∨ 0xC2 ≤ n ∧ n ≤ 0xF4) : ∃ l, IsLead n l := by
  by_cases h1 : n < 0x80
  · exact ⟨_, .one n h1⟩
  · by_cases h2 : n < 0xE0
    · obtain ⟨k, rfl⟩ := Nat.exists_eq_add_of_le (show 0xC0 ≤ n by omega)
      exact ⟨_, .two k (by omega) (by omega)⟩
    · by_cases h3 : n < 0xF0
      · obtain ⟨k, rfl⟩ := Nat.exists_eq_add_of_le (show 0xE0 ≤ n by omega)
        exact ⟨_, .three k (by omega)⟩
      · obtain ⟨k, rfl⟩ := Nat.exists_eq_add_of_le (show 0xF0 ≤ n by omega)
        exact ⟨_, .four k (by omega)⟩

theorem lead?_eq_none {b : UInt8} (h : ¬ (b.toNat < 0x80 ∨ 0xC2 ≤ b.toNat ∧ b.toNat ≤ 0xF4)) :
    lead? b = none := by
  grind [lead?]

theorem isLead_of_lead? {b : UInt8} {l : Lead} (h : lead? b = some l) : IsLead b.toNat l := by
  by_cases hr : b.toNat < 0x80 ∨ 0xC2 ≤ b.toNat ∧ b.toNat ≤ 0xF4
  · obtain ⟨l', hl⟩ := exists_isLead hr
    rw [lead?_of_isLead hl rfl] at h
    cases h
    exact hl
  · rw [lead?_eq_none hr] at h
    cases h

/-! ## Further bytes -/

theorem follow_zero (bits least greatest : Nat) (rest : Bytes) :
    follow bits least greatest 0 rest = (some (Char.ofNat bits), rest) := rfl

/-- A byte within the bounds brings six bits. -/
theorem follow_succ {bits least greatest more x : Nat} {b : UInt8} (hb : b.toNat = 0x80 + x)
    (hl : least ≤ 0x80 + x) (hg : 0x80 + x ≤ greatest) (rest : Bytes) :
    follow bits least greatest (more + 1) (b :: rest) =
      follow (64 * bits + x) 0x80 0xBF more rest := by
  simp [follow, hb, hl, hg]

/-- Where a character is read, the next byte was within the bounds. -/
theorem exists_of_follow_succ {bits least greatest more : Nat} {bytes rest : Bytes} {c : Char}
    (h : follow bits least greatest (more + 1) bytes = (some c, rest)) (h80 : 0x80 ≤ least) :
    ∃ b x tail, bytes = b :: tail ∧ b.toNat = 0x80 + x ∧ least ≤ 0x80 + x ∧
      0x80 + x ≤ greatest ∧ follow (64 * bits + x) 0x80 0xBF more tail = (some c, rest) := by
  cases bytes with
  | nil => cases h
  | cons b tail =>
    unfold follow at h
    split at h
    · rename_i hb
      simp only [Bool.and_eq_true, decide_eq_true_eq] at hb
      exact ⟨b, b.toNat - 0x80, tail, rfl, by omega, by omega, by omega, h⟩
    · cases h

/-! ## Characters -/

theorem toNat_ofNat {n : Nat} (h : n < 256) : (UInt8.ofNat n).toNat = n :=
  UInt8.toNat_ofNat_of_lt' h

theorem ofNat_eq {b : UInt8} {n : Nat} (h : b.toNat = n) : UInt8.ofNat n = b := by
  rw [← h, UInt8.ofNat_toNat]

theorem next_of_isLead {b : UInt8} {n : Nat} {l : Lead} (h : IsLead n l) (hb : b.toNat = n)
    (rest : Bytes) : next b rest = follow l.bits l.least l.greatest l.more rest := by
  rw [next, lead?_of_isLead h hb]

/-- A character is read back, whatever follows it. -/
theorem next_encodeChar (c : Char) (rest : Bytes) :
    ∃ b tail, encodeChar c = b :: tail ∧ next b (tail ++ rest) = (some c, rest) := by
  have hv : c.toNat < 0xD800 ∨ 0xDFFF < c.toNat ∧ c.toNat < 0x110000 := c.valid
  have hc := Char.ofNat_toNat c
  unfold encodeChar
  generalize c.toNat = n at hv hc
  subst hc
  dsimp only
  -- one case for each length of a character
  split
  · refine ⟨_, _, rfl, ?_⟩
    rw [next_of_isLead (.one n ‹_›) (toNat_ofNat (by omega))]
    rfl
  · split
    · refine ⟨_, _, rfl, ?_⟩
      rw [next_of_isLead (.two (n / 64) (by omega) (by omega)) (toNat_ofNat (by omega))]
      simp only [List.cons_append, List.nil_append]
      rw [follow_succ (toNat_ofNat (by omega)) (by omega) (by omega), follow_zero,
        Nat.div_add_mod]
    · split
      · refine ⟨_, _, rfl, ?_⟩
        rw [next_of_isLead (.three (n / 4096) (by omega)) (toNat_ofNat (by omega))]
        simp only [List.cons_append, List.nil_append]
        rw [follow_succ (toNat_ofNat (by omega)) (by split <;> omega) (by split <;> omega),
          follow_succ (toNat_ofNat (by omega)) (by omega) (by omega), follow_zero,
          show 64 * (64 * (n / 4096) + n / 64 % 64) + n % 64 = n by omega]
      · refine ⟨_, _, rfl, ?_⟩
        rw [next_of_isLead (.four (n / 262144) (by omega)) (toNat_ofNat (by omega))]
        simp only [List.cons_append, List.nil_append]
        rw [follow_succ (toNat_ofNat (by omega)) (by split <;> omega) (by split <;> omega),
          follow_succ (toNat_ofNat (by omega)) (by omega) (by omega),
          follow_succ (toNat_ofNat (by omega)) (by omega) (by omega), follow_zero,
          show 64 * (64 * (64 * (n / 262144) + n / 4096 % 64) + n / 64 % 64) + n % 64 = n by omega]

theorem toNat_charOfNat {n : Nat} (h : n < 0xD800 ∨ 0xDFFF < n ∧ n < 0x110000) :
    (Char.ofNat n).toNat = n := by
  rw [Char.ofNat, dif_pos h]
  rfl

theorem encodeChar_ofNat {n : Nat} (h : n < 0xD800 ∨ 0xDFFF < n ∧ n < 0x110000) :
    encodeChar (Char.ofNat n) =
      if n < 0x80 then [.ofNat n]
      else if n < 0x800 then [.ofNat (0xC0 + n / 64), .ofNat (0x80 + n % 64)]
      else if n < 0x10000 then
        [.ofNat (0xE0 + n / 4096), .ofNat (0x80 + n / 64 % 64), .ofNat (0x80 + n % 64)]
      else
        [.ofNat (0xF0 + n / 262144), .ofNat (0x80 + n / 4096 % 64), .ofNat (0x80 + n / 64 % 64),
          .ofNat (0x80 + n % 64)] := by
  rw [encodeChar, toNat_charOfNat h]

/-- What is read as a character are the bytes of that character. -/
theorem encodeChar_of_next {b : UInt8} {bytes rest : Bytes} {c : Char}
    (h : next b bytes = (some c, rest)) : encodeChar c ++ rest = b :: bytes := by
  unfold next at h
  split at h
  · cases h
  · rename_i l hl
    have hl := isLead_of_lead? hl
    generalize hb : b.toNat = n at hl
    cases hl with
    | one n hn =>
      dsimp only at h
      cases h
      rw [encodeChar_ofNat (by omega), if_pos hn, ofNat_eq hb]
      rfl
    | two k hk hk' =>
      dsimp only at h
      obtain ⟨b₁, x, _, rfl, h₁, hx, hx', h⟩ := exists_of_follow_succ h (by omega)
      cases h
      rw [encodeChar_ofNat (by omega), if_neg (by omega), if_pos (by omega),
        ofNat_eq (b := b) (by omega), ofNat_eq (b := b₁) (by omega)]
      rfl
    | three k hk =>
      dsimp only at h
      obtain ⟨b₁, x, _, rfl, h₁, hx, hx', h⟩ := exists_of_follow_succ h (by split <;> omega)
      obtain ⟨b₂, y, _, rfl, h₂, hy, hy', h⟩ := exists_of_follow_succ h (by omega)
      cases h
      -- three bytes are never too many, and never make a surrogate
      have hlow : k = 0 → 0x20 ≤ x := by
        intro hk
        rw [if_pos hk] at hx
        omega
      have hhigh : k = 13 → x < 0x20 := by
        intro hk
        rw [if_pos hk] at hx'
        omega
      have hx : x < 64 := by
        split at hx' <;> omega
      rw [encodeChar_ofNat (by omega), if_neg (by omega), if_neg (by omega), if_pos (by omega),
        ofNat_eq (b := b) (by omega), ofNat_eq (b := b₁) (by omega), ofNat_eq (b := b₂) (by omega)]
      rfl
    | four k hk =>
      dsimp only at h
      obtain ⟨b₁, x, _, rfl, h₁, hx, hx', h⟩ := exists_of_follow_succ h (by split <;> omega)
      obtain ⟨b₂, y, _, rfl, h₂, hy, hy', h⟩ := exists_of_follow_succ h (by omega)
      obtain ⟨b₃, z, _, rfl, h₃, hz, hz', h⟩ := exists_of_follow_succ h (by omega)
      cases h
      -- four bytes are never too many, and never lead beyond the last character
      have hlow : k = 0 → 0x10 ≤ x := by
        intro hk
        rw [if_pos hk] at hx
        omega
      have hhigh : k = 4 → x < 0x10 := by
        intro hk
        rw [if_pos hk] at hx'
        omega
      have hx : x < 64 := by
        split at hx' <;> omega
      rw [encodeChar_ofNat (by omega), if_neg (by omega), if_neg (by omega), if_neg (by omega),
        ofNat_eq (b := b) (by omega), ofNat_eq (b := b₁) (by omega), ofNat_eq (b := b₂) (by omega),
        ofNat_eq (b := b₃) (by omega)]
      rfl

/-! ## Texts -/

theorem scan_nil : scan [] = [] := by
  rw [scan]

theorem scan_cons (b : UInt8) (rest : Bytes) :
    scan (b :: rest) = (next b rest).1 :: scan (next b rest).2 := by
  rw [scan]

theorem scan_encode : ∀ cs : List Char, scan (cs.flatMap encodeChar) = cs.map some
  | [] => scan_nil
  | c :: cs => by
    obtain ⟨b, tail, hb, hn⟩ := next_encodeChar c (cs.flatMap encodeChar)
    rw [List.flatMap_cons, hb, List.cons_append, scan_cons, hn, scan_encode cs]
    rfl

/-- Bytes without gaps are those of the characters in them. -/
theorem encode_of_scan {bytes : Bytes} : ∀ {cs : List Char},
    scan bytes = cs.map some → cs.flatMap encodeChar = bytes := by
  fun_induction scan bytes with
  | case1 =>
    intro cs h
    rw [List.map_eq_nil_iff.mp h.symm]
    rfl
  | case2 b rest _ ih =>
    intro cs h
    cases cs with
    | nil => cases h
    | cons c cs =>
      rw [List.map_cons, List.cons.injEq] at h
      rw [List.flatMap_cons, ih h.2]
      exact encodeChar_of_next (Prod.ext h.1 rfl)

theorem mapM_id_eq_some_iff {α : Type} {xs : List α} : ∀ {l : List (Option α)},
    l.mapM id = some xs ↔ l = xs.map some := by
  intro l
  induction l generalizing xs with
  | nil => cases xs <;> simp
  | cons a l ih =>
    rw [List.mapM_cons]
    cases a with
    | none => cases xs <;> simp
    | some a =>
      cases xs with
      | nil => simp [Option.bind_eq_some_iff]
      | cons x xs => simpa [Option.bind_eq_some_iff, ← ih] using and_comm

/-- **Strict reading takes the bytes of a text and nothing else.** -/
theorem decode?_eq_some_iff {bytes : Bytes} {s : String} :
    decode? bytes = some s ↔ encode s = bytes := by
  rw [decode?, Option.map_eq_some_iff]
  constructor
  · rintro ⟨cs, h, rfl⟩
    rw [encode, String.toList_ofList]
    exact encode_of_scan (mapM_id_eq_some_iff.mp h)
  · rintro rfl
    refine ⟨s.toList, mapM_id_eq_some_iff.mpr ?_, String.ofList_toList⟩
    exact scan_encode s.toList

theorem decode?_encode (s : String) : decode? (encode s) = some s :=
  decode?_eq_some_iff.mpr rfl

theorem encode_inj {s t : String} (h : encode s = encode t) : s = t := by
  have hs := decode?_encode s
  rw [h, decode?_encode t] at hs
  exact (Option.some.inj hs).symm

/-! ## Bytes of single characters -/

theorem mem_encodeChar {c : Char} {b : UInt8} (h : b ∈ encodeChar c) :
    b.toNat = c.toNat ∨ 0x80 ≤ b.toNat := by
  have hlt : c.toNat < 0x110000 := by
    have hv : c.toNat < 0xD800 ∨ 0xDFFF < c.toNat ∧ c.toNat < 0x110000 := c.valid
    omega
  have hlarge : ∀ {n}, b = .ofNat n → 0x80 ≤ n → n < 256 → 0x80 ≤ b.toNat := by
    intro n hb hn hn'
    rw [hb, toNat_ofNat hn']
    exact hn
  unfold encodeChar at h
  dsimp only at h
  split at h
  · left
    rw [List.mem_singleton.mp h, toNat_ofNat (by omega)]
  · right
    -- the bytes of all longer forms are large
    split at h
    · simp only [List.mem_cons, List.not_mem_nil, or_false] at h
      rcases h with h | h <;> exact hlarge h (by omega) (by omega)
    · split at h
      · simp only [List.mem_cons, List.not_mem_nil, or_false] at h
        rcases h with h | h | h <;> exact hlarge h (by omega) (by omega)
      · simp only [List.mem_cons, List.not_mem_nil, or_false] at h
        rcases h with h | h | h | h <;> exact hlarge h (by omega) (by omega)

/-- An ASCII byte is in the bytes of a text only where its character is in the text. -/
theorem exists_mem_of_mem_encode {s : String} {b : UInt8} (hb : b.toNat < 0x80)
    (h : b ∈ encode s) : ∃ c ∈ s.toList, c.toNat = b.toNat := by
  obtain ⟨c, hc, hmem⟩ := List.mem_flatMap.mp h
  rcases mem_encodeChar hmem with he | hlarge
  · exact ⟨c, hc, he.symm⟩
  · omega

theorem encode_append (s t : String) : encode (s ++ t) = encode s ++ encode t := by
  rw [encode, String.toList_append, List.flatMap_append, encode, encode]

end IrcClient.Utf8
