import IrcClient.Proofs.Text.Utf8
import IrcClient.Text.Base64

/-!
# Base64 is canonical

What is written is read back, and whatever is read is what would have been written
(`decode_eq_ok_iff`). So a text that is not the Base64 of anything is refused: bits that stand
for nothing have to be zero, and padding has to fill the last group and no more.

Both directions go by the values of six bits (`values`) between the bytes and the symbols:
symbols and values correspond one to one, and values make up bytes in groups of four.
-/

namespace IrcClient.Base64

/-! ## Values -/

/-- The values of six bits that some bytes are made of. Zeros fill up the last one. -/
def values : Bytes → List Nat
  | a :: b :: c :: rest =>
    let n := 65536 * a.toNat + 256 * b.toNat + c.toNat
    n / 262144 :: n / 4096 % 64 :: n / 64 % 64 :: n % 64 :: values rest
  | [a, b] =>
    let n := 1024 * a.toNat + 4 * b.toNat
    [n / 4096, n / 64 % 64, n % 64]
  | [a] =>
    let n := 16 * a.toNat
    [n / 64, n % 64]
  | [] => []

/-- How much padding goes behind the values. -/
def padLength (bytes : Bytes) : Nat :=
  (4 - (values bytes).length % 4) % 4

theorem values_lt : ∀ {bytes : Bytes}, ∀ v ∈ values bytes, v < 64
  | a :: b :: c :: rest, v, h => by
    have ha := a.toNat_lt
    have hb := b.toNat_lt
    have hc := c.toNat_lt
    simp only [values, List.mem_cons] at h
    rcases h with rfl | rfl | rfl | rfl | h
    · omega
    · omega
    · omega
    · omega
    · exact values_lt v h
  | [a, b], v, h => by
    have ha := a.toNat_lt
    have hb := b.toNat_lt
    simp only [values, List.mem_cons, List.not_mem_nil, or_false] at h
    omega
  | [a], v, h => by
    have ha := a.toNat_lt
    simp only [values, List.mem_cons, List.not_mem_nil, or_false] at h
    omega
  | [], v, h => absurd h (by simp [values])

/-- One value alone holds no byte. -/
theorem length_values_ne : ∀ bytes : Bytes, (values bytes).length % 4 ≠ 1
  | a :: b :: c :: rest => by
    have := length_values_ne rest
    simp only [values, List.length_cons]
    omega
  | [a, b] | [a] | [] => by simp [values]

theorem symbols_eq : ∀ bytes : Bytes,
    symbols bytes = (values bytes).map symbol ++ List.replicate (padLength bytes) '='
  | a :: b :: c :: rest => by
    have hp : padLength (a :: b :: c :: rest) = padLength rest := by
      simp only [padLength, values, List.length_cons]
      omega
    rw [symbols, values, hp, symbols_eq rest]
    rfl
  | [a, b] | [a] | [] => rfl

/-- Bytes are made up again from their values. -/
theorem ofValues_values : ∀ bytes : Bytes, ofValues (values bytes) = (bytes, true)
  | a :: b :: c :: rest => by
    have ha := a.toNat_lt
    have hb := b.toNat_lt
    have hc := c.toNat_lt
    simp only [values, ofValues, ofValues_values rest]
    rw [Utf8.ofNat_eq (b := a) (by omega), Utf8.ofNat_eq (b := b) (by omega),
      Utf8.ofNat_eq (b := c) (by omega)]
  | [a, b] => by
    have ha := a.toNat_lt
    have hb := b.toNat_lt
    simp only [values, ofValues]
    rw [Utf8.ofNat_eq (b := a) (by omega), Utf8.ofNat_eq (b := b) (by omega),
      decide_eq_true (by omega)]
  | [a] => by
    have ha := a.toNat_lt
    simp only [values, ofValues]
    rw [Utf8.ofNat_eq (b := a) (by omega), decide_eq_true (by omega)]
  | [] => rfl

/-- Values that make up bytes, with nothing left over, are those of the bytes. -/
theorem values_of_ofValues : ∀ {vs : List Nat} {bytes : Bytes}, (∀ v ∈ vs, v < 64) →
    vs.length % 4 ≠ 1 → ofValues vs = (bytes, true) → values bytes = vs
  | a :: b :: c :: d :: rest, bytes, hlt, hlen, h => by
    simp only [List.forall_mem_cons] at hlt
    obtain ⟨ha, hb, hc, hd, hrest⟩ := hlt
    simp only [ofValues, Prod.mk.injEq] at h
    -- four values make three bytes, and these are cut at the same places again
    obtain ⟨rfl, hclean⟩ := h
    have ih := values_of_ofValues hrest
      (by simpa only [List.length_cons, Nat.add_assoc, Nat.add_mod_right] using hlen)
      (Prod.ext rfl hclean)
    simp only [values, ih]
    rw [Utf8.toNat_ofNat (by omega), Utf8.toNat_ofNat (by omega), Utf8.toNat_ofNat (by omega)]
    congr 1
    · omega
    congr 1
    · omega
    congr 1
    · omega
    congr 1
    omega
  | [a, b, c], bytes, hlt, hlen, h => by
    simp only [List.forall_mem_cons] at hlt
    obtain ⟨ha, hb, hc, -⟩ := hlt
    simp only [ofValues, Prod.mk.injEq, decide_eq_true_eq] at h
    -- three values make two bytes only if the bits that are left over are zero
    obtain ⟨rfl, hclean⟩ := h
    simp only [values]
    rw [Utf8.toNat_ofNat (by omega), Utf8.toNat_ofNat (by omega)]
    congr 1
    · omega
    congr 1
    · omega
    congr 1
    omega
  | [a, b], bytes, hlt, hlen, h => by
    simp only [List.forall_mem_cons] at hlt
    obtain ⟨ha, hb, -⟩ := hlt
    simp only [ofValues, Prod.mk.injEq, decide_eq_true_eq] at h
    obtain ⟨rfl, hclean⟩ := h
    simp only [values]
    rw [Utf8.toNat_ofNat (by omega)]
    congr 1
    · omega
    congr 1
    omega
  | [a], bytes, hlt, hlen, h => absurd rfl hlen
  | [], bytes, hlt, hlen, h => by
    cases h
    rfl

/-! ## Symbols -/

/-- The byte of the symbol of a value. -/
def symbolByte (v : Nat) : UInt8 :=
  .ofNat (symbol v).toNat

theorem symbol_ascii : ∀ v < 64, (symbol v).toNat < 0x80 := by decide +kernel

theorem value?_symbolByte : ∀ v < 64, value? (symbolByte v) = some v := by decide +kernel

theorem symbolByte_of_value? {b : UInt8} {v : Nat} (h : value? b = some v) :
    v < 64 ∧ symbolByte v = b := by
  have hall : ∀ n < 256, ∀ v ∈ value? (.ofNat n), v < 64 ∧ (symbol v).toNat = n := by decide +kernel
  have hb : UInt8.ofNat b.toNat = b := UInt8.ofNat_toNat
  obtain ⟨hv, hs⟩ := hall b.toNat b.toNat_lt v (by rwa [hb])
  exact ⟨hv, by rw [symbolByte, hs, hb]⟩

theorem value?_pad : value? pad = none := by decide

/-- The text of some bytes, as bytes. -/
def textBytes (bytes : Bytes) : Bytes :=
  (values bytes).map symbolByte ++ List.replicate (padLength bytes) pad

theorem encodeChar_ascii {c : Char} (h : c.toNat < 0x80) :
    Utf8.encodeChar c = [.ofNat c.toNat] := by
  unfold Utf8.encodeChar
  exact if_pos h

theorem flatMap_encodeChar_ascii : ∀ {cs : List Char}, (∀ c ∈ cs, c.toNat < 0x80) →
    cs.flatMap Utf8.encodeChar = cs.map fun c => .ofNat c.toNat
  | [], _ => rfl
  | c :: cs, h => by
    rw [List.forall_mem_cons] at h
    rw [List.flatMap_cons, encodeChar_ascii h.1, flatMap_encodeChar_ascii h.2]
    rfl

/-- What holds of the alphabet and of the padding holds of all that is written. -/
theorem forall_mem_symbols {P : Char → Prop} (hs : ∀ v < 64, P (symbol v)) (hp : P '=')
    (bytes : Bytes) : ∀ c ∈ symbols bytes, P c := by
  intro c hc
  rw [symbols_eq, List.mem_append, List.mem_map, List.mem_replicate] at hc
  obtain ⟨v, hv, rfl⟩ | ⟨-, rfl⟩ := hc
  · exact hs v (values_lt v hv)
  · exact hp

theorem comma_notMem_encode (bytes : Bytes) : ',' ∉ (encode bytes).toList := by
  rw [encode, String.toList_ofList]
  exact fun h => forall_mem_symbols (P := (· ≠ ',')) (by decide +kernel) (by decide) bytes _ h rfl

theorem utf8_encode (bytes : Bytes) : Utf8.encode (encode bytes) = textBytes bytes := by
  have hs : ∀ c ∈ symbols bytes, c.toNat < 0x80 :=
    forall_mem_symbols symbol_ascii (by decide) bytes
  rw [Utf8.encode, encode, String.toList_ofList, flatMap_encodeChar_ascii hs, symbols_eq,
    List.map_append, List.map_map, List.map_replicate]
  rfl

/-! ## Reading -/

theorem padsWell_iff {n : Nat} {padding : Bytes} : padsWell n padding = true ↔
    2 ≤ n % 4 ∧ (∀ b ∈ padding, b = pad) ∧ n % 4 + padding.length ≤ 4 := by
  simp [padsWell, and_assoc]

theorem shapeFault_eq_none_iff {length n : Nat} {tail : Bytes} :
    shapeFault true length n tail = none ↔
      length % 4 = 0 ∧ (tail = [] ∨ padsWell n tail = true) := by
  by_cases h1 : length % 4 = 1
  · simp [shapeFault, h1]
  · cases tail with
    | nil => simp [shapeFault, h1]
    | cons b tail =>
      by_cases hw : padsWell n (b :: tail) = true
      · obtain rfl : b = pad := (padsWell_iff.mp hw).2.1 b List.mem_cons_self
        simp [shapeFault, h1, hw]
      · simp [shapeFault, h1, hw]

/-- Text has the right shape where padding fills its last group, which holds a byte. -/
theorem wellShaped_iff {n : Nat} {tail : Bytes} :
    shapeFault true (n + tail.length) n tail = none ↔
      n % 4 ≠ 1 ∧ tail = List.replicate ((4 - n % 4) % 4) pad := by
  rw [shapeFault_eq_none_iff, padsWell_iff, List.eq_replicate_iff]
  constructor
  · rintro ⟨hlen, rfl | ⟨hn, hpad, hle⟩⟩
    · rw [List.length_nil, Nat.add_zero] at hlen
      exact ⟨by omega, by rw [List.length_nil]; omega, by simp⟩
    · exact ⟨by omega, by omega, hpad⟩
  · rintro ⟨hn, hlen, hpad⟩
    refine ⟨by omega, ?_⟩
    by_cases h0 : n % 4 = 0
    · exact .inl (List.length_eq_zero_iff.mp (by omega))
    · exact .inr ⟨by omega, hpad, by omega⟩

/-- What is read as values is symbols. -/
theorem map_symbolByte_filterMap : ∀ {body : Bytes}, (∀ b ∈ body, (value? b).isSome = true) →
    (body.filterMap value?).map symbolByte = body
  | [], _ => rfl
  | b :: body, h => by
    rw [List.forall_mem_cons] at h
    obtain ⟨v, hv⟩ := Option.isSome_iff_exists.mp h.1
    rw [List.filterMap_cons_some hv, List.map_cons, (symbolByte_of_value? hv).2,
      map_symbolByte_filterMap h.2]

theorem filterMap_map_symbolByte : ∀ {vs : List Nat}, (∀ v ∈ vs, v < 64) →
    (vs.map symbolByte).filterMap value? = vs
  | [], _ => rfl
  | v :: vs, h => by
    rw [List.forall_mem_cons] at h
    rw [List.map_cons, List.filterMap_cons_some (value?_symbolByte v h.1),
      filterMap_map_symbolByte h.2]

/-- The text of some bytes is taken apart at its padding. -/
theorem span_textBytes (bytes : Bytes) :
    ((textBytes bytes).takeWhile fun b => (value? b).isSome) = (values bytes).map symbolByte ∧
    ((textBytes bytes).dropWhile fun b => (value? b).isSome) =
      List.replicate (padLength bytes) pad := by
  have hs : ∀ b ∈ (values bytes).map symbolByte, (value? b).isSome = true := by
    intro b hb
    obtain ⟨v, hv, rfl⟩ := List.mem_map.mp hb
    rw [value?_symbolByte v (values_lt v hv)]
    rfl
  rw [textBytes, List.takeWhile_append_of_pos hs, List.dropWhile_append_of_pos hs]
  cases padLength bytes with
  | zero => simp
  | succ k => simp [List.replicate_succ, value?_pad]

theorem decodeWith_textBytes (bytes : Bytes) : decodeWith true (textBytes bytes) = .ok bytes := by
  obtain ⟨hbody, htail⟩ := span_textBytes bytes
  have hlen : (textBytes bytes).length =
      ((values bytes).map symbolByte).length + (List.replicate (padLength bytes) pad).length := by
    rw [textBytes, List.length_append]
  have hshape : shapeFault true (textBytes bytes).length ((values bytes).map symbolByte).length
      (List.replicate (padLength bytes) pad) = none := by
    rw [hlen, wellShaped_iff, List.length_map]
    exact ⟨length_values_ne bytes, rfl⟩
  rw [decodeWith, hbody, htail, hshape, filterMap_map_symbolByte values_lt, ofValues_values]
  rfl

/-- Bytes are only read from their own text. -/
theorem textBytes_of_decodeWith {text bytes : Bytes} (h : decodeWith true text = .ok bytes) :
    textBytes bytes = text := by
  unfold decodeWith at h
  dsimp only at h
  have happ := List.takeWhile_append_dropWhile (l := text) (p := fun b => (value? b).isSome)
  have hbody : ∀ b ∈ text.takeWhile fun b => (value? b).isSome, (value? b).isSome = true :=
    List.all_eq_true.mp List.all_takeWhile
  -- the text is its symbols and what stands behind them
  generalize text.takeWhile (fun b => (value? b).isSome) = body at h happ hbody
  generalize text.dropWhile (fun b => (value? b).isSome) = tail at h happ
  subst happ
  rw [List.length_append] at h
  cases hs : shapeFault true (body.length + tail.length) body.length tail with
  | some e =>
    rw [hs] at h
    cases h
  | none =>
    rw [hs] at h
    -- what stands behind them is the padding, as much as there has to be
    obtain ⟨hlen, rfl⟩ := wellShaped_iff.mp hs
    have hmap := map_symbolByte_filterMap hbody
    have hvs : ∀ v ∈ body.filterMap value?, v < 64 := by
      intro v hv
      obtain ⟨b, -, hb⟩ := List.mem_filterMap.mp hv
      exact (symbolByte_of_value? hb).1
    generalize body.filterMap value? = vs at h hmap hvs
    subst hmap
    rw [List.length_map] at hlen
    have hof : ofValues vs = (bytes, true) := by
      cases hv : ofValues vs with
      | mk read clean =>
        rw [hv] at h
        cases clean with
        | true =>
          cases h
          rfl
        | false => cases h
    have hvalues := values_of_ofValues hvs hlen hof
    rw [textBytes, padLength, hvalues, List.length_map]

/-- **Base64 is read exactly as it is written.** -/
theorem decode_eq_ok_iff {text : String} {bytes : Bytes} :
    decode text = .ok bytes ↔ encode bytes = text := by
  constructor
  · intro h
    exact Utf8.encode_inj ((utf8_encode bytes).trans (textBytes_of_decodeWith h))
  · rintro rfl
    rw [decode, utf8_encode, decodeWith_textBytes]

theorem decode_encode (bytes : Bytes) : decode (encode bytes) = .ok bytes :=
  decode_eq_ok_iff.mpr rfl

end IrcClient.Base64
