import IrcClient.Proofs.Text.Base64
import IrcClient.Proofs.Text.Numeral
import IrcClient.Proofs.Text.Split
import IrcClient.Sasl.Scram

/-!
# What the server's messages say

The messages of the server are lists of attributes, and reading them goes wrong in many ways.
What it means that a message was read is said here without the reading: the message is what
its attributes spell (`Spells`), the first of a name counts (`First`), and the values are the
written forms of what they stand for (`IsServerFirst`, `IsServerFinal`). Reading succeeds
exactly on such messages (`readServerFirst_eq_ok_iff`, `readServerFinal_eq_ok_iff`), so nothing
else about a message makes the client accept it, and nothing else makes the client refuse it.
-/

namespace IrcClient

/-! ## Reading that may fail -/

theorem bind_eq_ok_iff {ε α β : Type} {x : Except ε α} {f : α → Except ε β} {b : β} :
    x >>= f = .ok b ↔ ∃ a, x = .ok a ∧ f a = .ok b := by
  cases x with
  | error e => simp [bind, Except.bind]
  | ok a => simp [bind, Except.bind]

/-- What follows a check is done where the check passes. -/
theorem unless_throw_eq_ok_iff {ε α : Type} {passes : Bool} {e : ε} {k : Except ε α} {a : α} :
    (if (!passes) = true then throw e >>= fun _ : PUnit => k else k) = .ok a ↔
      passes = true ∧ k = .ok a := by
  cases passes <;> simp [throw, throwThe, MonadExceptOf.throw, bind, Except.bind]

/-- Where each member is read from its written form only, so is the list. -/
theorem mapM_eq_ok_iff {ε α β : Type} {f : α → Except ε β} {written : β → α} {P : β → Prop}
    (hf : ∀ x y, f x = .ok y ↔ x = written y ∧ P y) : ∀ {xs : List α} {ys : List β},
    xs.mapM f = .ok ys ↔ xs = ys.map written ∧ ∀ y ∈ ys, P y
  | [], ys => by
    rw [List.mapM_nil]
    cases ys <;> simp [pure, Except.pure]
  | x :: xs, ys => by
    rw [List.mapM_cons, bind_eq_ok_iff]
    simp only [bind_eq_ok_iff, hf, mapM_eq_ok_iff hf]
    cases ys with
    | nil => simp [pure, Except.pure]
    | cons y ys =>
      simp only [pure, Except.pure, Except.ok.injEq, List.cons.injEq, List.map_cons,
        List.forall_mem_cons]
      constructor
      · rintro ⟨_, ⟨rfl, hy⟩, _, ⟨rfl, hys⟩, rfl, rfl⟩
        exact ⟨⟨rfl, rfl⟩, hy, hys⟩
      · rintro ⟨⟨rfl, rfl⟩, hy, hys⟩
        exact ⟨y, ⟨rfl, hy⟩, ys, ⟨rfl, hys⟩, rfl, rfl⟩

namespace Scram

/-! ## Attributes -/

/-- An attribute as it stands between commas. -/
def Attribute.text (a : Attribute) : List Char :=
  a.name :: '=' :: a.value.toList

/-- A message consists of attributes, with commas between them, and none ends the exchange. -/
structure Spells (message : String) (attributes : List Attribute) : Prop where
  written : message.toList = [','].intercalate (attributes.map Attribute.text)
  ne_nil : attributes ≠ []
  noComma : ∀ a ∈ attributes, ',' ∉ a.text
  /-- An error, or an extension that the client would have to know, ends the exchange. -/
  allowed : ∀ a ∈ attributes, a.name ≠ 'e' ∧ a.name ≠ 'm'

/-- The first attribute of a name has a value. -/
def First (attributes : List Attribute) (name : Char) (value : String) : Prop :=
  ∃ before after, attributes = before ++ ⟨name, value⟩ :: after ∧ ∀ a ∈ before, a.name ≠ name

theorem readAttribute_eq_ok_iff {message : String} {s : List Char} {a : Attribute} :
    readAttribute message s = .ok a ↔ s = a.text ∧ a.name ≠ 'e' ∧ a.name ≠ 'm' := by
  unfold readAttribute
  split
  · rename_i name value
    split
    · rename_i he
      simp only [reduceCtorEq, false_iff]
      rintro ⟨hs, hne, -⟩
      cases hs
      exact hne he
    · split
      · rename_i hm
        simp only [reduceCtorEq, false_iff]
        rintro ⟨hs, -, hne⟩
        cases hs
        exact hne hm
      · rename_i he hm
        constructor
        · intro h
          cases h
          exact ⟨by rw [Attribute.text, String.toList_ofList], he, hm⟩
        · rintro ⟨hs, -⟩
          cases hs
          rw [String.ofList_toList]
  · rename_i h
    simp only [reduceCtorEq, false_iff]
    rintro ⟨hs, -⟩
    exact h _ _ hs

theorem readAttributes_eq_ok_iff {message : String} {attributes : List Attribute} :
    readAttributes message = .ok attributes ↔ Spells message attributes := by
  rw [readAttributes, mapM_eq_ok_iff (fun _ _ => readAttribute_eq_ok_iff), pieces_eq_iff,
    ne_eq, List.map_eq_nil_iff, List.forall_mem_map]
  constructor
  · rintro ⟨⟨written, hne, hcomma⟩, hallowed⟩
    exact ⟨written, hne, hcomma, hallowed⟩
  · rintro ⟨written, hne, hcomma, hallowed⟩
    exact ⟨⟨written, hne, hcomma⟩, hallowed⟩

theorem require_eq_ok_iff {attributes : List Attribute} {name : Char} {message value : String} :
    require attributes name message = .ok value ↔ First attributes name value := by
  -- what is looked up is the first attribute of the name
  have hfind : ∀ a : Attribute, attributes.find? (·.name = name) = some a ↔
      a.name = name ∧ First attributes name a.value := by
    rintro ⟨name', value'⟩
    rw [List.find?_eq_some_iff_append]
    constructor
    · rintro ⟨hname, before, after, he, hb⟩
      obtain rfl : name' = name := by simpa using hname
      exact ⟨rfl, before, after, he, by simpa using hb⟩
    · rintro ⟨rfl, before, after, he, hb⟩
      exact ⟨by simp, before, after, he, by simpa using hb⟩
  unfold require
  cases h : attributes.find? (·.name = name) with
  | some a =>
    obtain ⟨hname, hfirst⟩ := (hfind a).mp h
    constructor
    · intro hv
      cases hv
      exact hfirst
    · intro hv
      have := (hfind ⟨name, value⟩).mpr ⟨rfl, hv⟩
      rw [h] at this
      cases this
      rfl
  | none =>
    simp only [reduceCtorEq, false_iff]
    intro hv
    have := (hfind ⟨name, value⟩).mpr ⟨rfl, hv⟩
    rw [h] at this
    cases this

/-! ## Values -/

theorem readText_eq_ok_iff {what : String} {challenge : Bytes} {text : String} :
    readText what challenge = .ok text ↔ Utf8.encode text = challenge := by
  rw [← Utf8.decode?_eq_some_iff, readText]
  cases Utf8.decode? challenge <;> simp

theorem saslDecode_eq_ok_iff {text : String} {bytes : Bytes} :
    SaslError.decode text = .ok bytes ↔ Base64.encode bytes = text := by
  rw [← Base64.decode_eq_ok_iff, SaslError.decode]
  cases Base64.decode text with
  | ok _ => exact ⟨fun h => congrArg _ (Except.ok.inj h), fun h => congrArg _ (Except.ok.inj h)⟩
  | error e => exact iff_of_false (by rintro ⟨⟩) (by rintro ⟨⟩)

/-- A nonce goes on where another ends. -/
def Extends (nonce serverNonce : String) : Prop :=
  ∃ suffix, suffix ≠ "" ∧ serverNonce = nonce ++ suffix

theorem isExtendedBy_iff {nonce serverNonce : String} :
    isExtendedBy nonce serverNonce = true ↔ Extends nonce serverNonce := by
  unfold isExtendedBy
  cases h : rest? nonce.toList serverNonce.toList with
  | some rest =>
    rw [rest?_eq_some_iff] at h
    simp only [Bool.not_eq_true', List.isEmpty_eq_false_iff, Extends]
    constructor
    · intro hne
      refine ⟨String.ofList rest, by simpa using hne, ?_⟩
      rw [← String.toList_inj, h, String.toList_append, String.toList_ofList]
    · rintro ⟨suffix, hne, rfl⟩
      rw [String.toList_append] at h
      rw [← List.append_cancel_left h]
      simpa using hne
  | none =>
    simp only [Bool.false_eq_true, false_iff]
    rintro ⟨suffix, -, rfl⟩
    have := rest?_eq_some_iff.mpr (String.toList_append (s := nonce) (t := suffix))
    rw [h] at this
    cases this

theorem readIterations_eq_ok_iff {count : String} {n : Nat} :
    readIterations count = .ok n ↔ IsNumeral count n ∧ 1 ≤ n ∧ n ≤ maxIterations := by
  have hcount : ((parseCount (Nat.pow 2 32) count.toList).filter
      fun n => 0 < n && n ≤ maxIterations) = some n ↔
      IsNumeral count n ∧ 1 ≤ n ∧ n ≤ maxIterations := by
    rw [Option.filter_eq_some_iff, parseCount_eq_some_iff, Bool.and_eq_true, decide_eq_true_eq,
      decide_eq_true_eq, and_assoc]
    refine and_congr_right fun _ => and_iff_right_of_imp fun h => ?_
    exact Nat.lt_of_le_of_lt h.2 (by decide)
  rw [← hcount, readIterations]
  cases (parseCount (Nat.pow 2 32) count.toList).filter fun n => 0 < n && n ≤ maxIterations <;>
    simp

/-! ## Messages -/

/-- A challenge is a first message of the server, for a client with a given nonce. -/
structure IsServerFirst (nonce : String) (challenge : Bytes) (m : ServerFirst) : Prop where
  utf8 : Utf8.encode m.text = challenge
  attributes : ∃ attributes count, Spells m.text attributes ∧ First attributes 'r' m.nonce ∧
    First attributes 's' (Base64.encode m.salt) ∧ First attributes 'i' count ∧
    IsNumeral count m.iterations
  nonce : Extends nonce m.nonce
  iterations : 1 ≤ m.iterations ∧ m.iterations ≤ maxIterations

/-- A challenge is a last message of the server, which holds a signature. -/
def IsServerFinal (challenge signature : Bytes) : Prop :=
  ∃ text attributes, Utf8.encode text = challenge ∧ Spells text attributes ∧
    First attributes 'v' (Base64.encode signature)

/-- **The first message of the server is read exactly where it is one.** -/
theorem readServerFirst_eq_ok_iff {nonce : String} {challenge : Bytes} {m : ServerFirst} :
    readServerFirst nonce challenge = .ok m ↔ IsServerFirst nonce challenge m := by
  unfold readServerFirst
  simp only [bind_eq_ok_iff, unless_throw_eq_ok_iff, readText_eq_ok_iff, readAttributes_eq_ok_iff,
    require_eq_ok_iff, saslDecode_eq_ok_iff, readIterations_eq_ok_iff, isExtendedBy_iff]
  constructor
  · rintro ⟨text, htext, attributes, hspells, _, hr, hext, _, hs, salt, rfl, count, hi, n,
      ⟨hn, hbounds⟩, hm⟩
    cases hm
    exact ⟨htext, ⟨attributes, count, hspells, hr, hs, hi, hn⟩, hext, hbounds⟩
  · rintro ⟨htext, ⟨attributes, count, hspells, hr, hs, hi, hn⟩, hext, hbounds⟩
    exact ⟨_, htext, attributes, hspells, _, hr, hext, _, hs, _, rfl, count, hi, _,
      ⟨hn, hbounds⟩, rfl⟩

/-- **The last message of the server is read exactly where it is one.** -/
theorem readServerFinal_eq_ok_iff {challenge signature : Bytes} :
    readServerFinal challenge = .ok signature ↔ IsServerFinal challenge signature := by
  simp only [readServerFinal, bind_eq_ok_iff, readText_eq_ok_iff, readAttributes_eq_ok_iff,
    require_eq_ok_iff, saslDecode_eq_ok_iff]
  constructor
  · rintro ⟨text, htext, attributes, hspells, value, hfirst, rfl⟩
    exact ⟨text, attributes, htext, hspells, hfirst⟩
  · rintro ⟨text, attributes, htext, hspells, hfirst⟩
    exact ⟨text, htext, attributes, hspells, _, hfirst, rfl⟩

end Scram

end IrcClient
