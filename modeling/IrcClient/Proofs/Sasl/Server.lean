import IrcClient.Proofs.Digest
import IrcClient.Proofs.Sasl.Exchange

/-!
# A server for the exchange

The other party of RFC 5802, written down without looking at the client: an account that keeps
what was derived from a password but not the password, a reader for either message of the
client, and the check of its proof. Client and server come to an end whenever the server's
account was made from the client's password: the server reads the name and the nonce that the
client was given and takes its proof, and the client takes the server's signature.

Both sides sign what was said so far, and each puts that text together on its own from what it
sent and what it read. So most of what follows is about one side reading what the other wrote.
-/

namespace IrcClient

namespace ScramServer

/-! ## What the server keeps -/

/-- What a server keeps of a password. -/
structure Account where
  salt : Bytes
  iterations : Nat
  storedKey : Bytes
  serverKey : Bytes

/-- The account for a password. -/
def Account.ofPassword (digest : Digest) (password : String) (salt : Bytes) (iterations : Nat) :
    Account :=
  let keys := ScramKeys.derive digest password salt iterations
  { salt, iterations, storedKey := keys.stored, serverKey := keys.server }

/-! ## The client's first message -/

/-- What the client's first message says. -/
structure ClientFirst where
  username : String
  nonce : String
  /-- The message without its header. -/
  bare : String

/-- A name as it was before its reserved characters were written out. -/
def unescape : List Char → Option (List Char)
  | [] => some []
  | '=' :: '2' :: 'C' :: name => (unescape name).map (',' :: ·)
  | '=' :: '3' :: 'D' :: name => (unescape name).map ('=' :: ·)
  | c :: name => if c = '=' ∨ c = ',' then none else (unescape name).map (c :: ·)

/-- Reads the client's first message, which has to be one without channel binding, without
another identity and without extensions. -/
def readClientFirst (message : Bytes) : Option ClientFirst := do
  let text ← Utf8.decode? message
  let bare ← rest? "n,,".toList text.toList
  match pieces ',' bare with
  | ['n' :: '=' :: name, 'r' :: '=' :: nonce] =>
    let name ← unescape name
    return ⟨String.ofList name, String.ofList nonce, String.ofList bare⟩
  | _ => none

/-! ## The server's part -/

/-- An exchange that a client has begun. -/
structure Session where
  account : Account
  client : ClientFirst
  /-- The server's part of the nonce. -/
  suffix : String

namespace Session

/-- Takes a client's first message. -/
def start (account : Account) (suffix : String) (message : Bytes) : Option Session :=
  (readClientFirst message).map fun client => { account, client, suffix }

variable (s : Session)

/-- The nonce of both sides. -/
def nonce : String := s.client.nonce ++ s.suffix

/-- The server's first message. -/
def serverFirst : String :=
  "r=" ++ s.nonce ++ ",s=" ++ Base64.encode s.account.salt ++
    ",i=" ++ toString s.account.iterations

/-- What is signed, once the client's last message is known up to its proof. -/
def signed (clientFinal : String) : Bytes :=
  scramTranscript s.client.bare s.serverFirst clientFinal

/-- The server's last message. -/
def serverFinal (digest : Digest) (clientFinal : String) : String :=
  "v=" ++ Base64.encode (digest.hmac s.account.serverKey (s.signed clientFinal))

end Session

/-- What the client's last message says. -/
structure ClientFinal where
  binding : String
  nonce : String
  proof : Bytes
  /-- The message without its proof. -/
  bare : String

/-- Reads the client's last message. -/
def readClientFinal (message : Bytes) : Option ClientFinal := do
  let text ← Utf8.decode? message
  match pieces ',' text.toList with
  | ['c' :: '=' :: binding, 'r' :: '=' :: nonce, 'p' :: '=' :: proof] =>
    let proof ← (Base64.decode (String.ofList proof)).toOption
    let bare := [','].intercalate ['c' :: '=' :: binding, 'r' :: '=' :: nonce]
    return ⟨String.ofList binding, String.ofList nonce, proof, String.ofList bare⟩
  | _ => none

/-- Whether the client has shown that it knows the password: its proof hides a key that hashes
to the one that was stored. -/
def Session.Accepts (s : Session) (digest : Digest) (m : ClientFinal) : Prop :=
  m.binding = "biws" ∧ m.nonce = s.nonce ∧
    digest.hash (xorBytes m.proof (digest.hmac s.account.storedKey (s.signed m.bare))) =
      s.account.storedKey

instance (s : Session) (digest : Digest) (m : ClientFinal) : Decidable (s.Accepts digest m) :=
  inferInstanceAs (Decidable (_ ∧ _ ∧ _))

/-- The answer to the client's last message, if it is accepted. -/
def Session.finish (s : Session) (digest : Digest) (message : Bytes) : Option Bytes := do
  let m ← readClientFinal message
  if s.Accepts digest m then return Utf8.encode (s.serverFinal digest m.bare) else none

/-! ## The server reads what the client wrote -/

theorem unescape_cons {c : Char} (h₁ : c ≠ '=') (h₂ : c ≠ ',') (name : List Char) :
    unescape (c :: name) = (unescape name).map (c :: ·) := by
  rw [unescape, if_neg (not_or.mpr ⟨h₁, h₂⟩)]
  · rintro _ rfl
    exact absurd rfl h₁
  · rintro _ rfl
    exact absurd rfl h₁

/-- Names survive, whatever stands in them. -/
theorem unescape_escape : ∀ name : List Char,
    unescape (name.flatMap Scram.escapeChar) = some name
  | [] => rfl
  | c :: name => by
    have ih := unescape_escape name
    rw [List.flatMap_cons, Scram.escapeChar]
    by_cases h₁ : c = '='
    · rw [if_pos h₁, h₁]
      exact congrArg (Option.map ('=' :: ·)) ih
    · rw [if_neg h₁]
      by_cases h₂ : c = ','
      · rw [if_pos h₂, h₂]
        exact congrArg (Option.map (',' :: ·)) ih
      · rw [if_neg h₂, List.singleton_append, unescape_cons h₁ h₂, ih]
        rfl

theorem comma_notMem_escape (name : List Char) : ',' ∉ name.flatMap Scram.escapeChar := by
  rw [List.mem_flatMap]
  rintro ⟨c, -, hc⟩
  unfold Scram.escapeChar at hc
  split at hc
  · simp at hc
  · split at hc
    · simp at hc
    · rename_i h
      exact h (List.mem_singleton.mp hc).symm

theorem comma_notMem_attribute {x : Char} {value : List Char} (hx : x ≠ ',') (h : ',' ∉ value) :
    ',' ∉ x :: '=' :: value := by
  simp [h, hx.symm]

variable {digest : Digest} {username password nonce : String}

theorem readClientFirst_clientFirst (h : ',' ∉ nonce.toList) :
    readClientFirst (Scram.new digest username password nonce).clientFirst =
      some ⟨username, nonce, "n=" ++ Scram.escapeName username ++ ",r=" ++ nonce⟩ := by
  let bare := "n=" ++ Scram.escapeName username ++ ",r=" ++ nonce
  have htext : Utf8.decode? (Scram.new digest username password nonce).clientFirst =
      some ("n,," ++ bare) := Utf8.decode?_encode _
  have hbare : rest? "n,,".toList ("n,," ++ bare).toList = some bare.toList := by
    rw [rest?_eq_some_iff, String.toList_append]
  have hpieces : pieces ',' bare.toList =
      ['n' :: '=' :: username.toList.flatMap Scram.escapeChar, 'r' :: '=' :: nonce.toList] := by
    rw [pieces_eq_iff]
    refine ⟨by simp [bare, Scram.escapeName], by simp, ?_⟩
    rw [List.forall_mem_cons, List.forall_mem_singleton]
    exact ⟨comma_notMem_attribute (by decide) (comma_notMem_escape _),
      comma_notMem_attribute (by decide) h⟩
  simp only [readClientFirst, htext, Option.bind_eq_bind, Option.bind_some, hbare, hpieces,
    unescape_escape, String.ofList_toList]
  rfl

/-- The server reads from the client's last message what the client put there. -/
theorem readClientFinal_text (h : ',' ∉ nonce.toList) (proof : Bytes) :
    readClientFinal (Utf8.encode ("c=biws,r=" ++ nonce ++ ",p=" ++ Base64.encode proof)) =
      some ⟨"biws", nonce, proof, "c=biws,r=" ++ nonce⟩ := by
  have hpieces : pieces ',' ("c=biws,r=" ++ nonce ++ ",p=" ++ Base64.encode proof).toList =
      ['c' :: '=' :: "biws".toList, 'r' :: '=' :: nonce.toList,
        'p' :: '=' :: (Base64.encode proof).toList] := by
    rw [pieces_eq_iff]
    refine ⟨by simp, by simp, ?_⟩
    rw [List.forall_mem_cons, List.forall_mem_cons, List.forall_mem_singleton]
    exact ⟨by decide, comma_notMem_attribute (by decide) h,
      comma_notMem_attribute (by decide) (Base64.comma_notMem_encode proof)⟩
  have hbare : String.ofList
      ([','].intercalate ['c' :: '=' :: "biws".toList, 'r' :: '=' :: nonce.toList]) =
      "c=biws,r=" ++ nonce := by
    rw [← String.toList_inj]
    simp
  simp only [readClientFinal, Utf8.decode?_encode, Option.bind_eq_bind, Option.bind_some,
    hpieces, String.ofList_toList, Base64.decode_encode, hbare]
  rfl

/-! ## The client reads what the server wrote -/

variable {s : Session}

theorem isServerFirst_serverFirst (hnonce : ',' ∉ s.nonce.toList) (hsuffix : s.suffix ≠ "")
    (hi : 1 ≤ s.account.iterations ∧ s.account.iterations ≤ Scram.maxIterations) :
    Scram.IsServerFirst s.client.nonce (Utf8.encode s.serverFirst)
      ⟨s.serverFirst, s.nonce, s.account.salt, s.account.iterations⟩ where
  utf8 := rfl
  attributes := by
    refine ⟨[⟨'r', s.nonce⟩, ⟨'s', Base64.encode s.account.salt⟩,
      ⟨'i', toString s.account.iterations⟩], toString s.account.iterations, ?_, ?_, ?_, ?_,
      isNumeral_toString _⟩
    · refine ⟨by simp [Session.serverFirst, Scram.Attribute.text], by simp, ?_, by simp⟩
      rw [List.forall_mem_cons, List.forall_mem_cons, List.forall_mem_singleton]
      exact ⟨comma_notMem_attribute (x := 'r') (by decide) hnonce,
        comma_notMem_attribute (x := 's') (by decide) (Base64.comma_notMem_encode _),
        comma_notMem_attribute (x := 'i') (by decide) (isNumeral_toString _).comma_notMem⟩
    · exact ⟨[], _, rfl, by simp⟩
    · exact ⟨[_], _, rfl, by simp⟩
    · exact ⟨[_, _], _, rfl, by simp⟩
  nonce := ⟨s.suffix, hsuffix, rfl⟩
  iterations := hi

theorem isServerFinal_serverFinal (clientFinal : String) :
    Scram.IsServerFinal (Utf8.encode (s.serverFinal digest clientFinal))
      (digest.hmac s.account.serverKey (s.signed clientFinal)) := by
  refine ⟨_, [⟨'v', _⟩], rfl, ⟨?_, by simp, ?_, by simp⟩, [], [], rfl, by simp⟩
  · simp [Session.serverFinal, Scram.Attribute.text]
  · rw [List.forall_mem_singleton]
    exact comma_notMem_attribute (x := 'v') (by decide) (Base64.comma_notMem_encode _)

/-! ## The exchange comes to an end -/

/-- The server finds the client's key behind a proof that was made with the password. -/
theorem finish_of_password (sized : digest.Sized) {salt : Bytes} {iterations : Nat}
    (haccount : s.account = .ofPassword digest password salt iterations)
    (hnonce : ',' ∉ s.nonce.toList) :
    let keys := ScramKeys.derive digest password salt iterations
    let bare := "c=biws,r=" ++ s.nonce
    s.finish digest (Utf8.encode (bare ++ ",p=" ++ Base64.encode
      (xorBytes keys.client (digest.hmac keys.stored (s.signed bare))))) =
      some (Utf8.encode (s.serverFinal digest bare)) := by
  intro keys bare
  have hstored : s.account.storedKey = keys.stored := by rw [haccount]; rfl
  have hlength : keys.client.length = (digest.hmac keys.stored (s.signed bare)).length :=
    (sized.hmac _ _).trans (sized.hmac _ _).symm
  rw [Session.finish, readClientFinal_text hnonce, Option.bind_eq_bind, Option.bind_some, if_pos]
  · rfl
  · refine ⟨rfl, rfl, ?_⟩
    rw [hstored, xorBytes_cancel hlength]
    rfl

open SaslMechanism

/-- **A server that knows the password and the client come to an end.** The client answers all
three challenges, whatever the first one is. From the first answer the server has the name and
the nonce that the client was given, the second is the proof that it takes, and the third is
empty: the client has taken the server's signature. -/
theorem exchange_complete (sized : digest.Sized) (username password : String)
    {nonce suffix : String} (salt : Bytes) {iterations : Nat} (opening : Bytes)
    (hnonce : ',' ∉ nonce.toList) (hsuffix : ',' ∉ suffix.toList) (hne : suffix ≠ "")
    (hi : 1 ≤ iterations ∧ iterations ≤ Scram.maxIterations) :
    ∃ first final last s,
      Session.start (.ofPassword digest password salt iterations) suffix first = some s ∧
      s.client.username = username ∧ s.client.nonce = nonce ∧
      s.finish digest final = some last ∧
      answers (Scram.new digest username password nonce)
        [opening, Utf8.encode s.serverFirst, last] = [.ok first, .ok final, .ok []] := by
  let begun := Scram.new digest username password nonce
  let s : Session := {
    account := .ofPassword digest password salt iterations
    client := ⟨username, nonce, begun.clientFirstBare⟩
    suffix }
  let m : Scram.ServerFirst := ⟨s.serverFirst, s.nonce, salt, iterations⟩
  let bare := "c=biws,r=" ++ s.nonce
  -- the client as it is when it gets its second and its third challenge
  let opened : Scram := { begun with stage := .clientFirstSent }
  let proved : Scram := { opened with stage := .clientFinalSent (opened.serverSignature m) }
  have hcomma : ',' ∉ s.nonce.toList := by
    rw [Session.nonce, String.toList_append, List.mem_append, not_or]
    exact ⟨hnonce, hsuffix⟩
  have hstart : Session.start s.account suffix begun.clientFirst = some s := by
    rw [Session.start, readClientFirst_clientFirst hnonce]
    rfl
  -- the client reads the server's first message, and both sign the same text
  have hm : Scram.IsServerFirst nonce (Utf8.encode s.serverFirst) m :=
    isServerFirst_serverFirst hcomma hne hi
  have hsigned : opened.authMessage m = s.signed bare := Scram.authMessage_eq opened m
  have hfinish : s.finish digest (opened.clientFinal m) =
      some (Utf8.encode (s.serverFinal digest bare)) := by
    rw [Scram.clientFinal_eq, hsigned]
    exact finish_of_password sized rfl hcomma
  have hfirst : begun.step opening = (opened, .ok begun.clientFirst) :=
    Scram.step_initial rfl opening
  have hfinal : opened.step (Utf8.encode s.serverFirst) = (proved, .ok (opened.clientFinal m)) :=
    Scram.step_isServerFirst rfl hm
  have hlast : (proved.step (Utf8.encode (s.serverFinal digest bare))).2 = .ok [] := by
    rw [Scram.answer_clientFinalSent (s := proved) rfl, Scram.serverSignature_eq, hsigned]
    exact ⟨isServerFinal_serverFinal bare, rfl⟩
  refine ⟨begun.clientFirst, opened.clientFinal m, _, s, hstart, rfl, rfl, hfinish, ?_⟩
  have hend : answers proved [Utf8.encode (s.serverFinal digest bare)] = [.ok []] :=
    congrArg (fun a => [a]) hlast
  rw [answers_of_step (m := Scram) hfirst, answers_of_step (m := Scram) hfinal, hend]

/-- A name of reserved characters, and a nonce that is all the server's. -/
theorem exchange_complete_escaped :
    Digest.sha256.Sized ∧ ',' ∉ "".toList ∧ ',' ∉ "=".toList ∧ "=" ≠ "" ∧
    1 ≤ 4096 ∧ 4096 ≤ Scram.maxIterations ∧
    ∃ first final last s,
      Session.start (.ofPassword .sha256 "pencil" [0xFF, 0] 4096) "=" first = some s ∧
      s.client.username = ",=2C," ∧ s.client.nonce = "" ∧
      s.finish .sha256 final = some last ∧
      answers (Scram.new .sha256 ",=2C," "pencil" "")
        [[0xFF], Utf8.encode s.serverFirst, last] = [.ok first, .ok final, .ok []] :=
  ⟨Digest.sized_sha256, by decide, by decide, by decide, by decide, by decide,
    exchange_complete Digest.sized_sha256 ",=2C," "pencil" [0xFF, 0] [0xFF] (by decide)
      (by decide) (by decide) (by decide)⟩

end ScramServer

end IrcClient
