import IrcClient.Proofs.Sasl.Attributes
import IrcClient.Sasl.Mechanism

/-!
# What an exchange can come to

A server may answer the client with anything, for as long as it likes. What the client does is
said here about every sequence of challenges: what its first message is, which first messages of
the server it answers and with what proof, which last messages it takes for the server's, and
that nothing more comes of an exchange that is over.

The client is at one of four stages and goes through them in order, so there are six things
that it can do about a challenge (`Reply`). All statements about sequences come from these.
-/

namespace IrcClient

/-! ## Sequences of challenges -/

namespace SaslMechanism

variable {m : Type} [SaslMechanism m]

/-- A mechanism after some challenges. -/
def after : m → List Bytes → m
  | mech, [] => mech
  | mech, c :: cs => after (step mech c).1 cs

/-- What a mechanism answers to challenges one after another. -/
def answers : m → List Bytes → List (Except SaslError Bytes)
  | _, [] => []
  | mech, c :: cs => (step mech c).2 :: answers (step mech c).1 cs

theorem answers_of_step {mech mech' : m} {c : Bytes} {a : Except SaslError Bytes}
    (h : step mech c = (mech', a)) (cs : List Bytes) :
    answers mech (c :: cs) = a :: answers mech' cs := by
  rw [answers, h]

theorem after_append : ∀ (cs ds : List Bytes) (mech : m),
    after mech (cs ++ ds) = after (after mech cs) ds
  | [], _, _ => rfl
  | c :: cs, ds, mech => after_append cs ds (step mech c).1

theorem answers_append : ∀ (cs ds : List Bytes) (mech : m),
    answers mech (cs ++ ds) = answers mech cs ++ answers (after mech cs) ds
  | [], _, _ => rfl
  | c :: cs, ds, mech => by
    rw [List.cons_append, answers, answers, answers_append cs ds]
    rfl

theorem length_answers : ∀ (cs : List Bytes) (mech : m), (answers mech cs).length = cs.length
  | [], _ => rfl
  | c :: cs, mech => by rw [answers, List.length_cons, List.length_cons, length_answers cs]

/-- An answer is given by the mechanism as it is after the challenges before. -/
theorem getElem?_answers : ∀ (cs : List Bytes) (mech : m) (i : Nat),
    (answers mech cs)[i]? = cs[i]?.map fun c => (step (after mech (cs.take i)) c).2
  | [], _, i => by simp [answers]
  | c :: cs, mech, 0 => by simp [answers, after]
  | c :: cs, mech, i + 1 => by simp [answers, after, getElem?_answers cs]

end SaslMechanism

instance : SaslMechanism Scram := ⟨(·.digest.mechanism), Scram.step⟩

/-! ## Keys and signatures of RFC 5802 -/

/-- What a password is turned into: the key that the client proves to hold, what the server
keeps to check that, and the key that the server signs with. -/
structure ScramKeys where
  client : Bytes
  stored : Bytes
  server : Bytes

/-- The keys of a password, with the salt and the iterations that the server chose for it. -/
def ScramKeys.derive (digest : Digest) (password : String) (salt : Bytes) (iterations : Nat) :
    ScramKeys :=
  let salted := digest.saltedPassword (Utf8.encode password) salt iterations
  let client := digest.hmac salted (Utf8.encode "Client Key")
  { client, stored := digest.hash client, server := digest.hmac salted (Utf8.encode "Server Key") }

/-- What both sides sign: the messages before the proof. -/
def scramTranscript (clientFirst serverFirst clientFinal : String) : Bytes :=
  Utf8.encode (clientFirst ++ "," ++ serverFirst ++ "," ++ clientFinal)

namespace Scram

/-- The last message before its proof, which also says that there is no channel binding. -/
theorem clientFinalBare_eq (m : ServerFirst) : clientFinalBare m = "c=biws,r=" ++ m.nonce := by
  have hb : Base64.encode (Utf8.encode header) = "biws" := by decide
  rw [clientFinalBare, hb]
  rfl

/-- The keys for what the server chose. -/
def keys (s : Scram) (m : ServerFirst) : ScramKeys :=
  .derive s.digest s.password m.salt m.iterations

/-- What the client signs, and expects the server to sign. -/
theorem authMessage_eq (s : Scram) (m : ServerFirst) :
    s.authMessage m = scramTranscript s.clientFirstBare m.text ("c=biws,r=" ++ m.nonce) := by
  rw [authMessage, clientFinalBare_eq]
  rfl

theorem clientFinal_eq (s : Scram) (m : ServerFirst) :
    s.clientFinal m = Utf8.encode ("c=biws,r=" ++ m.nonce ++ ",p=" ++ Base64.encode
      (xorBytes (s.keys m).client (s.digest.hmac (s.keys m).stored (s.authMessage m)))) := by
  rw [clientFinal, clientFinalBare_eq]
  rfl

theorem serverSignature_eq (s : Scram) (m : ServerFirst) :
    s.serverSignature m = s.digest.hmac (s.keys m).server (s.authMessage m) := rfl

/-! ## Replies -/

/-- What the client makes of a challenge, and what it answers. -/
inductive Reply (s : Scram) (c : Bytes) : Scram → Except SaslError Bytes → Prop where
  /-- It begins, whatever the challenge. -/
  | first (h : s.stage = .initial) :
      Reply s c { s with stage := .clientFirstSent } (.ok s.clientFirst)
  /-- It sends its proof. -/
  | final (m : ServerFirst) (h : s.stage = .clientFirstSent) (hm : IsServerFirst s.nonce c m) :
      Reply s c { s with stage := .clientFinalSent (s.serverSignature m) } (.ok (s.clientFinal m))
  /-- The server has shown that it knows the keys. -/
  | verified (signature : Bytes) (h : s.stage = .clientFinalSent signature)
      (hs : IsServerFinal c signature) : Reply s c { s with stage := .complete } (.ok [])
  /-- There is nothing to prove anything about. -/
  | unreadable (e : SaslError) (h : s.stage = .clientFirstSent)
      (hm : ∀ m, ¬ IsServerFirst s.nonce c m) :
      Reply s c { s with stage := .complete } (.error e)
  /-- The server has not shown that it knows the keys. -/
  | unverified (e : SaslError) (signature : Bytes) (h : s.stage = .clientFinalSent signature)
      (hs : ¬ IsServerFinal c signature) : Reply s c { s with stage := .complete } (.error e)
  /-- The exchange is over. -/
  | closed (h : s.stage = .complete) :
      Reply s c { s with stage := .complete } (.error .unexpectedChallenge)

theorem reply_step (s : Scram) (c : Bytes) : Reply s c (s.step c).1 (s.step c).2 := by
  unfold step
  cases hs : s.stage with
  | initial => exact .first hs
  | clientFirstSent =>
    cases hr : readServerFirst s.nonce c with
    | ok m => exact .final m hs (readServerFirst_eq_ok_iff.mp hr)
    | error e =>
      refine .unreadable e hs fun m hm => ?_
      rw [readServerFirst_eq_ok_iff.mpr hm] at hr
      cases hr
  | clientFinalSent signature =>
    -- a message that can be read may still bear another signature
    have hread : ∀ v, readServerFinal c = .ok v ↔ IsServerFinal c v :=
      fun _ => readServerFinal_eq_ok_iff
    cases hr : readServerFinal c with
    | error e =>
      refine .unverified e signature hs fun hf => ?_
      rw [(hread signature).mpr hf] at hr
      cases hr
    | ok v =>
      dsimp only
      by_cases hv : v = signature
      · subst hv
        rw [if_pos rfl]
        exact .verified v hs ((hread v).mp hr)
      · rw [if_neg hv]
        refine .unverified _ signature hs fun hf => ?_
        rw [(hread signature).mpr hf] at hr
        cases hr
        exact hv rfl
  | complete => exact .closed hs

/-! ## What a single step answers -/

theorem step_initial {s : Scram} (h : s.stage = .initial) (c : Bytes) :
    s.step c = ({ s with stage := .clientFirstSent }, .ok s.clientFirst) := by
  rw [step, h]

/-- A proof is sent exactly in answer to a first message of the server. -/
theorem answer_clientFirstSent {s : Scram} (h : s.stage = .clientFirstSent) (c r : Bytes) :
    (s.step c).2 = .ok r ↔ ∃ m, IsServerFirst s.nonce c m ∧ r = s.clientFinal m := by
  simp only [← readServerFirst_eq_ok_iff]
  rw [step, h]
  cases readServerFirst s.nonce c with
  | error e => simp
  | ok m => simp [eq_comm]

/-- After it has sent its proof, the client knows the signature to wait for. -/
theorem step_isServerFirst {s : Scram} (h : s.stage = .clientFirstSent) {c : Bytes}
    {m : ServerFirst} (hm : IsServerFirst s.nonce c m) :
    s.step c = ({ s with stage := .clientFinalSent (s.serverSignature m) },
      .ok (s.clientFinal m)) := by
  rw [step, h]
  dsimp only
  rw [readServerFirst_eq_ok_iff.mpr hm]

/-- The last answer is empty, and is given exactly to a message with the expected signature. -/
theorem answer_clientFinalSent {s : Scram} {signature : Bytes}
    (h : s.stage = .clientFinalSent signature) (c r : Bytes) :
    (s.step c).2 = .ok r ↔ IsServerFinal c signature ∧ r = [] := by
  rw [← readServerFinal_eq_ok_iff, step, h]
  cases readServerFinal c with
  | error e => simp
  | ok v =>
    by_cases hv : v = signature
    · simp [hv, eq_comm]
    · simp [hv]

/-! ## The end of an exchange -/

open SaslMechanism

/-- How many challenges it took to come to a stage, if all went well. -/
def stageRank : ScramStage → Nat
  | .initial => 0
  | .clientFirstSent => 1
  | .clientFinalSent _ => 2
  | .complete => 3

theorem stage_eq_complete_iff (stage : ScramStage) : stage = .complete ↔ 3 ≤ stageRank stage := by
  cases stage <;> simp [stageRank]

/-- No challenge leaves the client where it is, until the exchange is over. -/
theorem rank_step (s : Scram) (c : Bytes) :
    min 3 (stageRank s.stage + 1) ≤ stageRank (s.step c).1.stage := by
  have hr := reply_step s c
  generalize (s.step c).1 = s', (s.step c).2 = a at hr
  cases hr with
  | first h => simp [h, stageRank]
  | final m h _ => simp [h, stageRank]
  | verified _ h _ => simp [h, stageRank]
  | unreadable _ h _ => simp [h, stageRank]
  | unverified _ _ h _ => simp [h, stageRank]
  | closed h => simp [h, stageRank]

theorem rank_after : ∀ (cs : List Bytes) (s : Scram),
    min 3 (stageRank s.stage + cs.length) ≤ stageRank (after s cs).stage
  | [], s => Nat.min_le_right 3 (stageRank s.stage)
  | c :: cs, s => by
    have hstep := rank_step s c
    have hrun := rank_after cs (s.step c).1
    rw [List.length_cons]
    change _ ≤ stageRank (after (s.step c).1 cs).stage
    omega

/-- Over is over. -/
theorem complete_after {s : Scram} (h : s.stage = .complete) (cs : List Bytes) :
    (after s cs).stage = .complete := by
  have := rank_after cs s
  rw [stage_eq_complete_iff] at h ⊢
  omega

theorem complete_of_three {s : Scram} {cs : List Bytes} (h : 3 ≤ cs.length) :
    (after s cs).stage = .complete := by
  have := rank_after cs s
  rw [stage_eq_complete_iff]
  omega

/-- An error ends the exchange. -/
theorem complete_of_error {s : Scram} {c : Bytes} {e : SaslError} (h : (s.step c).2 = .error e) :
    (s.step c).1.stage = .complete := by
  have hr := reply_step s c
  rw [h] at hr
  generalize (s.step c).1 = s' at hr
  cases hr <;> rfl

theorem answer_complete {s : Scram} (h : s.stage = .complete) (c : Bytes) :
    (s.step c).2 = .error .unexpectedChallenge := by
  rw [step, h]

/-- Nothing more comes of an exchange after its third challenge, or after an error. -/
theorem answers_of_over {s : Scram} {cs : List Bytes} {i j : Nat} (hij : i < j)
    (hj : j < cs.length)
    (hover : i = 2 ∨ ∃ e, (answers s cs)[i]? = some (.error e)) :
    (answers s cs)[j]? = some (.error .unexpectedChallenge) := by
  have hcomplete : (after s (cs.take j)).stage = .complete := by
    obtain rfl | ⟨e, he⟩ := hover
    · apply complete_of_three
      rw [List.length_take]
      omega
    · have hi : i < cs.length := by omega
      rw [getElem?_answers, List.getElem?_eq_getElem hi, Option.map_some, Option.some.injEq] at he
      -- the challenges before `j` begin with those before `i` and the one that failed
      have hsplit := calc cs.take j
        _ = (cs.take j).take (i + 1) ++ (cs.take j).drop (i + 1) :=
          (List.take_append_drop _ _).symm
        _ = cs.take (i + 1) ++ (cs.take j).drop (i + 1) := by
          rw [List.take_take, Nat.min_eq_left hij]
        _ = cs.take i ++ cs[i] :: (cs.take j).drop (i + 1) := by
          rw [← List.take_append_getElem hi, List.append_assoc, List.singleton_append]
      rw [hsplit, after_append]
      exact complete_after (complete_of_error he) _
  rw [getElem?_answers, List.getElem?_eq_getElem hj, Option.map_some]
  exact congrArg some (answer_complete hcomplete _)

/-! ## The whole exchange -/

theorem first_answer {s : Scram} (h : s.stage = .initial) {cs : List Bytes} {c : Bytes}
    (hc : cs[0]? = some c) : (answers s cs)[0]? = some (.ok s.clientFirst) := by
  rw [getElem?_answers, hc]
  exact congrArg (fun p : Scram × _ => some p.2) (step_initial h c)

/-- The client as it is when it gets its second challenge. -/
theorem after_one {s : Scram} (h : s.stage = .initial) {cs : List Bytes} {c : Bytes}
    (hc : cs[1]? = some c) : after s (cs.take 1) = { s with stage := .clientFirstSent } := by
  obtain _ | ⟨c₁, cs⟩ := cs
  · cases hc
  · exact congrArg Prod.fst (step_initial h c₁)

theorem second_answer {s : Scram} (h : s.stage = .initial) {cs : List Bytes} {c : Bytes}
    (hc : cs[1]? = some c) (r : Bytes) :
    (answers s cs)[1]? = some (.ok r) ↔ ∃ m, IsServerFirst s.nonce c m ∧ r = s.clientFinal m := by
  rw [getElem?_answers, hc, after_one h hc, Option.map_some, Option.some.injEq]
  exact answer_clientFirstSent (s := { s with stage := .clientFirstSent }) rfl c r

theorem third_answer {s : Scram} (h : s.stage = .initial) {cs : List Bytes} {c c' : Bytes}
    {m : ServerFirst} (hc : cs[1]? = some c) (hc' : cs[2]? = some c')
    (hm : IsServerFirst s.nonce c m) (r : Bytes) :
    (answers s cs)[2]? = some (.ok r) ↔ IsServerFinal c' (s.serverSignature m) ∧ r = [] := by
  have htake : cs.take 2 = cs.take 1 ++ [c] := by
    rw [List.take_add_one, hc]
    rfl
  have hafter : (after s (cs.take 2)).stage = .clientFinalSent (s.serverSignature m) := by
    rw [htake, after_append, after_one h hc]
    exact congrArg (fun p : Scram × _ => p.1.stage)
      (step_isServerFirst (s := { s with stage := .clientFirstSent }) rfl hm)
  rw [getElem?_answers, hc', Option.map_some, Option.some.injEq]
  exact answer_clientFinalSent hafter c' r

/-- **The client answers for its password only, and takes nobody else for the server.** For
every sequence of challenges: the first answer tells the name and the nonce. The second is a
proof over both first messages, and is given only where the challenge is a first message of the
server that goes on from the nonce. The third is empty, and is given exactly where the challenge
holds the signature that the server's key gives to the same messages. After the third challenge,
or after any error, every challenge is refused. -/
theorem exchange_sound (digest : Digest) (username password nonce : String)
    (challenges : List Bytes) :
    let replies := answers (Scram.new digest username password nonce) challenges
    let bare := "n=" ++ escapeName username ++ ",r=" ++ nonce
    let keys (m : ServerFirst) := ScramKeys.derive digest password m.salt m.iterations
    let signed (m : ServerFirst) := scramTranscript bare m.text ("c=biws,r=" ++ m.nonce)
    replies.length = challenges.length ∧
    (∀ c, challenges[0]? = some c → replies[0]? = some (.ok (Utf8.encode ("n,," ++ bare)))) ∧
    (∀ c, challenges[1]? = some c → ∀ r, replies[1]? = some (.ok r) ↔
      ∃ m, IsServerFirst nonce c m ∧
        r = Utf8.encode ("c=biws,r=" ++ m.nonce ++ ",p=" ++ Base64.encode
          (xorBytes (keys m).client (digest.hmac (keys m).stored (signed m))))) ∧
    (∀ c c' m, challenges[1]? = some c → challenges[2]? = some c' → IsServerFirst nonce c m →
      ∀ r, replies[2]? = some (.ok r) ↔
        IsServerFinal c' (digest.hmac (keys m).server (signed m)) ∧ r = []) ∧
    ∀ i j, i < j → j < challenges.length → (i = 2 ∨ ∃ e, replies[i]? = some (.error e)) →
      replies[j]? = some (.error .unexpectedChallenge) := by
  intro replies bare keys signed
  let client := Scram.new digest username password nonce
  -- the messages as they are put together in the exchange
  have hfinal : ∀ m, Utf8.encode ("c=biws,r=" ++ m.nonce ++ ",p=" ++ Base64.encode
      (xorBytes (keys m).client (digest.hmac (keys m).stored (signed m)))) =
        client.clientFinal m := fun m => by
    rw [clientFinal_eq, authMessage_eq]
    rfl
  have hsignature : ∀ m, digest.hmac (keys m).server (signed m) = client.serverSignature m :=
    fun m => by
      rw [serverSignature_eq, authMessage_eq]
      rfl
  refine ⟨length_answers challenges _, ?first, ?second, ?third, ?after⟩
  case first => exact fun c hc => first_answer rfl hc
  case second =>
    intro c hc r
    simp only [hfinal]
    exact second_answer rfl hc r
  case third =>
    intro c c' m hc hc' hm r
    rw [hsignature]
    exact third_answer rfl hc hc' hm r
  case after => exact fun i j hij hj hover => answers_of_over hij hj hover

end Scram

end IrcClient
