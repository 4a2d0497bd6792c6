import IrcClient.Proofs.Negotiation.Chunks
import IrcClient.Proofs.Negotiation.Verification

/-!
# Challenges arrive whole

A challenge comes in over as many lines as it has chunks, and other lines may come in between.
The mechanism is to be stepped once for each challenge, at the last of its lines, on exactly the
bytes that the server has sent (`challenges_delivered`).

A line that is no part of a challenge leaves a negotiation as it is, unless it decides the
authentication (`hear_aside`). A full chunk is added to what has come in (`hear_full`). The last
one hands all of it to the mechanism and leaves nothing behind for the next challenge
(`hear_last`); and once the mechanism has failed, no line does anything (`hear_of_inactive`).
-/

namespace IrcClient.Negotiator

open SaslMechanism

variable {m : Type} [SaslMechanism m]

/-! ## What comes of each line -/

/-- A line, the step that was run at it, and what was sent. -/
structure Attended (m : Type) where
  line : Heard
  step : Option (PendingStep m)
  sent : List String

/-- Hears lines one after another, and keeps what came of each. -/
def attend : Negotiator m → List Heard → List (Attended m)
  | _, [] => []
  | n, l :: heard => ⟨l, n.stepOf l, (n.hear l).2.lines⟩ :: attend (n.hear l).1 heard

/-- The challenge that was answered at a line, if there was one, and what was sent. -/
def Attended.result (a : Attended m) : Option Bytes × List String :=
  (a.step.map (·.challenge), a.sent)

theorem attend_append (n : Negotiator m) (heard more : List Heard) :
    n.attend (heard ++ more) = n.attend heard ++ (n.dialogue heard).1.attend more := by
  induction heard generalizing n with
  | nil => rfl
  | cons l heard ih =>
    rw [List.cons_append, attend, ih]
    rfl

theorem dialogue_append (n : Negotiator m) (heard more : List Heard) :
    (n.dialogue (heard ++ more)).1 = ((n.dialogue heard).1.dialogue more).1 := by
  induction heard generalizing n with
  | nil => rfl
  | cons l heard ih => exact ih (n.hear l).1

/-- Whether a line is part of a challenge. -/
def Heard.isChunk (l : Heard) : Bool :=
  l.msg.command = "AUTHENTICATE"

/-- The commands by which the server ends an authentication. -/
def endings : List String :=
  ["001", "421", "902", "903", "904", "905", "906", "907"]

/--
Lines that carry challenges, one after another and each as a response would be sent. Other lines
may stand between them, but none that ends the authentication.
-/
structure Carries (heard : List Heard) (challenges : List Bytes) : Prop where
  others : ∀ l ∈ heard, l.msg.command ∉ endings
  chunks : (heard.filter (·.isChunk)).map (fun l => some l.msg.args) =
    (challenges.flatMap authenticateLines).map fun line => (Message.parse? line).map (·.args)

/-- The authentication goes on with a mechanism, and nothing of a challenge is left to answer. -/
structure Awaits (n : Negotiator m) (mech : m) : Prop where
  state : n.state = .authInProgress
  mechanism : n.mechanism = some mech
  challenge : n.challenge = ""
  pending : n.pending = none

/-- What is sent for an answer: the response, or that the authentication is given up. -/
def reply (told : Bool) : Except SaslError Bytes → List String
  | .ok payload => authenticateLines payload
  | .error _ => "AUTHENTICATE *" :: if told then [] else ["CAP END"]

/-- Nothing comes of the lines of a challenge but of the last of them. -/
def atLast {α : Type} (challenge : Bytes) (nothing last : α) : List α :=
  (authenticateLines challenge).dropLast.map (fun _ => nothing) ++ [last]

/-! ## One line -/

variable {n n' : Negotiator m} {mech : m} {l : Heard}

/-- A line that leaves nothing to run leaves it at that. -/
theorem hear_of_handle (h : (n.handle l.before l.msg).negotiator = n')
    (ho : (n.handle l.before l.msg).outcome = .empty) (hp : n'.pending = none) :
    n.hear l = (n', .empty) ∧ n.stepOf l = none := by
  have hstep : n.stepOf l = none := by
    rw [stepOf, h, take, hp]
  refine ⟨?_, hstep⟩
  unfold hear
  dsimp only
  rw [h, ho, runStep_of_pending_none hp]
  rfl

theorem handleCap_of_ne (h : n.state ≠ .capRequested) (net : Network) (msg : Message) :
    n.handleCap net msg = (n, .empty) :=
  if_pos h

/-- What is over is over. -/
theorem hear_of_inactive (h : n.isActive = false) (hp : n.pending = none) (l : Heard) :
    n.hear l = (n, .empty) ∧ n.stepOf l = none := by
  have hrequested : n.state ≠ .capRequested := state_ne_of_inactive h (by decide) (by decide)
  have hcap := handleCap_of_ne hrequested l.before l.msg
  have hauth : n.state ≠ .authInProgress := state_ne_of_inactive h (by decide) (by decide)
  have hhandle : (n.handle l.before l.msg).negotiator = n ∧
      (n.handle l.before l.msg).outcome = .empty := by
    unfold handle
    simp only [hcap, hauth, h]
    split <;> exact ⟨rfl, rfl⟩
  exact hear_of_handle hhandle.1 hhandle.2 hp

/-- A line that is no part of a challenge and ends nothing. -/
theorem hear_aside (hs : n.state = .authInProgress) (hp : n.pending = none)
    (hc : l.isChunk = false) (he : l.msg.command ∉ endings) :
    n.hear l = (n, .empty) ∧ n.stepOf l = none := by
  have hcap := handleCap_of_ne (n := n) (by rw [hs]; decide) l.before l.msg
  have hhandle : (n.handle l.before l.msg).negotiator = n ∧
      (n.handle l.before l.msg).outcome = .empty := by
    rw [Heard.isChunk, decide_eq_false_iff_not] at hc
    unfold handle
    simp only [hcap]
    split
    case h_2 hcommand => exact absurd hcommand hc
    -- the lines that do nothing, and those that end the authentication
    all_goals first
      | exact ⟨rfl, rfl⟩
      | rename_i hcommand
        exact absurd (by rw [hcommand]; decide) he
  exact hear_of_handle hhandle.1 hhandle.2 hp

/-- A chunk of a challenge goes to the challenge. -/
theorem handle_chunk (hs : n.state = .authInProgress) (hc : l.isChunk = true) (net : Network) :
    n.handle net l.msg = consumes net (n.handleAuthenticate net l.msg) := by
  have hcommand : l.msg.command = "AUTHENTICATE" := of_decide_eq_true hc
  unfold handle
  simp only [hcommand, hs, if_true]

/-- A chunk that is full is kept until the next one comes in. -/
theorem hear_full (hs : n.state = .authInProgress) (hp : n.pending = none)
    (hc : l.isChunk = true) {chunk : List Char} (hargs : l.msg.args = [String.ofList chunk])
    (hchars : ∀ c ∈ chunk, IsChunkChar c) (hlength : chunk.length = chunkLength) :
    n.hear l = ({ n with challenge := n.challenge ++ String.ofList chunk }, .empty) ∧
    n.stepOf l = none := by
  have harg : l.msg.arg 0 = some (String.ofList chunk) := by
    rw [Message.arg, hargs]
    rfl
  have hplus : String.ofList chunk ≠ "+" := by
    intro he
    have hone := congrArg (·.toList.length) he
    simp only [String.toList_ofList, hlength] at hone
    exact absurd hone (by decide)
  have hsize : (String.ofList chunk).utf8ByteSize = chunkLength := by
    rw [utf8ByteSize_ofList fun c hc => (hchars c hc).1, hlength]
  have hauth : n.handleAuthenticate l.before l.msg =
      ({ n with challenge := n.challenge ++ String.ofList chunk }, .empty) := by
    unfold handleAuthenticate
    rw [harg, Option.getD_some, if_neg hplus]
    exact if_pos hsize
  refine hear_of_handle ?_ ?_ hp
  · rw [handle_chunk hs hc, hauth]
    rfl
  · rw [handle_chunk hs hc, hauth]
    rfl

theorem challenged_of_symbols (net : Network) {text : String} {challenge : Bytes}
    (hn : n.challenge = text) (htext : text.toList = Base64.symbols challenge) :
    n.challenged net = ({ n with challenge := "", pending := some challenge }, .empty) := by
  have hdecode : Base64.decode text = .ok challenge := by
    rw [← String.ofList_toList (s := text), htext]
    exact Base64.decode_encode challenge
  unfold challenged
  dsimp only
  rw [hn, hdecode]

/-- A chunk that is not full completes the challenge, and `+` is the chunk that is empty. -/
theorem handleAuthenticate_last (net : Network) {msg : Message} {received last : List Char}
    {challenge : Bytes} (hargs : msg.args = [String.ofList last])
    (hchars : ∀ c ∈ last, IsChunkChar c) (hlength : last.length < chunkLength)
    (hreceived : n.challenge = String.ofList received)
    (hsymbols : received ++ (if last = ['+'] then [] else last) = Base64.symbols challenge) :
    n.handleAuthenticate net msg =
      ({ n with challenge := "", pending := some challenge }, .empty) := by
  have harg : msg.arg 0 = some (String.ofList last) := by
    rw [Message.arg, hargs]
    rfl
  unfold handleAuthenticate
  rw [harg, Option.getD_some]
  by_cases hplus : last = ['+']
  · rw [if_pos hplus, List.append_nil] at hsymbols
    rw [hplus, if_pos rfl]
    exact challenged_of_symbols net hreceived (by rw [String.toList_ofList, hsymbols])
  · have hne : String.ofList last ≠ "+" := by
      intro he
      exact hplus (String.ofList_injective he)
    have hsize : (String.ofList last).utf8ByteSize ≠ chunkLength := by
      rw [utf8ByteSize_ofList fun c hc => (hchars c hc).1]
      exact Nat.ne_of_lt hlength
    rw [if_neg hplus] at hsymbols
    rw [if_neg hne]
    dsimp only
    rw [if_neg hsize]
    exact challenged_of_symbols net rfl (by
      rw [hreceived, String.toList_append, String.toList_ofList, String.toList_ofList, hsymbols])

/-- The last chunk completes the challenge, and the mechanism answers it. -/
theorem hear_last (hs : n.state = .authInProgress) (hm : n.mechanism = some mech)
    (hc : l.isChunk = true) {received last : List Char} {challenge : Bytes}
    (hargs : l.msg.args = [String.ofList last]) (hchars : ∀ c ∈ last, IsChunkChar c)
    (hlength : last.length < chunkLength) (hreceived : n.challenge = String.ofList received)
    (hsymbols : received ++ (if last = ['+'] then [] else last) = Base64.symbols challenge) :
    n.stepOf l = some ⟨mech, challenge⟩ ∧
    n.hear l = { n with
      challenge := "", pending := none
      mechanism := some (step mech challenge).1 }.answer l.after (step mech challenge).2 := by
  have hhandle : n.handle l.before l.msg = consumes l.before
      ({ n with challenge := "", pending := some challenge }, .empty) := by
    rw [handle_chunk hs hc, handleAuthenticate_last _ hargs hchars hlength hreceived hsymbols]
  -- the step takes the challenge and the mechanism with it
  have htake : ({ n with challenge := "", pending := some challenge } : Negotiator m).take =
      ({ n with challenge := "", pending := none, mechanism := none },
        some ⟨mech, challenge⟩) := by
    unfold take
    dsimp only
    rw [hm]
    rfl
  refine ⟨?_, ?_⟩
  · rw [stepOf, hhandle]
    exact congrArg Prod.snd htake
  · unfold hear
    rw [hhandle]
    dsimp only [consumes]
    rw [Outcome.empty_append, runStep, htake]
    rfl

/-! ## The lines of a challenge -/

theorem attend_of_inactive (h : n.isActive = false) (hp : n.pending = none)
    (heard : List Heard) : n.attend heard = heard.map fun l => ⟨l, none, []⟩ := by
  induction heard with
  | nil => rfl
  | cons l heard ih =>
    obtain ⟨hhear, hstep⟩ := hear_of_inactive h hp l
    rw [attend, hhear, hstep, ih]
    rfl

theorem attend_full (hs : n.state = .authInProgress) (hp : n.pending = none)
    {chunks : List (List Char)} (hchars : ∀ c ∈ chunks, ∀ x ∈ c, IsChunkChar x)
    (hlength : ∀ c ∈ chunks, c.length = chunkLength) {heard : List Heard}
    (hc : ∀ l ∈ heard, l.isChunk = true)
    (hargs : heard.map (·.msg.args) = chunks.map fun c => [String.ofList c]) :
    n.attend heard = heard.map (fun l => ⟨l, none, []⟩) ∧
    (n.dialogue heard).1 = { n with challenge := n.challenge ++ String.ofList chunks.flatten } := by
  induction chunks generalizing n heard with
  | nil =>
    rw [List.map_nil, List.map_eq_nil_iff] at hargs
    rw [hargs, List.flatten_nil, String.ofList_nil, String.append_empty]
    exact ⟨rfl, rfl⟩
  | cons c chunks ih =>
    rw [List.map_cons, List.map_eq_cons_iff] at hargs
    obtain ⟨l, rest, rfl, hl, hrest⟩ := hargs
    rw [List.forall_mem_cons] at hchars hlength hc
    obtain ⟨hhear, hstep⟩ := hear_full hs hp hc.1 hl hchars.1 hlength.1
    obtain ⟨hattend, hdialogue⟩ := ih (n := (n.hear l).1) (by rw [hhear]; exact hs)
      (by rw [hhear]; exact hp) hchars.2 hlength.2 hc.2 hrest
    constructor
    · rw [attend, hattend, hhear, hstep]
      rfl
    · rw [List.flatten_cons, String.ofList_append, ← String.append_assoc]
      refine Eq.trans hdialogue ?_
      rw [hhear]

/-- The line of the last chunk comes behind those of the full ones. -/
theorem exists_before_last {challenge : Bytes} {full : List (List Char)} {last : List Char}
    (h : Chunked challenge full last) {heard : List Heard}
    (hargs : heard.map (fun l => some l.msg.args) =
      (authenticateLines challenge).map fun line => (Message.parse? line).map (·.args)) :
    ∃ before l, heard = before ++ [l] ∧
      before.map (·.msg.args) = full.map (fun c => [String.ofList c]) ∧
      l.msg.args = [String.ofList last] := by
  have hmap : heard.map (·.msg.args) = (full ++ [last]).map fun c => [String.ofList c] := by
    refine (List.map_inj_right fun _ _ => Option.some.inj).mp ?_
    rw [List.map_map, List.map_map]
    exact hargs.trans h.args
  rw [List.map_append, List.map_eq_append_iff] at hmap
  obtain ⟨before, rest, rfl, hbefore, hrest⟩ := hmap
  rw [List.map_singleton, List.map_eq_singleton_iff] at hrest
  obtain ⟨l, rfl, hl⟩ := hrest
  exact ⟨before, l, rfl, hbefore, hl⟩

/-- The mechanism answers a challenge, and goes on to the next unless it fails. -/
theorem attend_challenge (h : n.Awaits mech) (challenge : Bytes) {heard : List Heard}
    (hc : ∀ l ∈ heard, l.isChunk = true)
    (hargs : heard.map (fun l => some l.msg.args) =
      (authenticateLines challenge).map fun line => (Message.parse? line).map (·.args)) :
    (n.attend heard).map (·.result) = atLast challenge (none, [])
      (some challenge, reply n.capEndSent (step mech challenge).2) ∧
    (∀ payload, (step mech challenge).2 = .ok payload →
      (n.dialogue heard).1.Awaits (step mech challenge).1 ∧
      (n.dialogue heard).1.capEndSent = n.capEndSent) ∧
    ∀ e, (step mech challenge).2 = .error e →
      (n.dialogue heard).1.isActive = false ∧ (n.dialogue heard).1.pending = none := by
  obtain ⟨full, last, hchunked⟩ := exists_chunks challenge
  have hchars := hchunked.chars
  obtain ⟨before, l, rfl, hbefore, hl⟩ := exists_before_last hchunked hargs
  rw [List.forall_mem_append, List.forall_mem_singleton] at hc hchars
  obtain ⟨hattend, hdialogue⟩ :=
    attend_full h.state h.pending hchars.1 hchunked.length_full hc.1 hbefore
  rw [h.challenge, String.empty_append] at hdialogue
  have hstate : (n.dialogue before).1.state = .authInProgress := by
    rw [hdialogue]
    exact h.state
  have hmechanism : (n.dialogue before).1.mechanism = some mech := by
    rw [hdialogue]
    exact h.mechanism
  obtain ⟨hstep, hhear⟩ := hear_last hstate hmechanism hc.2 hl hchars.2 hchunked.length_last
    (by rw [hdialogue]) hchunked.symbols
  -- only the last line is answered, and what is left of the rest is what was received
  have hend : (n.dialogue (before ++ [l])).1 = ((n.dialogue before).1.hear l).1 := by
    rw [dialogue_append]
    rfl
  have hsent : ((n.dialogue before).1.hear l).2.lines =
      reply n.capEndSent (step mech challenge).2 := by
    rw [hhear, hdialogue]
    cases (step mech challenge).2 with
    | ok payload => rfl
    | error e =>
      obtain ⟨event, -, he⟩ := answer_error { n with
        challenge := "", pending := none, mechanism := some (step mech challenge).1 } l.after e
      rw [he]
      simp [reply]
  refine ⟨?_, ?_, ?_⟩
  · -- the full lines are silent, as many as there are full chunks
    have hlines : (authenticateLines challenge).dropLast = full.map chunkLine := by
      rw [hchunked.lines, List.map_append, List.map_singleton, List.dropLast_concat]
    have hcount : before.length = full.length := by
      have := congrArg List.length hbefore
      rwa [List.length_map, List.length_map] at this
    rw [attend_append, hattend, atLast, hlines, attend, hsent, hstep, List.map_append,
      List.map_map, List.map_map]
    congr 1
    show before.map (fun _ => (none, [])) = full.map fun _ => (none, [])
    rw [List.map_const', List.map_const', hcount]
  · intro payload hok
    rw [hend, hhear, hok, answer_ok, hdialogue]
    exact ⟨⟨h.state, rfl, rfl, rfl⟩, rfl⟩
  · intro e herror
    rw [hend, hhear, herror, hdialogue]
    exact ⟨rfl, rfl⟩

/-! ## All lines -/

/-- The lines of challenges alone: each is answered in its turn, up to the first failure. -/
theorem attend_challenges {challenges : List Bytes} (h : n.Awaits mech) {heard : List Heard}
    (hc : ∀ l ∈ heard, l.isChunk = true)
    (hargs : heard.map (fun l => some l.msg.args) =
      (challenges.flatMap authenticateLines).map fun line =>
        (Message.parse? line).map (·.args)) :
    let answered := ((answers mech challenges).takeWhile (·.isOk)).length + 1
    (n.attend heard).map (·.result) =
      (List.zipWith (fun c a => atLast c (none, []) (some c, reply n.capEndSent a))
        (challenges.take answered) (answers mech challenges)).flatten ++
      ((challenges.drop answered).flatMap authenticateLines).map fun _ => (none, []) := by
  induction challenges generalizing n mech heard with
  | nil =>
    rw [List.flatMap_nil, List.map_nil, List.map_eq_nil_iff] at hargs
    rw [hargs]
    rfl
  | cons c challenges ih =>
    intro answered
    rw [List.flatMap_cons, List.map_append, List.map_eq_append_iff] at hargs
    obtain ⟨first, rest, rfl, hfirst, hrest⟩ := hargs
    rw [List.forall_mem_append] at hc
    obtain ⟨hresult, hok, herror⟩ := attend_challenge h c hc.1 hfirst
    rw [attend_append, List.map_append, hresult]
    cases ha : (step mech c).2 with
    | ok payload =>
      -- the mechanism waits for the next challenge, which the induction takes on
      obtain ⟨hawaits, htold⟩ := hok payload ha
      have hanswered : answered = ((answers (step mech c).1 challenges).takeWhile
          (·.isOk)).length + 1 + 1 := by
        simp only [answered, answers, ha]
        rfl
      rw [ih hawaits hc.2 hrest, htold, hanswered, answers, ha, List.take_succ_cons,
        List.drop_succ_cons, List.zipWith_cons_cons, List.flatten_cons, List.append_assoc]
    | error e =>
      -- all is over, and the lines that still come in are not answered
      obtain ⟨hinactive, hpending⟩ := herror e ha
      have hanswered : answered = 1 := by
        simp only [answered, answers, ha]
        rfl
      have hcount : rest.length = (challenges.flatMap authenticateLines).length := by
        have := congrArg List.length hrest
        rwa [List.length_map, List.length_map] at this
      rw [attend_of_inactive hinactive hpending, hanswered, answers, ha, List.map_map]
      show _ ++ rest.map (fun _ => (none, [])) = _
      rw [List.map_const', hcount, ← List.map_const']
      simp

/-- The authentication goes on, or all is over. -/
def Settled (n : Negotiator m) : Prop :=
  n.state = .authInProgress ∨ n.isActive = false

theorem settled_reaction {o : Outcome} (hs : n.state = .authInProgress) (hr : Reaction n n' o) :
    n'.Settled := by
  cases hr with
  | noted => exact .inl hs
  | asked offers hrequested =>
    rw [hs] at hrequested
    cases hrequested
  | began e hrequested =>
    rw [hs] at hrequested
    cases hrequested
  | refused | judged | gaveUp => exact .inr rfl

theorem settled_runStep (h : n.Settled) (net : Network) : (n.runStep net).1.Settled := by
  rcases runStep_cases n net with ⟨-, he⟩ | ⟨c, -, he⟩ | ⟨c, mech, -, -, he⟩
  · rw [he]
    exact h
  · rw [he]
    exact h
  · rw [he]
    cases (step mech c).2 with
    | ok payload => exact h
    | error e => exact .inr rfl

/-- A step is run before the next line, if there is one to run. -/
theorem pending_runStep (n : Negotiator m) (net : Network) : (n.runStep net).1.pending = none := by
  rcases runStep_cases n net with ⟨hp, he⟩ | ⟨c, -, he⟩ | ⟨c, mech, -, -, he⟩
  · rw [he]
    exact hp
  · rw [he]
  · rw [he]
    cases (step mech c).2 <;> rfl

theorem settled_hear (h : n.Settled) (hp : n.pending = none) (l : Heard) :
    (n.hear l).1.Settled := by
  rcases h with hs | hinactive
  · exact settled_runStep (settled_reaction hs (reaction_handle n l.before l.msg)) l.after
  · rw [(hear_of_inactive hinactive hp l).1]
    exact .inr hinactive

/-- Lines that are no part of a challenge might as well not have come in. -/
theorem attend_filter (h : n.Settled) (hp : n.pending = none) {heard : List Heard}
    (hothers : ∀ l ∈ heard, l.msg.command ∉ endings) :
    (∀ a ∈ n.attend heard, a.line.isChunk = false → a.step = none ∧ a.sent = []) ∧
    (n.attend heard).filter (·.line.isChunk) = n.attend (heard.filter (·.isChunk)) := by
  induction heard generalizing n with
  | nil => simp [attend]
  | cons l heard ih =>
    rw [List.forall_mem_cons] at hothers
    rw [attend, List.forall_mem_cons, List.filter_cons, List.filter_cons]
    by_cases hc : l.isChunk = true
    · obtain ⟨hquiet, hfilter⟩ := ih (settled_hear h hp l) (pending_runStep _ _) hothers.2
      refine ⟨⟨fun hne => ?_, hquiet⟩, ?_⟩
      · exact absurd (hc.symm.trans hne) (by decide)
      · rw [if_pos hc, if_pos hc, hfilter, attend]
    · have haside : n.hear l = (n, .empty) ∧ n.stepOf l = none := by
        rcases h with hs | hinactive
        · exact hear_aside hs hp (by simpa using hc) hothers.1
        · exact hear_of_inactive hinactive hp l
      obtain ⟨hhear, hstep⟩ := haside
      obtain ⟨hquiet, hfilter⟩ := ih h hp hothers.2
      rw [hhear, hstep]
      refine ⟨⟨fun _ => ⟨rfl, rfl⟩, hquiet⟩, ?_⟩
      rw [if_neg hc, if_neg hc, hfilter]

/-- A negotiation that authenticates is ready for a challenge whenever none has begun. -/
theorem awaits_of_dialogue (fresh : m) (earlier : List Heard)
    (hs : ((new (some fresh)).start.1.dialogue earlier).1.state = .authInProgress)
    (hc : ((new (some fresh)).start.1.dialogue earlier).1.challenge = "") :
    ∃ mech, ((new (some fresh)).start.1.dialogue earlier).1.Awaits mech := by
  have hpending : ∀ {n : Negotiator m}, n.pending = none →
      (n.dialogue earlier).1.pending = none := by
    clear hs hc
    induction earlier with
    | nil => exact fun hp => hp
    | cons l earlier ih => exact fun _ => ih (pending_runStep _ _)
  exact ⟨_, hs, ((stepped_start fresh).dialogue earlier |>.inProgress hs).1, hc, hpending rfl⟩

/--
**Challenges arrive whole, and responses leave whole.** A server sends challenges, each as the
lines of a payload, and any other lines in between that do not end the authentication. Nothing
comes of the other lines. Of the lines of a challenge the last one has the mechanism answer the
bytes that were sent, and the answer is sent back as the lines of a payload; so it is for one
challenge after another, up to and including the first one at which the mechanism fails, and
nothing comes of the lines after that. No line holds more than 400 characters of a payload.
-/
theorem challenges_delivered (h : n.Awaits mech) {challenges : List Bytes} {heard : List Heard}
    (hheard : Carries heard challenges) :
    let answered := ((answers mech challenges).takeWhile (·.isOk)).length + 1
    (∀ a ∈ n.attend heard, a.line.isChunk = false → a.step = none ∧ a.sent = []) ∧
    ((n.attend heard).filter (·.line.isChunk)).map (·.result) =
      (List.zipWith (fun c a => atLast c (none, []) (some c, reply n.capEndSent a))
        (challenges.take answered) (answers mech challenges)).flatten ++
      ((challenges.drop answered).flatMap authenticateLines).map (fun _ => (none, [])) ∧
    ∀ payload, ∀ line ∈ authenticateLines payload,
      ∃ chunk : String, line = "AUTHENTICATE " ++ chunk ∧ chunk.length ≤ 400 := by
  intro answered
  obtain ⟨hquiet, hfilter⟩ := attend_filter (.inl h.state) h.pending hheard.others
  refine ⟨hquiet, ?_, fun payload line hline => ?_⟩
  · rw [hfilter]
    exact attend_challenges h (fun l hl => (List.mem_filter.mp hl).2) hheard.chunks
  · obtain ⟨full, last, hchunked⟩ := exists_chunks payload
    rw [hchunked.lines, List.mem_map] at hline
    obtain ⟨c, hc, rfl⟩ := hline
    refine ⟨String.ofList c, rfl, ?_⟩
    rw [String.length_ofList]
    exact hchunked.length_le c hc

set_option maxRecDepth 2000 in
/-- A challenge of no bytes, and one that fills its first line, with a notice in between. -/
theorem challenges_delivered_plain :
    let mech := Mechanism.plain "alice" "secret"
    let n : Negotiator Mechanism :=
      { fresh := some mech, state := .authInProgress, mechanism := some mech }
    let zeros : Bytes := List.replicate 300 0
    let heard : List Heard := [.line "AUTHENTICATE" ["+"],
      .line "AUTHENTICATE" [String.ofList (List.replicate 400 'A')],
      .line "NOTICE" ["*", "wait"], .line "AUTHENTICATE" ["+"]]
    n.Awaits mech ∧ Carries heard [[], zeros] ∧
    ((n.attend heard).filter (·.line.isChunk)).map (·.result) =
      [(some [], ["AUTHENTICATE AGFsaWNlAHNlY3JldA=="]), (none, []),
        (some zeros, ["AUTHENTICATE AGFsaWNlAHNlY3JldA=="])] := by
  intro mech n zeros heard
  have hawaits : n.Awaits mech := ⟨rfl, rfl, rfl, rfl⟩
  have hlines : [[], zeros].flatMap authenticateLines =
      [chunkLine ['+'], chunkLine (List.replicate 400 'A'), chunkLine ['+']] := by decide +kernel
  have hcarries : Carries heard [[], zeros] := by
    refine ⟨by decide, ?_⟩
    have hfull : ∀ c ∈ List.replicate 400 'A', IsChunkChar c := by
      intro c hc
      rw [List.eq_of_mem_replicate hc]
      decide
    have hlast : ∀ c ∈ ['+'], IsChunkChar c := by
      intro c hc
      rw [List.mem_singleton.mp hc]
      decide
    rw [hlines, List.map_cons, List.map_cons, List.map_cons, List.map_nil,
      parse?_chunk (by simp) hlast, parse?_chunk (by simp) hfull]
    rfl
  exact ⟨hawaits, hcarries, (challenges_delivered hawaits hcarries).2.1.trans (by decide +kernel)⟩

end IrcClient.Negotiator
