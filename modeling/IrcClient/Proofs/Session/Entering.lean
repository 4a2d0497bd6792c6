import IrcClient.Proofs.Client.Moves
import IrcClient.Proofs.Handling.Hearing
import IrcClient.Proofs.Handling.Replies
import IrcClient.Proofs.Network.Naming
import IrcClient.Proofs.Session
import IrcClient.Proofs.Wire.Sending

/-!
# Entering channels of one's own accord

A session enters the channels that are marked for it once it is welcomed, and only then. Servers
may welcome a client twice, and early, in the middle of a negotiation; marks may be set and taken
away at any time. So what is shown is what every line that is handled adds to the queue, wherever
in the life of the session it comes (`enters_once`).

The invariant (`Underway`) says that the registration is complete exactly if there has been a
welcome, and that there is no negotiation any more from then on.
-/

namespace IrcClient

/-! ## What is queued -/

namespace Link

/-- The link after lines were queued one after another. A text that is not one line is dropped,
and a link whose task has ended takes nothing. -/
def queueing (l : Link) (lines : List String) : Link :=
  if l.alive then
    { l with queue := l.queue ++ (lines.filter fun line => !hasLineBreak line).map .send }
  else l

theorem queueing_nil (l : Link) : l.queueing [] = l := by
  unfold queueing
  split
  · rw [List.filter_nil, List.map_nil, List.append_nil]
  · rfl

theorem queueing_append (l : Link) (a b : List String) :
    (l.queueing a).queueing b = l.queueing (a ++ b) := by
  unfold queueing
  cases h : l.alive with
  | true => simp
  | false => simp [h]

theorem sendLine_eq (l : Link) (line : String) : (l.sendLine line).1 = l.queueing [line] := by
  unfold sendLine refusal? queueing
  cases hb : hasLineBreak line with
  | true => simp [hb]
  | false => cases hl : l.alive <;> simp [hb]

/-- To leave texts out that are not one line makes no difference. -/
theorem queueing_append_filter (l : Link) (a b : List String) :
    l.queueing (a ++ b.filter fun line => !hasLineBreak line) = l.queueing (a ++ b) := by
  unfold queueing
  rw [List.filter_append, List.filter_append, List.filter_filter]
  simp only [Bool.and_self]

theorem mem_queueing {l : Link} {lines : List String} {line : String}
    (h : .send line ∈ (l.queueing lines).queue) : .send line ∈ l.queue ∨ line ∈ lines := by
  unfold queueing at h
  split at h
  · rcases List.mem_append.mp h with h | h
    · exact .inl h
    · obtain ⟨line', hmem, he⟩ := List.mem_map.mp h
      rw [← Control.send.inj he]
      exact .inr (List.mem_filter.mp hmem).1
  · exact .inl h

theorem closing_queueing {l : Link} (h : l.closing = false) (lines : List String) :
    (l.queueing lines).closing = false := by
  induction lines generalizing l with
  | nil => rwa [queueing_nil]
  | cons line lines ih =>
      rw [← List.singleton_append, ← queueing_append]
      refine ih ?_
      rw [← sendLine_eq]
      exact (l.pending_send (.raw line)).2.trans h

end Link

theorem Session.link_sendLines (lines : List String) (s : Session) :
    (s.sendLines lines).link = s.link.queueing lines := by
  induction lines generalizing s with
  | nil => exact s.link.queueing_nil.symm
  | cons line lines ih =>
      show ((s.sendLine line).sendLines lines).link = _
      rw [ih, Session.sendLine, Link.sendLine_eq, Link.queueing_append, List.singleton_append]

/-! ## The welcome -/

theorem process_welcome (p : Persona) (net : Network) {msg : Message} (h : msg.command = "001") :
    process p net msg = Handling.welcome net msg := by
  have hv : Verb.ofCommand? msg.command = some .welcome := by
    rw [h]
    rfl
  exact process_of_ofCommand? hv

/-- The registration is complete once a welcome was handled. -/
theorem registered_process (p : Persona) (net : Network) (msg : Message) :
    (process p net msg).1.registered = (net.registered || msg.command == "001") := by
  by_cases h : msg.command = "001"
  · rw [process_welcome p net h, h]
    exact (Bool.or_true _).symm
  · have hne : (msg.command == "001") = false := beq_false_of_ne h
    rw [hne, Bool.or_false]
    rcases changes_process p net msg with he | ⟨v, hv, hc⟩
    · rw [he]
    · generalize (process p net msg).1 = net' at hc
      cases hc with
      | welcomed => exact absurd (List.mem_singleton.mp (Verb.mem_commands hv)) h
      | _ => rfl

/-- An outcome completes the registration if it is that of the first welcome. -/
theorem registered_outcome (p : Persona) (net : Network) (msg : Message) :
    (process p net msg).2.registered = (msg.command == "001" && !net.registered) := by
  by_cases h : msg.command = "001"
  · rw [process_welcome p net h, h]
    rfl
  · rw [(answers_process p net h).registered, beq_false_of_ne h]
    rfl

/-- The welcome sends nothing, and any other line nothing but answers. -/
theorem lines_process (p : Persona) (net : Network) (msg : Message) :
    ∀ l ∈ (process p net msg).2.lines, IsReply l := by
  by_cases h : msg.command = "001"
  · rw [process_welcome p net h]
    nofun
  · exact (answers_process p net h).lines

/-! ## The channels to enter -/

/-- The names of the channels that are marked, each once and in order. A name that would not
stay on one line is left out. -/
structure Network.ToEnter (net : Network) (names : List String) : Prop where
  increasing : names.Pairwise fun a b => nameBefore a b = true
  mem_iff : ∀ name, name ∈ names ↔ hasLineBreak name = false ∧
    ∃ c ∈ net.channels.values, c.autoJoin = true ∧ c.name = name

theorem Network.Keyed.autoJoinChannels {net : Network} (h : net.Keyed) :
    net.ToEnter (net.autoJoinChannels.filter fun name => !hasLineBreak name) := by
  refine ⟨(sortNames_increasing (h.channels.named.nodup (·.autoJoin))).filter _, ?_⟩
  intro name
  rw [List.mem_filter, Network.autoJoinChannels, sortNames, List.mem_mergeSort, List.mem_map,
    Bool.not_eq_true']
  constructor
  · intro hm
    obtain ⟨⟨c, hc, hname⟩, hbreak⟩ := hm
    obtain ⟨hc, hmarked⟩ := List.mem_filter.mp hc
    exact ⟨hbreak, c, hc, hmarked, hname⟩
  · intro hm
    obtain ⟨hbreak, c, hc, hmarked, hname⟩ := hm
    exact ⟨⟨c, List.mem_filter.mpr ⟨hc, hmarked⟩, hname⟩, hbreak⟩

/-- A name that has a line break is one whose line is no line. -/
theorem map_join_filter (names : List String) :
    (names.filter fun name => !hasLineBreak name).map ("JOIN " ++ ·) =
      (names.map ("JOIN " ++ ·)).filter fun line => !hasLineBreak line := by
  have hjoin : ∀ name, hasLineBreak ("JOIN " ++ name) = hasLineBreak name := by
    intro name
    have hword : hasLineBreak "JOIN " = false := by decide
    rw [hasLineBreak_append, hword, Bool.false_or]
  rw [List.filter_map]
  simp only [Function.comp_def, hjoin]

/-! ## Lines -/

/-- Whether a line is a welcome. -/
def isWelcome (line : String) : Bool :=
  (Message.parse? line).any (·.command == "001")

namespace Session

/-- What holds of a session at any time. -/
structure Underway (welcomed : Bool) (s : Session) : Prop where
  keyed : s.network.Keyed
  /-- The registration is complete once there was a welcome. -/
  registered : s.network.registered = welcomed
  /-- There is no negotiation from then on. -/
  settled : welcomed = true → s.negotiator.isActive = false

/-- What the handlers make of a message, if the negotiation does not keep it. -/
def handled (p : Persona) (s : Session) (msg : Message) : Network × Outcome :=
  let step := s.negotiator.handle s.network msg
  if step.consumed then (step.network, .empty) else process p step.network msg

/-- A welcome is always handled. -/
theorem handled_welcome (p : Persona) (s : Session) {msg : Message} (h : msg.command = "001") :
    s.handled p msg = process p s.network msg := by
  obtain ⟨hconsumed, hnetwork, -⟩ := s.negotiator.handle_welcome s.network h
  unfold handled
  dsimp only
  rw [hconsumed, hnetwork, if_neg Bool.false_ne_true]

variable {w : Bool} {s : Session}

theorem lines_handled (p : Persona) (s : Session) (msg : Message) :
    ∀ l ∈ (s.handled p msg).2.lines, IsReply l := by
  unfold handled
  dsimp only
  split
  · nofun
  · exact lines_process p _ msg

/-- The registration is complete after a welcome, and the first one completes it. -/
theorem registered_handled (h : s.network.registered = w) (p : Persona) (msg : Message) :
    (s.handled p msg).1.registered = (w || msg.command == "001") ∧
      (s.handled p msg).2.registered = (msg.command == "001" && !w) := by
  by_cases hc : msg.command = "001"
  · rw [handled_welcome p s hc, registered_process, registered_outcome, h]
    exact ⟨rfl, rfl⟩
  · obtain ⟨account, hnetwork⟩ := s.negotiator.network_handle s.network msg
    unfold handled
    dsimp only
    split
    · rw [hnetwork, beq_false_of_ne hc, Bool.or_false]
      exact ⟨h, rfl⟩
    · rw [registered_process, registered_outcome, hnetwork]
      exact ⟨congrArg (· || _) h, by rw [beq_false_of_ne hc, Bool.false_and, Bool.false_and]⟩

theorem keyed_handled (h : s.network.Keyed) (p : Persona) (msg : Message) :
    (s.handled p msg).1.Keyed := by
  obtain ⟨account, hnetwork⟩ := s.negotiator.network_handle s.network msg
  have hkeyed : (s.negotiator.handle s.network msg).network.Keyed := by
    rw [hnetwork]
    exact ⟨h.channels, h.members, h.whois⟩
  unfold handled
  dsimp only
  split
  · exact hkeyed
  · exact Network.keyed_process hkeyed p msg

/-- A welcome leaves no negotiation behind, and none begins afterwards. -/
theorem inactive_handle (hw : w = true → s.negotiator.isActive = false) {msg : Message}
    (h : (w || msg.command == "001") = true) :
    (s.negotiator.handle s.network msg).negotiator.isActive = false := by
  by_cases hc : msg.command = "001"
  · exact (s.negotiator.handle_welcome s.network hc).2.2
  · rw [beq_false_of_ne hc, Bool.or_false] at h
    exact Negotiator.inactive_reaction (Negotiator.reaction_handle _ s.network msg) (hw h)

theorem underway_respond (h : s.Underway w) (p : Persona) (msg : Message) :
    (s.respond p msg).1.Underway (w || msg.command == "001") where
  keyed := keyed_handled h.keyed p msg
  registered := (registered_handled h.registered p msg).1
  settled := fun hw => Negotiator.inactive_runStep (inactive_handle h.settled hw) _

theorem outcome_respond (p : Persona) (s : Session) (msg : Message) :
    (s.respond p msg).2 = (s.negotiator.handle s.network msg).outcome ++ (s.handled p msg).2 ++
      ((s.negotiator.handle s.network msg).negotiator.runStep (s.handled p msg).1).2 :=
  rfl

/-- A response sends nothing but answers, also where it completes the registration. -/
theorem lines_respond (p : Persona) (s : Session) (msg : Message) :
    ∀ l ∈ (s.respond p msg).2.lines, IsReply l := by
  have hhandle := Negotiator.answers_reaction (s.negotiator.reaction_handle s.network msg)
  intro l hl
  -- first what the negotiation says, then the handlers, then the answer to a challenge
  rcases List.mem_append.mp hl with hl | hl
  · rcases List.mem_append.mp hl with hl | hl
    · exact hhandle.lines l hl
    · exact lines_handled p s msg l hl
  · exact (Negotiator.answers_runStep _ _).lines l hl

theorem registered_respond (h : s.network.registered = w) (p : Persona) (msg : Message) :
    (s.respond p msg).2.registered = (msg.command == "001" && !w) := by
  have hhandle := Negotiator.answers_reaction (s.negotiator.reaction_handle s.network msg)
  have hstep := Negotiator.answers_runStep (s.negotiator.handle s.network msg).negotiator
    (s.handled p msg).1
  rw [outcome_respond, Outcome.registered_append, Outcome.registered_append, hhandle.registered,
    hstep.registered, (registered_handled h p msg).2, Bool.false_or, Bool.or_false]

/-! ## What a line queues -/

theorem handleLine_of_parse? {p : Persona} {line : String} {msg : Message}
    (h : Message.parse? line = some msg) : (s.handleLine p line).1 =
      (s.respond p msg).1.sendLines ((s.respond p msg).2.lines ++
        if (s.respond p msg).2.registered then (s.respond p msg).1.joins else []) := by
  unfold handleLine
  rw [h]
  rfl

theorem handleLine_of_parse?_none {p : Persona} {line : String}
    (h : Message.parse? line = none) : (s.handleLine p line).1 = s := by
  unfold handleLine
  rw [h]

theorem underway_handleLine (h : s.Underway w) (p : Persona) (line : String) :
    (s.handleLine p line).1.Underway (w || isWelcome line) := by
  unfold isWelcome
  cases hmsg : Message.parse? line with
  | none =>
      rw [handleLine_of_parse?_none hmsg, Option.any_none, Bool.or_false]
      exact h
  | some msg =>
      obtain ⟨hkeyed, hregistered, hsettled⟩ := underway_respond h p msg
      rw [handleLine_of_parse? hmsg, Option.any_some]
      refine ⟨?_, ?_, ?_⟩
      · rw [network_sendLines]
        exact hkeyed
      · rw [network_sendLines]
        exact hregistered
      · rw [negotiator_sendLines]
        exact hsettled

/-- **What a line queues**: answers, and after the first welcome the channels to enter. -/
theorem link_handleLine (h : s.Underway w) (p : Persona) (line : String) :
    let s' := (s.handleLine p line).1
    ∃ others names : List String,
      s'.link = s.link.queueing (others ++ names.map ("JOIN " ++ ·)) ∧
      (∀ l ∈ others, IsReply l) ∧
      if isWelcome line && !w then s'.network.ToEnter names else names = [] := by
  intro s'
  cases hmsg : Message.parse? line with
  | none =>
      have hs : s' = s := handleLine_of_parse?_none hmsg
      have hno : isWelcome line = false := by rw [isWelcome, hmsg, Option.any_none]
      rw [hs, hno]
      exact ⟨[], [], s.link.queueing_nil.symm, nofun, rfl⟩
  | some msg =>
      have hs : s' = (s.respond p msg).1.sendLines ((s.respond p msg).2.lines ++
          if (s.respond p msg).2.registered then (s.respond p msg).1.joins else []) :=
        handleLine_of_parse? hmsg
      have hregistered : (s.respond p msg).2.registered = (isWelcome line && !w) := by
        rw [isWelcome, hmsg, Option.any_some]
        exact registered_respond h.registered p msg
      rw [hregistered] at hs
      rw [hs, link_sendLines, network_sendLines]
      cases hfirst : isWelcome line && !w with
      | false => exact ⟨_, [], rfl, lines_respond p s msg, rfl⟩
      | true =>
          have hkeyed := (underway_respond h p msg).keyed
          refine ⟨_, _, ?_, lines_respond p s msg, hkeyed.autoJoinChannels⟩
          rw [if_pos rfl, map_join_filter, Link.queueing_append_filter]
          rfl

/-! ## The life of a session -/

/-- What can happen to a session that can be found. -/
inductive Happening where
  /-- The session handles a line. -/
  | line (p : Persona) (line : String)
  | call (c : Call)
  | tearDown (reason : Option String)

namespace Happening

/-- Whether a line is handled that is a welcome. -/
def isWelcome : Happening → Bool
  | line _ text => IrcClient.isWelcome text
  | call _ | tearDown _ => false

/-- Whether a line is handled. -/
def isLine : Happening → Bool
  | line .. => true
  | call _ | tearDown _ => false

/-- The lines that a caller asks the session to send. -/
def asked : Happening → List String
  | call (.send request) => [request.line]
  | call (.say u target text) => [(u.request target text).line]
  | tearDown reason => [(Request.quit reason).line]
  | _ => []

/-- Whether the link goes on, as far as this is concerned. -/
def keepsLink : Happening → Bool
  | call .endOfInput | tearDown _ => false
  | _ => true

end Happening

/-- What becomes of a session. -/
def perform (s : Session) : Happening → Session
  | .line p line => (s.handleLine p line).1
  | .call c => (s.call c).1
  | .tearDown reason => s.tearDown reason

/-- One thing after another. -/
def run (s : Session) (happenings : List Happening) : Session :=
  happenings.foldl perform s

theorem underway_start (identity : Identity) (endpoint : Endpoint)
    (records : List ChannelRecord) (nonce : String) :
    (start identity endpoint records nonce).Underway false where
  keyed := by
    rw [network_start]
    exact (Network.new_keyed _ _ _).seed records
  registered := by
    rw [network_start]
    rfl
  settled := nofun

theorem underway_perform (h : s.Underway w) (x : Happening) :
    (s.perform x).Underway (w || x.isWelcome) := by
  cases x with
  | line p line => exact underway_handleLine h p line
  | tearDown reason =>
      show (s.tearDown reason).Underway (w || false)
      rw [Bool.or_false]
      unfold tearDown
      split
      · exact h
      · exact ⟨h.keyed, h.registered, h.settled⟩
  | call c =>
      show (s.call c).1.Underway (w || false)
      rw [Bool.or_false]
      cases c with
      | receive | endOfInput | flush | send => exact ⟨h.keyed, h.registered, h.settled⟩
      | setAutoJoin channel autoJoin =>
          exact ⟨h.keyed.mark channel autoJoin, h.registered, h.settled⟩
      | say u target text =>
          show (s.say u target text).1.Underway w
          rcases say_cases s u target text with he | he
          · rw [he]
            exact h
          · rw [he]
            exact ⟨h.keyed, h.registered, h.settled⟩

theorem underway_run (h : s.Underway w) (happenings : List Happening) :
    (s.run happenings).Underway (w || happenings.any (·.isWelcome)) := by
  induction happenings generalizing s w with
  | nil =>
      rw [List.any_nil, Bool.or_false]
      exact h
  | cons x happenings ih =>
      rw [List.any_cons, ← Bool.or_assoc]
      exact ih (underway_perform h x)

/-! ## The queue otherwise -/

theorem link_send (s : Session) (r : Request) : (s.send r).1.link = s.link.queueing [r.line] :=
  s.link.sendLine_eq r.line

/-- Whatever else happens, nothing is queued but what somebody asked for. -/
theorem mem_queue_perform (s : Session) {x : Happening} (hx : x.isLine = false) {l : String}
    (hl : .send l ∈ (s.perform x).link.queue) : .send l ∈ s.link.queue ∨ l ∈ x.asked := by
  have hsend : ∀ r : Request, .send l ∈ (s.send r).1.link.queue →
      .send l ∈ s.link.queue ∨ l ∈ [r.line] := by
    intro r hl
    rw [link_send] at hl
    exact Link.mem_queueing hl
  cases x with
  | line p line => cases hx
  | tearDown reason =>
      have hl : .send l ∈ (s.tearDown reason).link.queue := hl
      unfold tearDown at hl
      split at hl
      · exact .inl hl
      · have hl : .send l ∈ ((s.send (.quit reason)).1.link.close).queue := hl
        unfold Link.close at hl
        split at hl
        · rcases List.mem_append.mp hl with hl | hl
          · exact hsend _ hl
          · -- what is queued behind the farewell closes the link, and is no line
            exact absurd (List.mem_singleton.mp hl) (by simp)
        · exact hsend _ hl
  | call c =>
      cases c with
      | send request => exact hsend request hl
      | setAutoJoin channel autoJoin => exact .inl hl
      | say u target text =>
          have hl : .send l ∈ (s.say u target text).1.link.queue := hl
          rcases say_cases s u target text with he | he
          · rw [he] at hl
            exact .inl hl
          · rw [he] at hl
            exact hsend _ hl
      | receive bytes =>
          -- bytes that come in wait on the other side of the link
          have hl : .send l ∈ (s.link.receive bytes).1.queue := hl
          unfold Link.receive at hl
          split at hl <;> exact .inl hl
      | endOfInput =>
          have hl : .send l ∈ s.link.endOfInput.1.queue := hl
          unfold Link.endOfInput at hl
          split at hl <;> exact .inl hl
      | flush =>
          have hl : .send l ∈ s.link.flush.1.queue := hl
          unfold Link.flush at hl
          split at hl
          · cases hl
          · exact .inl hl

/-- A session begins without entering anything. -/
theorem mem_queue_start (identity : Identity) (endpoint : Endpoint)
    (records : List ChannelRecord) (nonce : String) {l : String}
    (hl : .send l ∈ (start identity endpoint records nonce).link.queue) : ¬IsJoin l := by
  have hlines : l ∈ (Negotiator.new (identity.mechanism? nonce)).start.2.lines ++
      identity.registration := by
    unfold start at hl
    dsimp only at hl
    rw [link_sendLines] at hl
    exact (Link.mem_queueing hl).resolve_left List.not_mem_nil
  -- each line of the registration begins with a word of its own
  have hno : ∀ word : String,
      ¬("JOIN ".toList <+: word.toList ∨ word.toList <+: "JOIN ".toList) →
      ∀ rest, ¬IsJoin (word ++ rest) := fun word hword rest =>
    not_isJoin_of_word (isPrefix_append word rest) hword
  rcases List.mem_append.mp hlines with h | h
  · unfold Negotiator.start at h
    split at h
    · rw [List.mem_singleton.mp h]
      exact hno "CAP " (by decide) "LS 302"
    · cases h
  · unfold Identity.registration at h
    rcases List.mem_append.mp h with h | h
    · cases hp : identity.password with
      | none =>
          rw [hp] at h
          cases h
      | some password =>
          rw [hp] at h
          rw [List.mem_singleton.mp h]
          exact hno "PASS " (by decide) password
    · rcases List.mem_cons.mp h with rfl | h
      · exact hno "NICK " (by decide) _
      · rw [List.mem_singleton.mp h, String.append_assoc, String.append_assoc]
        exact hno "USER " (by decide) _

/-! ## The link as long as nobody ends it -/

theorem closing_start (identity : Identity) (endpoint : Endpoint)
    (records : List ChannelRecord) (nonce : String) :
    (start identity endpoint records nonce).link.closing = false := by
  unfold start
  dsimp only
  rw [link_sendLines]
  exact Link.closing_queueing rfl _

theorem closing_perform (h : s.Underway w) {x : Happening} (hx : x.keepsLink = true)
    (hl : s.link.closing = false) : (s.perform x).link.closing = false := by
  have hsend : ∀ r : Request, (s.send r).1.link.closing = false := by
    intro r
    rw [link_send]
    exact Link.closing_queueing hl _
  cases x with
  | line p line =>
      obtain ⟨others, names, hlink, -⟩ := link_handleLine h p line
      show (s.handleLine p line).1.link.closing = false
      rw [hlink]
      exact Link.closing_queueing hl _
  | tearDown reason => cases hx
  | call c =>
      cases c with
      | send request => exact hsend request
      | setAutoJoin channel autoJoin => exact hl
      | say u target text =>
          show (s.say u target text).1.link.closing = false
          rcases say_cases s u target text with he | he
          · rw [he]
            exact hl
          · rw [he]
            exact hsend _
      | receive bytes => exact (s.link.pending_receive bytes).2.trans hl
      | endOfInput => cases hx
      | flush =>
          show s.link.flush.1.closing = false
          unfold Link.flush
          split
          · unfold Link.closing at hl ⊢
            rw [Bool.or_eq_false_iff] at hl
            dsimp only
            rw [hl.2]
            rfl
          · exact hl

theorem closing_run (h : s.Underway w) {happenings : List Happening}
    (hx : happenings.all (·.keepsLink) = true) (hl : s.link.closing = false) :
    (s.run happenings).link.closing = false := by
  induction happenings generalizing s w with
  | nil => exact hl
  | cons x happenings ih =>
      rw [List.all_cons, Bool.and_eq_true] at hx
      exact ih (underway_perform h x) hx.2 (closing_perform h hx.1 hl)

/--
**Channels are entered exactly once.** Whatever has happened to a session, a line that is
handled queues answers, and then, if it is the first welcome, a line for each channel that is
marked at that moment and whose name is fit for a line, each once and in order. A session does not
begin with such a line, and nothing else that happens queues a line but what somebody asked for.
A welcome reaches the handlers in any case, and there is no negotiation from then on. The link
takes lines as long as nobody ends it.
-/
theorem enters_once (identity : Identity) (endpoint : Endpoint) (records : List ChannelRecord)
    (nonce : String) (before : List Happening) (p : Persona) (line : String) :
    let first := start identity endpoint records nonce
    let s := first.run before
    let s' := (s.handleLine p line).1
    (∃ others names : List String,
      s'.link = s.link.queueing (others ++ names.map ("JOIN " ++ ·)) ∧
      (∀ l ∈ others, ¬IsJoin l) ∧
      if isWelcome line && !before.any (·.isWelcome) then s'.network.ToEnter names
      else names = []) ∧
    (∀ l, .send l ∈ first.link.queue → ¬IsJoin l) ∧
    (∀ x : Happening, x.isLine = false → ∀ l, .send l ∈ (s.perform x).link.queue →
      .send l ∈ s.link.queue ∨ l ∈ x.asked) ∧
    (∀ msg, Message.parse? line = some msg → msg.command = "001" →
      s'.network = (process p s.network msg).1 ∧
      ∀ later, (s'.run later).negotiator.isActive = false) ∧
    (before.all (·.keepsLink) = true → s.link.alive = true) := by
  intro first s s'
  have hstart : first.Underway false := underway_start identity endpoint records nonce
  have h : s.Underway (before.any (·.isWelcome)) := by
    have hrun := underway_run hstart before
    rw [Bool.false_or] at hrun
    exact hrun
  refine ⟨?_, ?_, ?_, ?_, ?_⟩
  · obtain ⟨others, names, hlink, hothers, hnames⟩ := link_handleLine h p line
    exact ⟨others, names, hlink, fun l hl => (hothers l hl).not_isJoin, hnames⟩
  · intro l hl
    exact mem_queue_start identity endpoint records nonce hl
  · intro x hx l hl
    exact mem_queue_perform s hx hl
  · intro msg hmsg hcommand
    -- the welcome settles the negotiation for good
    have hwelcome : isWelcome line = true := by
      rw [isWelcome, hmsg, Option.any_some, hcommand]
      rfl
    refine ⟨?_, ?_⟩
    · show (s.handleLine p line).1.network = _
      rw [handleLine_of_parse? hmsg, network_sendLines]
      exact congrArg Prod.fst (handled_welcome p s hcommand)
    · intro later
      refine (underway_run (underway_handleLine h p line) later).settled ?_
      rw [hwelcome, Bool.or_true, Bool.true_or]
  · intro hkeeps
    have hclosing : s.link.closing = false :=
      closing_run hstart hkeeps (closing_start identity endpoint records nonce)
    unfold Link.closing at hclosing
    rw [Bool.or_eq_false_iff, Bool.not_eq_false'] at hclosing
    exact hclosing.1

end Session

end IrcClient
