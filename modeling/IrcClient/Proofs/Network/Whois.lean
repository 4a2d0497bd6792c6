import IrcClient.Proofs.Handling.Inquiry
import IrcClient.Proofs.Network.Naming

/-!
# WHOIS replies of different users never mix

Replies about several users may come in any order, with anything else between them. What is
announced of a user is nevertheless a matter of the replies about that user alone. These fall into
rounds, each of which is closed by the last reply to a query (`rounds`), and what is announced is
what the rounds come to, one after another (`gathered`). A round that comes to nothing is not
announced.

The invariant of a run is `Gathers`: the rounds that are closed have been announced, and the
collection of the nickname is what the current one comes to so far. A step either brings a reply
about the nickname (`Gathers.reply`), or matters to neither (`Gathers.other`).
-/

namespace IrcClient

/-! ## Rounds -/

/-- Replies about one nickname in rounds, the last of which is not closed yet. -/
structure Rounds where
  closed : List (List Message) := []
  current : List Message := []

/-- One more reply; the last one to a query closes the round. -/
def Rounds.next (r : Rounds) (msg : Message) : Rounds :=
  if msg.command = "318" then ⟨r.closed ++ [r.current], []⟩
  else ⟨r.closed, r.current ++ [msg]⟩

/-- The rounds that replies fall into. -/
def rounds (replies : List Message) : Rounds :=
  replies.foldl Rounds.next {}

/--
What the replies of a round come to. Only another reply than that someone is away begins a
collection, in the spelling of the nickname that it has. From then on every reply counts.
-/
def gathered (replies : List Message) : Option Whois :=
  match replies.dropWhile (·.command = "301") with
  | [] => none
  | first :: rest => some ((first :: rest).foldl Whois.told (.new ((first.arg 1).getD "")))

theorem rounds_concat (replies : List Message) (msg : Message) :
    rounds (replies ++ [msg]) = (rounds replies).next msg :=
  List.foldl_append ..

/-- With another reply a round comes to what the collection is after it. -/
theorem gathered_concat {msg : Message} {nick : String} (hnick : msg.arg 1 = some nick)
    (hlast : msg.command ≠ "318") (replies : List Message) :
    gathered (replies ++ [msg]) = Network.collectionAfter nick (gathered replies) msg := by
  unfold gathered Network.collectionAfter
  rw [if_neg hlast, List.dropWhile_append]
  cases hbegun : replies.dropWhile (·.command = "301") with
  | nil =>
    rw [if_pos List.isEmpty_nil]
    by_cases haway : msg.command = "301"
    · simp [haway]
    · simp [haway, hnick]
  | cons first rest =>
    rw [if_neg (by simp), List.cons_append]
    by_cases haway : msg.command = "301"
    · simp [haway]
    · simp [haway]

/-! ## What is announced -/

namespace Event

/-- The nickname of the user that an event announces a collection of. -/
def whoisNick? (e : Event) : Option String :=
  if e.type = "whois.received" then
    match e.get? "whois" with
    | some (.record fields) => (lookupIn "nick" fields).bind Datum.text?
    | _ => none
  else none

/-- Whether an event announces a collection of a nickname, in any spelling. -/
def isWhoisOf (n : String) (e : Event) : Bool :=
  e.whoisNick?.any (sameName n)

end Event

theorem Network.isWhoisOf_whoisEvent (net : Network) (w : Whois) (n : String) :
    (net.whoisEvent w).isWhoisOf n = sameName n w.nick := by
  have htype : (net.whoisEvent w).type = "whois.received" := rfl
  rw [Event.isWhoisOf, Event.whoisNick?, if_pos htype, whoisEvent, Event.get?_set, if_pos rfl]
  rfl

/-- An event depends on which network it is of, and on nothing else that is known. -/
theorem SameNetwork.whoisEvent {net net' : Network} (h : SameNetwork net net') :
    net'.whoisEvent = net.whoisEvent := by
  funext w
  rw [Network.whoisEvent, Network.event, h.id, h.label]
  rfl

namespace Network

/-- The reply about a nickname that a step brings, if it brings one. -/
def Step.replyAbout? (n : String) : Step → Option Message
  | .line _ msg => if msg.isReplyAbout n then some msg else none
  | .seed _ | .mark _ _ => none

/-- What is published in a step. -/
def tells (net : Network) : Step → List Event
  | .line p msg => (process p net msg).2.events
  | .seed _ | .mark _ _ => []

/-- What is published in steps, one after another. -/
def publishes : Network → List Step → List Event
  | _, [] => []
  | net, next :: steps => net.tells next ++ (net.step next).publishes steps

theorem sameNetwork_step (net : Network) (next : Step) : SameNetwork net (net.step next) := by
  cases next with
  | seed records => exact ⟨rfl, rfl⟩
  | line p msg => exact sameNetwork_process p net msg
  | mark channel autoJoin => exact ⟨rfl, rfl⟩

/-- What a reply announces is of the nickname that it is about, by whatever spelling the
collection was begun. -/
theorem Keyed.isWhoisOf_reply {net : Network} (h : net.Keyed) {nick n : String} {msg : Message}
    {e : Event} (he : e ∈ (net.reply nick msg).2.events) :
    e.isWhoisOf n = true ↔ fold nick = fold n := by
  rw [events_reply] at he
  split at he
  · obtain ⟨w, hw, rfl⟩ := Option.map_eq_some_iff.mp (Option.mem_toList.mp he)
    have hkey : fold w.nick = fold nick := h.whois _ w hw
    rw [isWhoisOf_whoisEvent, sameName_iff, hkey]
    exact eq_comm
  · cases he

/-! ## The invariant -/

/--
Whether the rounds of the replies about a nickname so far have been announced, and the current one
is gathered. The events are those of the network that the run began with.
-/
structure Gathers (start : Network) (n : String) (replies : List Message) (net : Network)
    (published : List Event) : Prop where
  keyed : net.Keyed
  same : SameNetwork start net
  collected : net.whois? n = gathered (rounds replies).current
  announced : published.filter (·.isWhoisOf n) =
    (rounds replies).closed.filterMap fun round => (gathered round).map start.whoisEvent

namespace Gathers

variable {start net : Network} {n : String} {replies : List Message} {published : List Event}

theorem new (id : NetworkId) (label nickname n : String) :
    Gathers (Network.new id label nickname) n [] (Network.new id label nickname) [] :=
  ⟨new_keyed id label nickname, ⟨rfl, rfl⟩, rfl, rfl⟩

/-- What neither touches the collection nor announces it does not matter. -/
theorem other (h : Gathers start n replies net published) (next : Step)
    (hcollected : (net.step next).whois? n = net.whois? n)
    (htells : (net.tells next).filter (·.isWhoisOf n) = []) :
    Gathers start n replies (net.step next) (published ++ net.tells next) where
  keyed := h.keyed.step next
  same := h.same.trans (net.sameNetwork_step next)
  collected := hcollected.trans h.collected
  announced := by rw [List.filter_append, htells, List.append_nil, h.announced]

/-- A reply about the nickname belongs to the current round, or closes it. -/
theorem reply (h : Gathers start n replies net published) (p : Persona) {msg : Message}
    {nick : String} (hcommand : msg.command ∈ whoisCommands) (hnick : msg.arg 1 = some nick)
    (hfold : fold nick = fold n) :
    Gathers start n (replies ++ [msg]) (net.step (.line p msg))
      (published ++ net.tells (.line p msg)) := by
  have hprocess : process p net msg = net.reply nick msg := process_of_reply p net hcommand hnick
  have hwhois : (net.step (.line p msg)).whois? n =
      collectionAfter nick (gathered (rounds replies).current) msg := by
    rw [step, hprocess, whois?_reply msg hfold, h.collected]
  have htells : net.tells (.line p msg) =
      if msg.command = "318"
        then ((gathered (rounds replies).current).map start.whoisEvent).toList else [] := by
    have hsame : net.whois? nick = net.whois? n := by rw [whois?, hfold, whois?]
    rw [tells, hprocess, events_reply, hsame, h.collected, h.same.whoisEvent]
  have hmine : ∀ e ∈ net.tells (.line p msg), e.isWhoisOf n = true := by
    intro e he
    rw [tells, hprocess] at he
    exact (h.keyed.isWhoisOf_reply he).mpr hfold
  refine ⟨h.keyed.step _, h.same.trans (net.sameNetwork_step _), ?_, ?_⟩
  · rw [hwhois, rounds_concat, Rounds.next]
    split
    · -- the last reply of a round takes what was collected with it
      rename_i hlast
      rw [collectionAfter, if_pos hlast]
      rfl
    · rename_i hlast
      exact (gathered_concat hnick hlast _).symm
  · rw [List.filter_append, List.filter_eq_self.mpr hmine, h.announced, htells, rounds_concat,
      Rounds.next]
    split
    · rw [List.filterMap_append, List.filterMap_cons]
      cases gathered (rounds replies).current <;> rfl
    · rw [List.append_nil]

/-- A line that is no reply about the nickname does not matter. -/
theorem line (h : Gathers start n replies net published) (p : Persona) {msg : Message}
    (hmsg : msg.isReplyAbout n = false) :
    Gathers start n replies (net.step (.line p msg)) (published ++ net.tells (.line p msg)) := by
  by_cases hcommand : msg.command ∈ whoisCommands
  · cases hnick : msg.arg 1 with
    -- a reply without a nickname is not kept
    | none =>
      have hprocess := process_of_unnamed p net hcommand hnick
      refine h.other _ ?_ ?_
      · rw [step, hprocess]
      · rw [tells, hprocess]
        rfl
    | some nick =>
      have hfold : fold nick ≠ fold n := by
        intro hfold
        refine absurd hmsg (Bool.not_eq_false _ ▸ ?_)
        simp [Message.isReplyAbout, hcommand, hnick, sameName_iff.mpr hfold.symm]
      have hprocess := process_of_reply p net hcommand hnick
      refine h.other _ ?_ ?_
      · rw [step, hprocess, whois?_reply_other msg hfold]
      · rw [tells, hprocess]
        exact List.filter_eq_nil_iff.mpr fun e he hmine =>
          hfold ((h.keyed.isWhoisOf_reply he).mp hmine)
  · refine h.other _ ?_ ?_
    · rw [step, whois?, whois_process_other p net hcommand, whois?]
    · refine List.filter_eq_nil_iff.mpr fun e he => ?_
      rw [Event.isWhoisOf, Event.whoisNick?, if_neg (type_of_other p net hcommand he)]
      simp

/-- **A step** brings a reply about the nickname, or does not matter. -/
theorem step (h : Gathers start n replies net published) (next : Step) :
    Gathers start n (replies ++ (next.replyAbout? n).toList) (net.step next)
      (published ++ net.tells next) := by
  cases next with
  | seed _ | mark _ _ =>
    show Gathers start n (replies ++ []) _ _
    rw [List.append_nil]
    exact h.other _ rfl rfl
  | line p msg =>
    rw [Step.replyAbout?]
    cases hmsg : msg.isReplyAbout n with
    | false =>
      rw [if_neg Bool.false_ne_true, Option.toList_none, List.append_nil]
      exact h.line p hmsg
    | true =>
      rw [if_pos rfl, Option.toList_some]
      obtain ⟨hcommand, hnick⟩ := Bool.and_eq_true_iff.mp hmsg
      obtain ⟨nick, hnick, hsame⟩ := (Option.any_eq_true ..).mp hnick
      exact h.reply p (List.contains_iff_mem.mp hcommand) hnick (sameName_iff.mp hsame).symm

/-- So it is after any steps. -/
theorem run : ∀ (steps : List Step) {replies : List Message} {net : Network}
    {published : List Event}, Gathers start n replies net published →
      Gathers start n (replies ++ steps.filterMap (·.replyAbout? n)) (net.run steps)
        (published ++ net.publishes steps)
  | [], replies, net, published, h => by
      simpa [publishes, Network.run] using h
  | next :: steps, replies, net, published, h => by
      have hrest := run steps (h.step next)
      rw [publishes, ← List.append_assoc]
      have hreplies : replies ++ (next :: steps).filterMap (·.replyAbout? n) =
          replies ++ (next.replyAbout? n).toList ++ steps.filterMap (·.replyAbout? n) := by
        rw [List.append_assoc, List.filterMap_cons]
        cases next.replyAbout? n <;> rfl
      rw [hreplies]
      exact hrest

end Gathers

/-- Steps that bring no reply about a nickname may be left out without losing one. -/
theorem filterMap_replyAbout?_filter (n : String) (steps : List Step) :
    (steps.filter fun next => (next.replyAbout? n).isSome).filterMap (·.replyAbout? n) =
      steps.filterMap (·.replyAbout? n) := by
  have hsome (next : Step) : (if (next.replyAbout? n).isSome then next.replyAbout? n else none) =
      next.replyAbout? n := by
    cases next.replyAbout? n <;> rfl
  rw [List.filterMap_filter]
  simp only [hsome]

/--
**Replies of different users never mix.** What is announced of a nickname in any steps is what is
announced where only the replies about it come, whole records included; and it is what its rounds
come to, in their order. Until the next round is closed its replies are gathered, and when it is,
nothing is left of it.
-/
theorem whois_rounds (id : NetworkId) (label nickname n : String) (steps : List Step) :
    let start := new id label nickname
    let about := rounds (steps.filterMap (·.replyAbout? n))
    let announced := (start.publishes steps).filter (·.isWhoisOf n)
    announced = (start.publishes (steps.filter fun next => (next.replyAbout? n).isSome)).filter
      (·.isWhoisOf n) ∧
    announced = about.closed.filterMap (fun round => (gathered round).map start.whoisEvent) ∧
    (start.run steps).whois? n = gathered about.current ∧
    (∀ p msg, msg.isReplyAbout n = true → msg.command = "318" →
      (process p (start.run steps) msg).1.whois? n = none) := by
  intro start about announced
  have hrun := (Gathers.new id label nickname n).run steps
  have hreduced := (Gathers.new id label nickname n).run
    (steps.filter fun next => (next.replyAbout? n).isSome)
  rw [filterMap_replyAbout?_filter] at hreduced
  refine ⟨hrun.announced.trans hreduced.announced.symm, hrun.announced, hrun.collected, ?_⟩
  intro p msg hmsg hlast
  have hclosed := (hrun.step (.line p msg)).collected
  rw [Step.replyAbout?, if_pos hmsg, Option.toList_some, rounds_concat, Rounds.next,
    if_pos hlast] at hclosed
  exact hclosed

/-- Two users, one of them in three spellings, and away before and after the collection begins. -/
theorem whois_rounds_interleaved :
    let start := new 1 "Libera" "kestrel"
    let p : Persona := ⟨"1.0", "noon"⟩
    let reply (command : String) (args : List String) : Message :=
      ⟨[], none, command, "kestrel" :: args⟩
    let steps : List Step := [.line p (reply "301" ["ada", "tea"]),
      .line p (reply "311" ["Ada", "al", "host", "*", "Ada L"]),
      .line p (reply "313" ["bob", "is an operator"]), .line p (reply "301" ["ADA", "lunch"])]
    let last := reply "318" ["ada", "End of WHOIS"]
    last.isReplyAbout "ADA" = true ∧ last.command = "318" ∧
    (process p (start.run steps) last).1.whois? "ADA" = none ∧
    (start.publishes (steps ++ [.line p last])).filter (·.isWhoisOf "ADA") =
      [start.whoisEvent { nick := "Ada", username := some "al", host := some "host",
                          realname := some "Ada L", away := some "lunch" }] := by
  intro start p reply steps last
  have hmsg : last.isReplyAbout "ADA" = true := by decide +kernel
  have hlast : last.command = "318" := rfl
  obtain ⟨-, -, -, hclosed⟩ := whois_rounds 1 "Libera" "kestrel" "ADA" steps
  obtain ⟨-, hannounced, -, -⟩ :=
    whois_rounds 1 "Libera" "kestrel" "ADA" (steps ++ [.line p last])
  have hround : (rounds ((steps ++ [Step.line p last]).filterMap (Step.replyAbout? "ADA"))).closed =
      [[reply "301" ["ada", "tea"], reply "311" ["Ada", "al", "host", "*", "Ada L"],
        reply "301" ["ADA", "lunch"]]] := by decide +kernel
  rw [hround] at hannounced
  exact ⟨hmsg, hlast, hclosed p last hmsg hlast, hannounced⟩

end Network

end IrcClient
