import IrcClient.Handling
import IrcClient.Proofs.Message.RoundTrip
import IrcClient.Proofs.Outcome
import IrcClient.Session

/-!
# What is said is heard

What a session says leaves it as a line, and the server hands the line on with the speaker's
source in front. Whoever receives it takes the line apart, looks for a query in the body, and
puts what was said into a buffer. Four pieces have to agree on that way, and none of them knows
of the others: the request, the wrapping of an action, the reading of the line and of the query.

The line with its source is what the message of the utterance is written as
(`render_toMessage`), so that it is read back is a matter of its being well formed. The one
thing that reading takes away is line breaks at the end, and the body has none. The source may
hold some: it is not at the end.
-/

namespace IrcClient

/-! ## Queries -/

theorem dropLast?_concat {α : Type} [DecidableEq α] (l : List α) (c : α) :
    dropLast? c (l ++ [c]) = some l := by
  rw [dropLast?, List.getLast?_concat, if_pos rfl, List.dropLast_concat]

theorem Ctcp.toList_encode (command params : String) : (encode command params).toList =
    delimiter :: (command.toList ++
      behind ' ' (if params = "" then none else some params.toList) ++ [delimiter]) := by
  unfold encode
  by_cases h : params = ""
  · simp [h]
  · simp [h]

/-- A query is read from what it is wrapped up as, whatever its parameters are. -/
theorem Ctcp.parse?_encode {command : String} (hne : command ≠ "") (hspace : ' ' ∉ command.toList)
    (params : String) : parse? (encode command params) = some ⟨upper command, params⟩ := by
  have hcommand : command.toList.isEmpty = false := by
    rw [List.isEmpty_eq_false_iff, ne_eq, String.toList_eq_nil_iff]
    exact hne
  unfold parse?
  rw [toList_encode]
  dsimp only
  rw [if_neg (not_not_intro rfl), dropLast?_concat, Option.getD_some, cut?_behind hspace]
  by_cases h : params = ""
  · rw [if_pos h, h, behind_none, List.append_nil, Option.map_none, Option.getD_none]
    dsimp only
    rw [hcommand, if_neg Bool.false_ne_true, String.ofList_toList]
  · rw [if_neg h, Option.map_some, Option.getD_some]
    dsimp only
    rw [hcommand, if_neg Bool.false_ne_true, String.ofList_toList, String.ofList_toList]

theorem hasLineBreak_append (a b : String) :
    hasLineBreak (a ++ b) = (hasLineBreak a || hasLineBreak b) := by
  simp [hasLineBreak]

theorem Ctcp.hasLineBreak_encode {command params : String} (hcommand : hasLineBreak command = false)
    (hparams : hasLineBreak params = false) : hasLineBreak (encode command params) = false := by
  have hdelimiter : hasLineBreak (String.singleton delimiter) = false := by decide
  have hspace : hasLineBreak " " = false := by decide
  unfold encode
  rw [hasLineBreak_append, hasLineBreak_append, hdelimiter]
  split
  · simp [hcommand]
  · simp [hasLineBreak_append, hcommand, hspace, hparams]

theorem process_of_ofCommand? {p : Persona} {net : Network} {msg : Message} {v : Verb}
    (h : Verb.ofCommand? msg.command = some v) : process p net msg = v.handler p net msg := by
  rw [process, h]

namespace Session.Utterance

/-! ## The message of an utterance -/

/-- The command that sends it. -/
def command : Utterance → String
  | message | action => "PRIVMSG"
  | notice => "NOTICE"

/-- The body that it is sent in. -/
def body (u : Utterance) (text : String) : String :=
  match u with
  | message | notice => text
  | action => Ctcp.encode "ACTION" text

/-- The message that others get of it. -/
def toMessage (u : Utterance) (source : Source) (target text : String) : Message :=
  ⟨[], some source, u.command, [target, u.body text]⟩

variable (u : Utterance) {source : Source} {target text : String}

theorem line_request : (u.request target text).line =
    u.command ++ " " ++ target ++ " :" ++ u.body text := by
  cases u <;> rfl

theorem render_toMessage : (u.toMessage source target text).render =
    ":" ++ source.render ++ " " ++ (u.request target text).line := by
  rw [line_request]
  simp [toMessage, Message.render, renderArgs, String.append_assoc]

theorem hasLineBreak_body (htext : hasLineBreak text = false) :
    hasLineBreak (u.body text) = false := by
  cases u with
  | message | notice => exact htext
  | action => exact Ctcp.hasLineBreak_encode (by decide) htext

/-- The line is one line wherever the target is. -/
theorem hasLineBreak_request (htext : hasLineBreak text = false) :
    hasLineBreak (u.request target text).line = hasLineBreak target := by
  have hcommand : hasLineBreak u.command = false := by cases u <;> decide
  have hspace : hasLineBreak " " = false := by decide
  have hcolon : hasLineBreak " :" = false := by decide
  rw [line_request, hasLineBreak_append, hasLineBreak_append, hasLineBreak_append,
    hasLineBreak_append, hcommand, hspace, hcolon, u.hasLineBreak_body htext]
  simp

theorem wellFormed_toMessage (htarget : IsMiddle target.toList) (hsource : source.WellFormed) :
    (u.toMessage source target text).WellFormed := by
  have hne : u.command ≠ "" := by cases u <;> decide
  have hspace : ' ' ∉ u.command.toList := by cases u <;> decide
  have hupper : upper u.command = u.command := by cases u <;> decide
  refine ⟨nofun, ?_, hne, hspace, hupper, ?_⟩
  · rintro s ⟨⟩
    exact hsource
  · intro arg harg
    have harg : arg ∈ [target] := harg
    rw [List.mem_singleton.mp harg]
    exact htarget

theorem beginsWell_toMessage : (u.toMessage source target text).BeginsWell := by
  have hbegun : Begun u.command.toList := by
    intro c hc
    cases u <;> cases hc <;> decide
  exact ⟨hbegun, nofun, nofun⟩

/-- The line is read as the message of the utterance, with the speaker's source in front. -/
theorem parse?_request (htarget : IsMiddle target.toList) (htext : hasLineBreak text = false)
    (hsource : source.WellFormed) :
    Message.parse? (":" ++ source.render ++ " " ++ (u.request target text).line) =
      some (u.toMessage source target text) := by
  have hbody : ∀ c ∈ (u.body text).toList, isLineBreak c = false :=
    hasLineBreak_eq_false_iff.mp (u.hasLineBreak_body htext)
  obtain ⟨front, hfront⟩ : ∃ front, (u.toMessage source target text).render.toList =
      front ++ ':' :: (u.body text).toList := by
    refine ⟨(":" ++ source.render ++ " " ++ (u.command ++ " " ++ target ++ " ")).toList, ?_⟩
    rw [render_toMessage, line_request]
    simp
  -- the line ends within the body, or with the colon before it
  have hlast : ∀ c ∈ (u.toMessage source target text).render.toList.getLast?,
      isLineBreak c = false := by
    intro c hc
    rw [hfront, List.getLast?_append, List.getLast?_eq_some_getLast (List.cons_ne_nil _ _),
      Option.some_or, ← List.getLast?_eq_some_getLast] at hc
    rcases List.mem_cons.mp (List.mem_of_getLast? hc) with rfl | hc
    · decide
    · exact hbody c hc
  have hend : dropEndWhile isLineBreak ((u.toMessage source target text).render.toList ++ []) =
      (u.toMessage source target text).render.toList := dropEndWhile_of_getLast? hlast nofun
  rw [List.append_nil] at hend
  rw [← render_toMessage]
  exact parse?_trimmed (u.wellFormed_toMessage htarget hsource) u.beginsWell_toMessage
    (Message.spaced_render _) hend

/-! ## What is heard -/

/-- An utterance is heard: it is kept and announced once, as it was said, and not answered. -/
structure Heard (net : Network) (speaker text : String) (heard : Network × Outcome) : Prop where
  network : heard.1 = net
  writes : ∃ buffer, heard.2.writes = [net.line u.kind text (some buffer) (some speaker)]
  events : ∃ e, heard.2.events = [e] ∧ e.type = "message.received" ∧
    e.getText? "message" = some text ∧ e.getText? "user" = some speaker ∧
    e.getText? "kind" = some u.kind.name
  lines : heard.2.lines = [] ∧ heard.2.registered = false

theorem heard_receive (net : Network) (speaker target text : String) :
    u.Heard net speaker text (net, Handling.receive net u.kind speaker target text) where
  network := rfl
  writes := ⟨Handling.bufferFor net speaker target, rfl⟩
  events := by
    refine ⟨_, rfl, rfl, ?_, ?_, ?_⟩ <;>
    simp [Event.getText?, Event.setText, Event.get?_set, Datum.text?]
  lines := ⟨rfl, rfl⟩

/-- Unless it is an echo, an utterance goes to a buffer under the kind that it was said in. -/
theorem process_toMessage (p : Persona) {net : Network} {nick user host : String}
    (hquery : u ≠ .action → Ctcp.parse? text = none)
    (hecho : Handling.isEcho net nick target = false) :
    process p net (u.toMessage ⟨nick, some user, some host⟩ target text) =
      (net, Handling.receive net u.kind nick target text) := by
  cases u with
  | message =>
    rw [process_of_ofCommand? (v := .privmsg) rfl, Verb.handler]
    simp [Handling.privmsg, toMessage, body, Message.arg, Message.sourceNick, hquery nofun, hecho,
      Outcome.only, kind]
  | action =>
    have hparse : Ctcp.parse? (Ctcp.encode "ACTION" text) = some ⟨"ACTION", text⟩ :=
      Ctcp.parse?_encode (by decide) (by decide) text
    rw [process_of_ofCommand? (v := .privmsg) rfl, Verb.handler]
    simp [Handling.privmsg, toMessage, body, Message.arg, Message.sourceNick, hparse, hecho,
      Outcome.only, kind]
  | notice =>
    rw [process_of_ofCommand? (v := .notice) rfl, Verb.handler]
    simp [Handling.notice, toMessage, body, Message.arg, Message.sourceNick,
      Message.isFromServer, Handling.shownNotice, hquery nofun, hecho, Outcome.only, kind]

end Session.Utterance

namespace Session

/-! ## From one end to the other -/

theorem say_ok_iff (s : Session) (u : Utterance) {target text : String}
    (htext : hasLineBreak text = false) :
    (s.say u target text).2.2 = .ok () ↔ s.link.alive = true ∧ hasLineBreak target = false := by
  have hline : hasLineBreak (u.request target text).line = hasLineBreak target :=
    u.hasLineBreak_request htext
  unfold say send Link.send Link.sendLine Link.refusal?
  rw [htext, if_neg Bool.false_ne_true, hline]
  cases hasLineBreak target <;> cases s.link.alive <;> simp

theorem queue_say {s : Session} {u : Utterance} {target text : String}
    (htext : hasLineBreak text = false) (h : (s.say u target text).2.2 = .ok ()) :
    (s.say u target text).1.link.queue =
      s.link.queue ++ [.send (u.request target text).line] := by
  obtain ⟨halive, htarget⟩ := (s.say_ok_iff u htext).mp h
  have hline : hasLineBreak (u.request target text).line = false :=
    (u.hasLineBreak_request htext).trans htarget
  simp [say, send, Link.send, Link.sendLine, Link.refusal?, htext, hline, halive]

/--
**What is said is heard.** Whatever a session says in one line goes out as one line, as long as
the link is there and the target is one line too. Where the server hands it on, it is heard by
everybody whose echo it is not: as it was said, once, and without an answer. Only a message or a
notice that looks like a query is taken for one.
-/
theorem said_is_heard (s : Session) (u : Utterance) {target text nick user host : String}
    (htarget : IsMiddle target.toList) (htext : hasLineBreak text = false)
    (hsource : Source.WellFormed ⟨nick, some user, some host⟩)
    (hquery : u ≠ .action → Ctcp.parse? text = none) (p : Persona) {net : Network}
    (hecho : ¬(net.isMe nick = true ∧ net.isMe target = true)) :
    ((s.say u target text).2.2 = .ok () ↔ s.link.alive = true ∧ hasLineBreak target = false) ∧
    ((s.say u target text).2.2 = .ok () → ∃ line msg,
      (s.say u target text).1.link.queue = s.link.queue ++ [.send line] ∧
      Message.parse? (":" ++ nick ++ "!" ++ user ++ "@" ++ host ++ " " ++ line) = some msg ∧
      u.Heard net nick text (process p net msg)) := by
  refine ⟨s.say_ok_iff u htext, fun hok => ?_⟩
  have hparse := u.parse?_request htarget htext hsource
  have hrender : Source.render ⟨nick, some user, some host⟩ =
      nick ++ "!" ++ user ++ "@" ++ host := by
    simp [Source.render, String.append_assoc]
  have hecho : Handling.isEcho net nick target = false := by
    rw [Handling.isEcho, ← Bool.not_eq_true, Bool.and_eq_true]
    exact hecho
  refine ⟨_, u.toMessage ⟨nick, some user, some host⟩ target text, queue_say htext hok, ?_, ?_⟩
  · simpa [hrender, String.append_assoc] using hparse
  · rw [u.process_toMessage p hquery hecho]
    exact u.heard_receive net nick target text

/-- An action whose text begins with blanks and a colon, and ends like a query. -/
theorem said_is_heard_action :
    let s := start ⟨1, "Libera", [], "ada", "ada", "Ada", none, {}, false⟩
      ⟨"irc.libera.chat", 6697, true, 0⟩ [] "nonce"
    let p : Persona := ⟨"1.0", "noon"⟩
    let net := Network.new 1 "Libera" "kestrel"
    let text := " :waves\x01"
    IsMiddle "#lean".toList ∧ hasLineBreak text = false ∧
    Source.WellFormed ⟨"ada", some "~ada", some "host"⟩ ∧
    (Utterance.action ≠ .action → Ctcp.parse? text = none) ∧
    ¬(net.isMe "ada" = true ∧ net.isMe "#lean" = true) ∧
    ∃ line msg,
      (s.say .action "#lean" text).1.link.queue = s.link.queue ++ [.send line] ∧
      Message.parse? (":" ++ "ada" ++ "!" ++ "~ada" ++ "@" ++ "host" ++ " " ++ line) = some msg ∧
      Utterance.action.Heard net "ada" text (process p net msg) := by
  intro s p net text
  have htarget : IsMiddle "#lean".toList := ⟨by decide, by decide, by decide⟩
  have htext : hasLineBreak text = false := by decide
  have hsource : Source.WellFormed ⟨"ada", some "~ada", some "host"⟩ := by
    refine ⟨by decide, ?_, by decide⟩
    rintro user ⟨⟩
    decide
  have hquery : Utterance.action ≠ .action → Ctcp.parse? text = none := fun h => absurd rfl h
  have hecho : ¬(net.isMe "ada" = true ∧ net.isMe "#lean" = true) := by decide +kernel
  obtain ⟨hiff, hheard⟩ := said_is_heard s .action htarget htext hsource hquery p hecho
  exact ⟨htarget, htext, hsource, hquery, hecho, hheard (hiff.mpr ⟨rfl, by decide⟩)⟩

end Session

end IrcClient
