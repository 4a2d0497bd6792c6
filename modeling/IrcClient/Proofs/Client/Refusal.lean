import IrcClient.Proofs.Client.Moves
import IrcClient.Proofs.Handling.Hearing
import IrcClient.Proofs.Wire.Sending

/-!
# Utterances that are refused

What is said is kept before it is sent, so that it is in history when the server echoes it. An
utterance that is refused for its line has no business there, so its text is looked at before
anything else. Its target is not: the line as a whole is looked at when it is queued, and by
then it has been kept.

So there are two refusals, and they look alike to the caller. The one for the text
(`say_of_break`) leaves the client as it was. The one for the target
(`say_of_break_target`) leaves a line of history that nobody was sent, and nothing else.
-/

namespace IrcClient

namespace Session

variable (s : Session) (u : Utterance) {target text : String}

/-- The line of history that keeps what is said. -/
def record (target text : String) : Write :=
  s.network.line u.kind text (some target) (some s.network.nickname)

theorem say_of_break (target : String) (h : hasLineBreak text = true) :
    s.say u target text = (s, .none, .error .invalidLine) := by
  rw [say, if_pos h]

theorem say_of_break_target (htext : hasLineBreak text = false)
    (htarget : hasLineBreak target = true) :
    s.say u target text = (s, ⟨[s.record u target text], []⟩, .error .invalidLine) := by
  have hline : hasLineBreak (u.request target text).line = true :=
    (u.hasLineBreak_request htext).trans htarget
  rw [say, htext, if_neg Bool.false_ne_true, send, Link.send_of_break hline]
  rfl

/-- An utterance is refused for its line exactly where its text or its target is not one line. -/
theorem say_invalid_iff (target text : String) :
    (s.say u target text).2.2 = .error .invalidLine ↔
      hasLineBreak text = true ∨ hasLineBreak target = true := by
  cases htext : hasLineBreak text with
  | true => simp [s.say_of_break u target htext]
  | false =>
    cases htarget : hasLineBreak target with
    | true => simp [s.say_of_break_target u htext htarget]
    | false =>
      have hline : hasLineBreak (u.request target text).line = false :=
        (u.hasLineBreak_request htext).trans htarget
      rw [say, htext, if_neg Bool.false_ne_true, send]
      cases hl : s.link.alive with
      | true => simp [Link.send_of_alive hline hl]
      | false => simp [Link.send_of_dead hline hl]

end Session

namespace Client

variable {c : Client} {sid : SessionId} {s : Session}

theorem withSession_some {α : Type} (h : c.session? sid = some s)
    (f : Session → Session × Effects × α) : c.withSession sid f =
      ((c.setSession sid (f s).1).carryOut (f s).1.identity.id (f s).2.1, some (f s).2.2) := by
  rw [withSession, h]

theorem setSession_self (h : c.session? sid = some s) : c.setSession sid s = c := by
  obtain ⟨hlt, hget⟩ := List.getElem?_eq_some_iff.mp h
  rw [setSession, ← hget, List.set_getElem_self]

/--
**What a refusal leaves behind.** An utterance is refused for its line exactly where its text or
its target is not one line. Where the target is one, the client is as it was: nothing was kept,
queued or published. Where it is not, nothing was queued or published either, and the one thing
that may have been kept is the line of history, which is kept exactly if the text is one line.
-/
theorem refusal_trace (h : c.session? sid = some s) (u : Session.Utterance)
    (target text : String) :
    let said := c.withSession sid fun s => s.say u target text
    (said.2 = some (.error .invalidLine) ↔
      hasLineBreak text = true ∨ hasLineBreak target = true) ∧
    (said.2 = some (.error .invalidLine) → hasLineBreak target = false → said.1 = c) ∧
    (hasLineBreak target = true → said.1 = if hasLineBreak text then c
      else { c with store := c.store.attempt s.identity.id (s.record u target text) }) := by
  intro said
  have hsaid : said = ((c.setSession sid (s.say u target text).1).carryOut
      (s.say u target text).1.identity.id (s.say u target text).2.1,
      some (s.say u target text).2.2) := withSession_some h _
  have hiff : said.2 = some (.error .invalidLine) ↔
      hasLineBreak text = true ∨ hasLineBreak target = true := by
    rw [hsaid, Option.some.injEq]
    exact s.say_invalid_iff u target text
  -- a text that is no line is refused before anything is done
  have hbreak (htext : hasLineBreak text = true) : said.1 = c := by
    rw [hsaid, s.say_of_break u target htext, setSession_self h, carryOut_none]
  refine ⟨hiff, fun hrefused htarget => ?_, fun htarget => ?_⟩
  · rcases hiff.mp hrefused with htext | hbroken
    · exact hbreak htext
    · rw [htarget] at hbroken
      cases hbroken
  · cases htext : hasLineBreak text with
    | true => exact hbreak htext
    | false =>
      rw [hsaid, s.say_of_break_target u htext htarget, setSession_self h,
        if_neg Bool.false_ne_true, carryOut, List.append_nil]
      rfl

/-- A client with a session that has just begun. -/
def withNewSession : Client :=
  { new {} "noon" "nonce" .empty with
    sessions := [.start ⟨1, "Libera", [], "ada", "ada", "Ada", none, {}, false⟩
      ⟨"irc.libera.chat", 6697, true, 0⟩ [] "nonce"] }

/-- A second command in the text does not get past the first look. -/
theorem refusal_trace_text :
    let c := withNewSession
    let said := c.withSession 0 fun s => s.say .notice "#lean" "hi\r\nQUIT"
    (∃ s, c.session? 0 = some s) ∧ said.2 = some (.error .invalidLine) ∧
    hasLineBreak "#lean" = false ∧ said.1 = c := by
  intro c said
  obtain ⟨s, h⟩ : ∃ s, c.session? 0 = some s := ⟨_, rfl⟩
  obtain ⟨hiff, hclean, -⟩ := refusal_trace h .notice "#lean" "hi\r\nQUIT"
  have hrefused : said.2 = some (.error .invalidLine) := hiff.mpr (.inl (by decide))
  have htarget : hasLineBreak "#lean" = false := by decide
  exact ⟨⟨s, h⟩, hrefused, htarget, hclean hrefused htarget⟩

/-- A line break in the target is found out when the line of history has been written. -/
theorem refused_after_recording :
    let c := withNewSession
    let said := c.withSession 0 fun s => s.say .message "#a\nb" "hi"
    said.2 = some (.error .invalidLine) ∧ c.store.history = [] ∧
    said.1.store.history = [⟨1, some "#a\nb", some "ada", "hi", .message⟩] :=
  ⟨rfl, rfl, rfl⟩

end Client

end IrcClient
