import IrcClient.Proofs.Handling.Change
import IrcClient.Proofs.Negotiation.Reaction
import IrcClient.Proofs.Negotiation.Response
import IrcClient.Proofs.Outcome

/-!
# What the client sends in answer to a line

Whatever a line says, the handlers answer it with lines that begin in one of a few ways
(`replyWords`), and so does the negotiation. None of them enters a channel. That the client is
to enter its channels is not said by a line, but by the mark in an outcome that the registration
is complete, and no handler but the welcome's sets it (`answers_process`).
-/

namespace IrcClient

/-! ## Lines -/

/-- How the lines begin that are sent in answer to others. -/
def replyWords : List String :=
  ["NICK ", "PONG", "NAMES ", "NOTICE ", "CAP ", "AUTHENTICATE "]

/-- Whether a line begins like those that are sent in answer to others. -/
def IsReply (line : String) : Prop :=
  ∃ word ∈ replyWords, word.toList <+: line.toList

/-- Whether a line asks to enter a channel. -/
def IsJoin (line : String) : Prop :=
  "JOIN ".toList <+: line.toList

theorem isPrefix_append (word rest : String) : word.toList <+: (word ++ rest).toList := by
  rw [String.toList_append]
  exact List.prefix_append _ _

theorem isReply_append (word : String) (h : word ∈ replyWords) (rest : String) :
    IsReply (word ++ rest) :=
  ⟨word, h, isPrefix_append word rest⟩

/-- A line that begins with another word does not ask to enter a channel. -/
theorem not_isJoin_of_word {word line : String} (h : word.toList <+: line.toList)
    (hword : ¬("JOIN ".toList <+: word.toList ∨ word.toList <+: "JOIN ".toList)) :
    ¬IsJoin line :=
  fun hj => hword (List.prefix_or_prefix_of_prefix hj h)

/-- No answer enters a channel. -/
theorem IsReply.not_isJoin {line : String} (h : IsReply line) : ¬IsJoin line := by
  obtain ⟨word, hword, hprefix⟩ := h
  have hno : ∀ word ∈ replyWords,
      ¬("JOIN ".toList <+: word.toList ∨ word.toList <+: "JOIN ".toList) := by decide
  exact not_isJoin_of_word hprefix (hno word hword)

/-! ## Outcomes -/

/-- Whether an outcome sends nothing but answers, and does not complete the registration. -/
structure Outcome.Answers (o : Outcome) : Prop where
  lines : ∀ l ∈ o.lines, IsReply l
  registered : o.registered = false

namespace Outcome.Answers

theorem of_silent {o : Outcome} (hl : o.lines = []) (hr : o.registered = false) : o.Answers := by
  refine ⟨?_, hr⟩
  intro l hm
  rw [hl] at hm
  cases hm

theorem append {a b : Outcome} (ha : a.Answers) (hb : b.Answers) : (a ++ b).Answers where
  lines := by
    intro l hm
    rw [Outcome.lines_append, List.mem_append] at hm
    rcases hm with hm | hm
    · exact ha.lines l hm
    · exact hb.lines l hm
  registered := by rw [Outcome.registered_append, ha.registered, hb.registered, Bool.or_false]

theorem send {line : String} (h : IsReply line) : (Outcome.send line).Answers := by
  refine ⟨?_, rfl⟩
  intro l hm
  rw [List.mem_singleton.mp hm]
  exact h

theorem emit (e : Event) : (Outcome.emit e).Answers :=
  .of_silent rfl rfl

theorem only (p : Bool) {o : Outcome} (h : o.Answers) : (Outcome.only p o).Answers := by
  cases p with
  | true => exact h
  | false => exact .of_silent rfl rfl

end Outcome.Answers

/-! ## Handlers -/

namespace Handling

open Outcome (Answers)

variable (net : Network) (msg : Message)

theorem answers_nickRejected : (nickRejected net msg).2.Answers := by
  unfold nickRejected
  dsimp only
  split
  · exact .of_silent rfl rfl
  · exact .send (isReply_append _ (by decide) _)

theorem answers_ping : (ping net msg).2.Answers := by
  refine .send ?_
  cases msg.lastArg with
  | none => exact ⟨"PONG", by decide, List.prefix_refl _⟩
  | some token =>
      refine ⟨"PONG", by decide, List.IsPrefix.trans ?_ (isPrefix_append "PONG :" token)⟩
      decide

theorem answers_join : (join net msg).2.Answers := by
  unfold join
  split
  · rename_i nick target _ _
    have hnames : ∀ name, (Outcome.send ("NAMES " ++ name)).Answers := fun name =>
      .send (isReply_append _ (by decide) name)
    unfold enter
    dsimp only
    refine .append (.append (.append (.append (.append ?_ ?_) ?_) ?_) ?_) ?_
    · exact .only _ (.of_silent rfl rfl)
    · exact .only _ (.append (.of_silent rfl rfl) (hnames _))
    · exact .of_silent rfl rfl
    · exact .of_silent rfl rfl
    · exact .emit _
    · exact .only _ (.emit _)
  · exact .of_silent rfl rfl

theorem answers_leave (nick target : String) (tell : String → Write)
    (announce : String → Event) : (leave net nick target tell announce).2.Answers := by
  unfold leave
  split
  · exact .of_silent rfl rfl
  · exact .append (.of_silent rfl rfl) (.only _ (.emit _))

theorem answers_part : (part net msg).2.Answers := by
  unfold part
  split
  · exact answers_leave net _ _ _ _
  · exact .of_silent rfl rfl

theorem answers_kick : (kick net msg).2.Answers := by
  unfold kick
  split
  · exact answers_leave net _ _ _ _
  · exact .of_silent rfl rfl

theorem answers_quit : (quit net msg).2.Answers := by
  unfold quit quitVisiting
  split
  · exact .of_silent rfl rfl
  · exact .append (.of_silent rfl rfl) (.only _ (.emit _))

theorem answers_nick : (nick net msg).2.Answers := by
  unfold nick nickVisiting
  split <;> exact .of_silent rfl rfl

theorem answers_updateTopic (target topic : String) (setter : Option String) :
    (updateTopic net target topic setter).2.Answers :=
  .append (.append (.append (.only _ (.of_silent rfl rfl)) (.of_silent rfl rfl))
    (.of_silent rfl rfl)) (.emit _)

theorem answers_topic : (topic net msg).2.Answers := by
  unfold topic
  split
  · exact .of_silent rfl rfl
  · exact answers_updateTopic net _ _ _

theorem answers_topicReply : (topicReply net msg).2.Answers := by
  unfold topicReply
  split
  · exact answers_updateTopic net _ _ _
  · exact .of_silent rfl rfl

theorem answers_noTopic : (noTopic net msg).2.Answers := by
  unfold noTopic
  split
  · exact .of_silent rfl rfl
  · exact answers_updateTopic net _ _ _

theorem answers_mode : (mode net msg).2.Answers := by
  unfold mode
  split
  · split
    · exact .of_silent rfl rfl
    · refine .append (.append (.append (.append ?_ ?_) ?_) ?_) (.emit _)
      · exact .only _ (.of_silent rfl rfl)
      · exact .of_silent rfl rfl
      · exact .only _ (.of_silent rfl rfl)
      · exact .of_silent rfl rfl
  · exact .of_silent rfl rfl

theorem answers_channelModeIs : (channelModeIs net msg).2.Answers := by
  unfold channelModeIs
  split
  · exact .append (.append (.only _ (.of_silent rfl rfl)) (.of_silent rfl rfl)) (.emit _)
  · exact .of_silent rfl rfl

theorem answers_namesReply : (namesReply net msg).2.Answers := by
  unfold namesReply
  split
  · exact .only _ (.of_silent rfl rfl)
  · exact .of_silent rfl rfl

theorem answers_endOfNames : (endOfNames net msg).2.Answers := by
  unfold endOfNames
  split
  · exact .of_silent rfl rfl
  · split <;> exact .of_silent rfl rfl

theorem answers_collect (f : Message → Whois → Whois) : (collect f net msg).2.Answers := by
  unfold collect
  split <;> exact .of_silent rfl rfl

theorem answers_away : (away net msg).2.Answers := by
  unfold away
  split
  · exact .of_silent rfl rfl
  · split <;> exact .of_silent rfl rfl

theorem answers_endOfWhois : (endOfWhois net msg).2.Answers := by
  unfold endOfWhois
  split
  · exact .of_silent rfl rfl
  · split <;> exact .of_silent rfl rfl

theorem answers_answerQuery (p : Persona) (sender : String) (query : Ctcp) :
    (answerQuery p sender query).Answers := by
  unfold answerQuery
  split
  · rename_i reply _
    refine .only _ (.send ?_)
    rw [String.append_assoc, String.append_assoc]
    exact isReply_append _ (by decide) _
  · exact .of_silent rfl rfl

theorem answers_privmsg (p : Persona) : (privmsg p net msg).2.Answers := by
  unfold privmsg
  split
  · dsimp only
    split
    · split
      · exact .only _ (.of_silent rfl rfl)
      · exact answers_answerQuery p _ _
    · exact .only _ (.of_silent rfl rfl)
  · exact .of_silent rfl rfl

theorem answers_notice : (notice net msg).2.Answers := by
  unfold notice
  split
  · dsimp only
    split
    · exact .of_silent rfl rfl
    · exact .only _ (.of_silent rfl rfl)
  · exact .of_silent rfl rfl

end Handling

open Handling in
theorem answers_handler (p : Persona) {v : Verb} (hv : v ≠ .welcome) (net : Network)
    (msg : Message) : (v.handler p net msg).2.Answers := by
  cases v with
  | welcome => exact absurd rfl hv
  | error | announcement | failure => exact .of_silent rfl rfl
  | nickRejected => exact answers_nickRejected net msg
  | ping => exact answers_ping net msg
  | namesReply => exact answers_namesReply net msg
  | endOfNames => exact answers_endOfNames net msg
  | join => exact answers_join net msg
  | part => exact answers_part net msg
  | kick => exact answers_kick net msg
  | quit => exact answers_quit net msg
  | nick => exact answers_nick net msg
  | topic => exact answers_topic net msg
  | topicReply => exact answers_topicReply net msg
  | noTopic => exact answers_noTopic net msg
  | mode => exact answers_mode net msg
  | channelModeIs => exact answers_channelModeIs net msg
  | whoisUser | whoisServer | whoisOperator | whoisIdle | whoisChannels | whoisAccount
  | whoisSecure => exact answers_collect net msg _
  | away => exact answers_away net msg
  | endOfWhois => exact answers_endOfWhois net msg
  | privmsg => exact answers_privmsg net msg p
  | notice => exact answers_notice net msg

/-- A line that is no welcome is answered, and the registration stays what it is. -/
theorem answers_process (p : Persona) (net : Network) {msg : Message} (h : msg.command ≠ "001") :
    (process p net msg).2.Answers := by
  unfold process
  split
  · exact .of_silent rfl rfl
  · rename_i v hv
    refine answers_handler p ?_ net msg
    rintro rfl
    exact h (List.mem_singleton.mp (Verb.mem_commands hv))

/-! ## The negotiation -/

namespace Negotiator

variable {m : Type}

theorem answers_finish (n : Negotiator m) (r : CapState) : (n.finish r).2.Answers :=
  .only _ (.send (isReply_append "CAP " (by decide) "END"))

variable [SaslMechanism m]

theorem answers_reaction {n n' : Negotiator m} {o : Outcome} (h : Reaction n n' o) :
    o.Answers := by
  cases h with
  | noted => exact .of_silent rfl rfl
  | asked => exact .send (isReply_append "CAP " (by decide) "REQ :sasl")
  | began e => exact .append (.send (isReply_append _ (by decide) _)) (.emit e)
  | refused r => exact answers_finish n r
  | judged v e => exact .append (.emit e) (answers_finish n _)
  | gaveUp e =>
      refine .append (.append (.send ?_) (.emit e)) (answers_finish n _)
      exact isReply_append "AUTHENTICATE " (by decide) "*"

theorem answers_answer (n : Negotiator m) (net : Network) (r : Except SaslError Bytes) :
    (n.answer net r).2.Answers := by
  cases r with
  | ok payload =>
      refine ⟨?_, rfl⟩
      intro l hl
      obtain ⟨chunk, -, rfl⟩ := eq_of_mem_authenticateLines hl
      exact isReply_append _ (by decide) _
  | error error =>
      obtain ⟨e, -, heq⟩ := answer_error n net error
      rw [heq]
      refine .append (.append (.send ?_) (.emit e)) (answers_finish n _)
      exact isReply_append "AUTHENTICATE " (by decide) "*"

theorem answers_runStep (n : Negotiator m) (net : Network) : (n.runStep net).2.Answers := by
  rcases runStep_cases n net with ⟨-, h⟩ | ⟨_, -, h⟩ | ⟨_, _, -, -, h⟩
  · rw [h]
    exact .of_silent rfl rfl
  · rw [h]
    exact .of_silent rfl rfl
  · rw [h]
    exact answers_answer _ net _

end Negotiator

end IrcClient
