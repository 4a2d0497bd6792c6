import IrcClient.Handling
import IrcClient.Proofs.Outcome

/-!
# The types of events

A line makes the client tell of something, and the verb of the line says of what: each verb has
few types of events (`Verb.eventTypes`), and all that it tells is of one of these
(`eventsIn_handler`). What a line cannot be the reason of is read off the table.
-/

namespace IrcClient

/-- The types of the events that a verb tells of. -/
def Verb.eventTypes : Verb → List String
  | join => ["user.joined", "channels.changed"]
  | part => ["user.parted", "channels.changed"]
  | kick => ["user.kicked", "channels.changed"]
  | quit => ["user.quit", "channels.changed"]
  | nick => ["user.nick"]
  | topic | topicReply | noTopic => ["channel.topic"]
  | mode | channelModeIs => ["channel.mode"]
  | endOfNames => ["channel.names.complete"]
  | endOfWhois => ["whois.received"]
  | privmsg | notice => ["message.received"]
  | nickRejected | failure => ["error"]
  | welcome | ping | error | announcement | namesReply
  | whoisUser | whoisServer | whoisOperator | whoisIdle | whoisChannels | whoisAccount
  | whoisSecure | away => []

@[simp] theorem Network.type_event (net : Network) (type : String) :
    (net.event type).type = type := rfl

namespace Event

@[simp] theorem type_set (e : Event) (key : String) (value : Datum) :
    (e.set key value).type = e.type := rfl

@[simp] theorem type_setText (e : Event) (key value : String) :
    (e.setText key value).type = e.type := rfl

@[simp] theorem type_setText? (e : Event) (key : String) (value : Option String) :
    (e.setText? key value).type = e.type := by
  cases value <;> rfl

end Event

/-- Whether all events of an outcome are of some types. -/
def Outcome.EventsIn (types : List String) (o : Outcome) : Prop :=
  ∀ e ∈ o.events, e.type ∈ types

namespace Outcome.EventsIn

variable {types : List String}

theorem of_nil {o : Outcome} (h : o.events = []) : o.EventsIn types := by
  intro e he
  rw [h] at he
  cases he

theorem append {a b : Outcome} (ha : a.EventsIn types) (hb : b.EventsIn types) :
    (a ++ b).EventsIn types := by
  intro e he
  rw [Outcome.events_append, List.mem_append] at he
  rcases he with he | he
  · exact ha e he
  · exact hb e he

theorem emit {e : Event} (h : e.type ∈ types) : (Outcome.emit e).EventsIn types := by
  intro e' he
  rw [Outcome.events_emit, List.mem_singleton] at he
  rw [he]
  exact h

theorem only {o : Outcome} (p : Bool) (h : o.EventsIn types) :
    (Outcome.only p o).EventsIn types := by
  cases p with
  | true => exact h
  | false => exact of_nil rfl

end Outcome.EventsIn

namespace Handling

open Outcome (EventsIn)

variable (net : Network) (msg : Message)

/-! ## Registration and failures -/

theorem eventsIn_nickRejected : (nickRejected net msg).2.EventsIn Verb.nickRejected.eventTypes := by
  unfold nickRejected
  dsimp only
  split
  · exact .append (.of_nil rfl) (.emit (by simp [Verb.eventTypes]))
  · exact .of_nil rfl

theorem eventsIn_failure : (failure net msg).2.EventsIn Verb.failure.eventTypes :=
  .append (.of_nil rfl) (.emit (by simp [Verb.eventTypes]))

/-! ## Who comes and who goes -/

theorem eventsIn_channelsChanged {types : List String} (h : "channels.changed" ∈ types) (p : Bool) :
    (channelsChanged net p).EventsIn types :=
  .only p (.emit h)

theorem eventsIn_join : (join net msg).2.EventsIn Verb.join.eventTypes := by
  unfold join
  split
  · refine .append (.append ?_ (.emit (by simp [Verb.eventTypes])))
      (eventsIn_channelsChanged net (by decide) _)
    exact .of_nil (by simp)
  · exact .of_nil rfl

theorem eventsIn_leave {types : List String} (hchanged : "channels.changed" ∈ types)
    (nick target : String) (tell : String → Write) {announce : String → Event}
    (h : ∀ name, (announce name).type ∈ types) :
    (leave net nick target tell announce).2.EventsIn types := by
  unfold leave
  split
  · exact .of_nil rfl
  · exact .append (.append (.of_nil rfl) (.emit (h _))) (eventsIn_channelsChanged net hchanged _)

theorem eventsIn_part : (part net msg).2.EventsIn Verb.part.eventTypes := by
  unfold part
  split
  · exact eventsIn_leave net (by decide) _ _ _ fun name => by simp [Verb.eventTypes]
  · exact .of_nil rfl

theorem eventsIn_kick : (kick net msg).2.EventsIn Verb.kick.eventTypes := by
  unfold kick
  split
  · exact eventsIn_leave net (by decide) _ _ _ fun name => by simp [Verb.eventTypes]
  · exact .of_nil rfl

theorem eventsIn_quit : (quit net msg).2.EventsIn Verb.quit.eventTypes := by
  unfold quit quitVisiting
  split
  · exact .of_nil rfl
  · refine .append (.append ?_ (.emit (by simp [Verb.eventTypes])))
      (eventsIn_channelsChanged net (by decide) _)
    exact .of_nil rfl

theorem eventsIn_nick : (nick net msg).2.EventsIn Verb.nick.eventTypes := by
  unfold nick nickVisiting
  split
  · exact .append (.of_nil rfl) (.emit (by simp [Verb.eventTypes]))
  · exact .of_nil rfl

/-! ## Topics and modes -/

theorem eventsIn_updateTopic (target topic : String) (setter : Option String) :
    (updateTopic net target topic setter).2.EventsIn Verb.topic.eventTypes := by
  refine .append ?_ (.emit (by simp [Verb.eventTypes]))
  exact .of_nil (by simp)

theorem eventsIn_topic : (topic net msg).2.EventsIn Verb.topic.eventTypes := by
  unfold topic
  split
  · exact .of_nil rfl
  · exact eventsIn_updateTopic net _ _ _

theorem eventsIn_topicReply : (topicReply net msg).2.EventsIn Verb.topicReply.eventTypes := by
  unfold topicReply
  split
  · exact eventsIn_updateTopic net _ _ _
  · exact .of_nil rfl

theorem eventsIn_noTopic : (noTopic net msg).2.EventsIn Verb.noTopic.eventTypes := by
  unfold noTopic
  split
  · exact .of_nil rfl
  · exact eventsIn_updateTopic net _ _ _

theorem eventsIn_mode : (mode net msg).2.EventsIn Verb.mode.eventTypes := by
  unfold mode
  split
  · split
    · exact .of_nil rfl
    · refine .append ?_ (.emit (by simp [Verb.eventTypes]))
      exact .of_nil (by simp)
  · exact .of_nil rfl

theorem eventsIn_channelModeIs :
    (channelModeIs net msg).2.EventsIn Verb.channelModeIs.eventTypes := by
  unfold channelModeIs
  split
  · refine .append ?_ (.emit (by simp [Verb.eventTypes]))
    exact .of_nil (by simp)
  · exact .of_nil rfl

/-! ## Members and users -/

theorem eventsIn_namesReply : (namesReply net msg).2.EventsIn Verb.namesReply.eventTypes := by
  unfold namesReply
  split
  · exact .of_nil (by simp)
  · exact .of_nil rfl

theorem eventsIn_endOfNames : (endOfNames net msg).2.EventsIn Verb.endOfNames.eventTypes := by
  unfold endOfNames
  split
  · exact .of_nil rfl
  · split
    · exact .of_nil rfl
    · exact .append (.of_nil rfl) (.emit (by simp [Verb.eventTypes]))

theorem eventsIn_collect (f : Message → Whois → Whois) (types : List String) :
    (collect f net msg).2.EventsIn types := by
  unfold collect
  split <;> exact .of_nil rfl

theorem eventsIn_away : (away net msg).2.EventsIn Verb.away.eventTypes := by
  unfold away
  split
  · exact .of_nil rfl
  · split <;> exact .of_nil rfl

theorem eventsIn_endOfWhois : (endOfWhois net msg).2.EventsIn Verb.endOfWhois.eventTypes := by
  unfold endOfWhois
  split
  · exact .of_nil rfl
  · split
    · exact .of_nil rfl
    · exact .emit (by simp [Verb.eventTypes])

/-! ## What people say -/

theorem eventsIn_receive (kind : LineKind) (sender target text : String) :
    (receive net kind sender target text).EventsIn Verb.privmsg.eventTypes :=
  .append (.of_nil rfl) (.emit (by simp [Verb.eventTypes]))

theorem eventsIn_privmsg (p : Persona) :
    (privmsg p net msg).2.EventsIn Verb.privmsg.eventTypes := by
  unfold privmsg
  split
  · dsimp only
    split
    · split
      · exact .only _ (eventsIn_receive net _ _ _ _)
      · unfold answerQuery
        split
        · exact .of_nil (by simp)
        · exact .of_nil rfl
    · exact .only _ (eventsIn_receive net _ _ _ _)
  · exact .of_nil rfl

theorem eventsIn_notice : (notice net msg).2.EventsIn Verb.notice.eventTypes := by
  unfold notice
  split
  · dsimp only
    split
    · exact .append (.of_nil rfl) (.emit (by simp [Verb.eventTypes]))
    · exact .only _ (eventsIn_receive net _ _ _ _)
  · exact .of_nil rfl

end Handling

open Handling in
/-- **What a verb tells of, is of its types.** -/
theorem eventsIn_handler (p : Persona) (v : Verb) (net : Network) (msg : Message) :
    (v.handler p net msg).2.EventsIn v.eventTypes := by
  cases v with
  | welcome | ping | error | announcement => exact .of_nil rfl
  | nickRejected => exact eventsIn_nickRejected net msg
  | namesReply => exact eventsIn_namesReply net msg
  | endOfNames => exact eventsIn_endOfNames net msg
  | join => exact eventsIn_join net msg
  | part => exact eventsIn_part net msg
  | kick => exact eventsIn_kick net msg
  | quit => exact eventsIn_quit net msg
  | nick => exact eventsIn_nick net msg
  | topic => exact eventsIn_topic net msg
  | topicReply => exact eventsIn_topicReply net msg
  | noTopic => exact eventsIn_noTopic net msg
  | mode => exact eventsIn_mode net msg
  | channelModeIs => exact eventsIn_channelModeIs net msg
  | whoisUser | whoisServer | whoisOperator | whoisIdle | whoisChannels | whoisAccount
  | whoisSecure =>
    rw [Verb.handler]
    exact eventsIn_collect net msg _ _
  | away => exact eventsIn_away net msg
  | endOfWhois => exact eventsIn_endOfWhois net msg
  | privmsg => exact eventsIn_privmsg net msg p
  | notice => exact eventsIn_notice net msg
  | failure => exact eventsIn_failure net msg

end IrcClient
