import IrcClient.Handling.Registration

/-!
# Topics

A topic is changed by someone, or the server says what it is. A topic of no
characters is none.
-/

namespace IrcClient.Handling

/-- A channel has a topic now. Only a change has a setter, and only a change is history. -/
def updateTopic (net : Network) (target topic : String) (setter : Option String) :
    Network × Outcome :=
  let before := net.channelOrNew target
  let name := before.name
  (net.setChannel target { before with topic := if topic.isEmpty then none else some topic },
    .only (!net.hasChannel target) (.write (.upsertChannel name)) ++
    .write (.topic name topic) ++
    .writing (setter.toList.map fun who =>
      net.line .topic (who ++ " changed the topic to: " ++ topic) (some name) (some who)) ++
    .emit ((((net.event "channel.topic").setText "channel" name).setText "topic" topic).setText?
      "user" setter))

/-- A new topic: `:setter TOPIC <channel> :<topic>`. -/
def topic : Handler := fun net msg =>
  match msg.arg 0 with
  | none => (net, .empty)
  | some target => updateTopic net target ((msg.arg 1).getD "") (some (msg.sourceNick.getD ""))

/-- The topic: `332 <me> <channel> :<topic>`. -/
def topicReply : Handler := fun net msg =>
  match msg.arg 1, msg.arg 2 with
  | some target, some topic => updateTopic net target topic none
  | _, _ => (net, .empty)

/-- No topic: `331 <me> <channel> :<text>`. -/
def noTopic : Handler := fun net msg =>
  match msg.arg 1 with
  | none => (net, .empty)
  | some target => updateTopic net target "" none

end IrcClient.Handling
