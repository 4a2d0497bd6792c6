import IrcClient.Handling.Registration

/-!
# Who comes and who goes

People join channels, leave them, are kicked out, quit the network, and change their
nicknames. Where the client itself does so, the channel opens or closes. A closed
channel has no members: the client cannot see them.

A QUIT and a NICK concern every channel at once. They visit the channels in some
order; what becomes of the network, the history and the events does not depend on it,
and `quit` and `nick` take the order of the names.
-/

namespace IrcClient.Handling

/-- The channels that the client is in are others than before. -/
def channelsChanged (net : Network) (p : Bool) : Outcome :=
  .only p (.emit (net.event "channels.changed"))

/-! ## Joining -/

/-- Someone comes into a channel. Where it is the client, it asks who is there. -/
def enter (net : Network) (nick target : String) : Network × Outcome :=
  let isMe := net.isMe nick
  let created := !net.hasChannel target
  let before := net.channelOrNew target
  let c := { before.addMember nick with isOpen := before.isOpen || isMe }
  let name := c.name
  (net.setChannel target c,
    .only (created || isMe) (.write (.upsertChannel name)) ++
    .only isMe (.write (.channelOpen name true) ++ .send ("NAMES " ++ name)) ++
    .write (.upsertMember name (before.joinedMember nick)) ++
    .write (net.line .join (nick ++ " has joined " ++ name) (some name) (some nick)) ++
    .emit (((net.event "user.joined").setText "channel" name).setText "user" nick) ++
    channelsChanged net (created || (isMe && !before.isOpen)))

/-- Someone joins: `:nick JOIN <channel>`. -/
def join : Handler := fun net msg =>
  match msg.sourceNick, msg.arg 0 with
  | some nick, some target => enter net nick target
  | _, _ => (net, .empty)

/-! ## Leaving -/

/-- A channel after someone has left it; where it was the client, it is closed. -/
def leftChannel (isMe : Bool) (nick : String) (c : Channel) : Channel :=
  if isMe then c.close else c.removeMember nick

/-- What the store is told when someone has left a channel. -/
def leavingWrites (isMe : Bool) (nick name : String) : List Write :=
  if isMe then [.channelOpen name false, .replaceMembers name []]
  else [.removeMember name nick]

/--
Someone leaves a channel, as `tell` tells the history and `announce` the events, both
of the channel's name. Nobody leaves a channel that is not known.
-/
def leave (net : Network) (nick target : String) (tell : String → Write)
    (announce : String → Event) : Network × Outcome :=
  match net.channel? target with
  | none => (net, .empty)
  | some c =>
    let isMe := net.isMe nick
    (net.setChannel target (leftChannel isMe nick c),
      .writing (leavingWrites isMe nick c.name) ++ .write (tell c.name) ++
      .emit (announce c.name) ++ channelsChanged net (isMe && c.isOpen))

/-- A reason in parentheses, if there is one. -/
def inParens (reason : Option String) : String :=
  (reason.map fun r => " (" ++ r ++ ")").getD ""

/-- Someone leaves: `:nick PART <channel> [:reason]`. -/
def part : Handler := fun net msg =>
  match msg.sourceNick, msg.arg 0 with
  | some nick, some target =>
    let reason := msg.arg 1
    leave net nick target
      (fun name => net.line .part (nick ++ " has left " ++ name ++ inParens reason)
        (some name) (some nick))
      (fun name => (((net.event "user.parted").setText "channel" name).setText "user" nick).setText?
        "reason" reason)
  | _, _ => (net, .empty)

/-- Someone is kicked out: `:kicker KICK <channel> <victim> [:reason]`. -/
def kick : Handler := fun net msg =>
  match msg.arg 0, msg.arg 1 with
  | some target, some victim =>
    let kicker := msg.sourceNick.getD ""
    let reason := msg.arg 2
    leave net victim target
      (fun name => net.line .kick
        (victim ++ " was kicked from " ++ name ++ " by " ++ kicker ++ inParens reason)
        (some name) (some kicker))
      (fun name =>
        ((((net.event "user.kicked").setText "channel" name).setText "user" victim).setText
          "by" kicker).setText? "reason" reason)
  | _, _ => (net, .empty)

/-! ## All channels at once -/

/-- The channels that someone leaves by quitting. -/
def quitChannels (isMe : Bool) (nick : String) (visit : List Channel) : List Channel :=
  visit.filter fun c => if isMe then c.isOpen else c.hasMember nick

/-- A channel after someone has quit. -/
def quitChannel (isMe : Bool) (nick : String) (c : Channel) : Channel :=
  if isMe then (if c.isOpen then c.close else c) else c.removeMember nick

/-- Someone quits, and the channels are visited in a given order. -/
def quitVisiting (visit : List Channel) : Handler := fun net msg =>
  match msg.sourceNick with
  | none => (net, .empty)
  | some nick =>
    let isMe := net.isMe nick
    let reason := msg.arg 0
    let left := (quitChannels isMe nick visit).map (·.name)
    let names := sortNames left
    let text := nick ++ " has quit" ++ inParens reason
    (net.mapChannels (quitChannel isMe nick),
      .writing (left.flatMap (leavingWrites isMe nick)) ++
      .writing (names.map fun name => net.line .quit text (some name) (some nick)) ++
      .emit ((((net.event "user.quit").setText "user" nick).setText? "reason" reason).set
        "channels" (.list (names.map .text))) ++
      channelsChanged net (isMe && !left.isEmpty))

/-- Someone quits: `:nick QUIT [:reason]`. -/
def quit : Handler := fun net msg =>
  quitVisiting net.sortedChannels net msg

/-- Someone changes nicknames, and the channels are visited in a given order. -/
def nickVisiting (visit : List Channel) : Handler := fun net msg =>
  match msg.sourceNick, msg.arg 0 with
  | some old, some new =>
    let names := sortNames ((visit.filter (·.hasMember old)).map (·.name))
    let text := old ++ " is now known as " ++ new
    -- the client may be told of its own new nickname
    let nickname := if net.isMe old then new else net.nickname
    ({ net.mapChannels (·.renameMember old new) with nickname },
      .write (.renameUser old new) ++
      .writing (names.map fun name => net.line .nick text (some name) (some new)) ++
      .emit ((((net.event "user.nick").setText "user" old).setText "newNick" new).set
        "channels" (.list (names.map .text))))
  | _, _ => (net, .empty)

/-- Someone changes nicknames: `:old NICK <new>`. -/
def nick : Handler := fun net msg =>
  nickVisiting net.sortedChannels net msg

end IrcClient.Handling
