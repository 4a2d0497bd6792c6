import IrcClient.Handling.Registration

/-!
# Member lists

The server lists the members of a channel in parts, and says when the list is
complete. The store learns of the list only then.
-/

namespace IrcClient.Handling

/-- The members that the tokens of a list stand for; a token without a nickname stands for none. -/
def listedMembers (s : Support) (names : String) : List Member :=
  (asciiWords names.toList).filterMap fun token =>
    let (modes, nick) := s.splitNamesToken (String.ofList token)
    if nick.isEmpty then none else some ⟨nick, modes⟩

/-- A part of the list comes in: the members it lists are added to those of the same round. -/
def addListed (c : Channel) (members : List Member) : Channel :=
  members.foldl Channel.upsertMember c.beginRefresh

/-- A part of the list: `353 <me> [symbol] <channel> :<names>`. -/
def namesReply : Handler := fun net msg =>
  match msg.args.reverse with
  -- the symbol may be missing, so the arguments are counted from the end
  | names :: target :: _ :: _ =>
    let before := net.channelOrNew target
    (net.setChannel target (addListed before (listedMembers net.support names)),
      .only (!net.hasChannel target) (.write (.upsertChannel before.name)))
  | _ => (net, .empty)

/-- The end of the list: `366 <me> <channel> :<text>`. -/
def endOfNames : Handler := fun net msg =>
  match msg.arg 1 with
  | none => (net, .empty)
  | some target =>
    match net.channel? target with
    | none => (net, .empty)
    | some c =>
      (net.setChannel target c.endRefresh,
        .write (.replaceMembers c.name c.sortedMembers) ++
        .emit (((net.event "channel.names.complete").setText "channel" c.name).set "count"
          (.int c.members.size)))

end IrcClient.Handling
