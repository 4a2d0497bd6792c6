import IrcClient.Name

/-!
# Channels

A channel has a topic, flags, and members, each under the folded form of the
nickname. The server sends the member list in parts: the first part of a round
starts the list afresh, and the round lasts until the server says that the list is
complete.
-/

namespace IrcClient

/-- Someone in a channel. The mode letters go from the highest rank down. -/
structure Member where
  nick : String
  modes : String
deriving DecidableEq, Repr, Inhabited

/-- Whether a member comes before another or equals it: by nickname, then by modes. -/
def Member.atMost (a b : Member) : Bool :=
  nameBefore a.nick b.nick || (a.nick == b.nick && nameAtMost a.modes b.modes)

/-- What is kept of a channel from one connection to the next. -/
structure ChannelRecord where
  name : String
  topic : Option String := none
  modes : String := ""
  autoJoin : Bool := false
  isOpen : Bool := false
deriving DecidableEq, Repr, Inhabited

/-- A channel as it is known during a connection. It is open while the client is in it. -/
structure Channel where
  name : String
  topic : Option String
  modes : String
  autoJoin : Bool
  isOpen : Bool
  members : Table String Member
  refreshing : Bool
deriving DecidableEq

namespace Channel

/-- A channel of which nothing but the name is known. -/
def new (name : String) : Channel :=
  { name, topic := none, modes := "", autoJoin := false, isOpen := false
    members := .empty, refreshing := false }

instance : Inhabited Channel := ⟨new ""⟩

/-- A channel as an earlier connection left it. The client starts out of every channel. -/
def ofRecord (r : ChannelRecord) : Channel :=
  { new r.name with topic := r.topic, modes := r.modes, autoJoin := r.autoJoin }

/-! ## Members -/

/-- The member of a nickname, in any spelling. -/
def member? (c : Channel) (nick : String) : Option Member :=
  c.members.get? (fold nick)

/-- Whether a nickname is in the channel. -/
def hasMember (c : Channel) (nick : String) : Bool :=
  (c.member? nick).isSome

/-- The members by nickname, then by modes. -/
def sortedMembers (c : Channel) : List Member :=
  c.members.values.mergeSort Member.atMost

/-- Sets a member, in the stead of one of the same nickname. -/
def upsertMember (c : Channel) (m : Member) : Channel :=
  { c with members := c.members.insert (fold m.nick) m }

/-- The member that a nickname has, or gets by coming in: modes it holds it keeps. -/
def joinedMember (c : Channel) (nick : String) : Member :=
  ⟨nick, (c.member? nick).elim "" (·.modes)⟩

/-- Sees to it that a nickname is in the channel, in this spelling. -/
def addMember (c : Channel) (nick : String) : Channel :=
  c.upsertMember (c.joinedMember nick)

/-- Takes a nickname out of the channel. -/
def removeMember (c : Channel) (nick : String) : Channel :=
  { c with members := c.members.erase (fold nick) }

/-- Moves a member to a new nickname, modes and all, in the stead of who had it. -/
def renameMember (c : Channel) (old new : String) : Channel :=
  match c.member? old with
  | none => c
  | some m => (c.removeMember old).upsertMember { m with nick := new }

/-- Takes everyone out of the channel. -/
def clearMembers (c : Channel) : Channel :=
  { c with members := .empty }

/-! ## Rounds of the member list -/

/-- A part of the member list is at hand: the first one of a round starts the list afresh. -/
def beginRefresh (c : Channel) : Channel :=
  if c.refreshing then c else { c.clearMembers with refreshing := true }

/-- The member list is complete. -/
def endRefresh (c : Channel) : Channel :=
  { c with refreshing := false }

/-- The client leaves the channel, and with it all that it knew of the members. -/
def close (c : Channel) : Channel :=
  { c.clearMembers with isOpen := false, refreshing := false }

end Channel

end IrcClient
