import IrcClient.Channel
import IrcClient.Support
import IrcClient.Whois

/-!
# What is known of a network

One value holds all that the client knows of a network while it is connected. The
channels and the WHOIS collections are under the folded forms of their names, so a
name is found in any spelling.
-/

namespace IrcClient

/-- The number under which a network is configured. -/
abbrev NetworkId := Int

/-- A network as the client sees it. The label stands for it in events. -/
structure Network where
  id : NetworkId
  label : String
  nickname : String
  registered : Bool
  account : Option String
  support : Support
  channels : Table String Channel
  whois : Table String Whois
deriving DecidableEq

namespace Network

/-- A network of which nothing is known yet. -/
def new (id : NetworkId) (label nickname : String) : Network :=
  { id, label, nickname, registered := false, account := none, support := .initial
    channels := .empty, whois := .empty }

instance : Inhabited Network := ⟨new 0 "" ""⟩

/-- Takes over the channels that earlier connections left behind. -/
def seed (net : Network) (records : List ChannelRecord) : Network :=
  { net with channels :=
      net.channels.insertAll (records.map fun r => (fold r.name, Channel.ofRecord r)) }

/-- Whether a nickname is the client's own. -/
def isMe (net : Network) (nick : String) : Bool :=
  sameName net.nickname nick

/-! ## Channels -/

/-- The channel of a name, in any spelling. -/
def channel? (net : Network) (name : String) : Option Channel :=
  net.channels.get? (fold name)

/-- Whether a channel is known. -/
def hasChannel (net : Network) (name : String) : Bool :=
  (net.channel? name).isSome

/-- The channel of a name, as a new one if it is not known. -/
def channelOrNew (net : Network) (name : String) : Channel :=
  (net.channel? name).getD (.new name)

/-- Sets the channel of a name. -/
def setChannel (net : Network) (name : String) (c : Channel) : Network :=
  { net with channels := net.channels.insert (fold name) c }

/-- Changes every channel. -/
def mapChannels (net : Network) (f : Channel → Channel) : Network :=
  { net with channels := net.channels.map f }

/-- The channels by name. -/
def sortedChannels (net : Network) : List Channel :=
  net.channels.values.mergeSort fun a b => nameAtMost a.name b.name

/-- The names of the channels to enter of the client's own accord, in order. -/
def autoJoinChannels (net : Network) : List String :=
  sortNames ((net.channels.values.filter (·.autoJoin)).map (·.name))

/-! ## WHOIS collections -/

/-- The open collection of a nickname. -/
def whois? (net : Network) (nick : String) : Option Whois :=
  net.whois.get? (fold nick)

/-- Changes the collection of a nickname, and opens it first if need be. -/
def updateWhois (net : Network) (nick : String) (f : Whois → Whois) : Network :=
  { net with whois := net.whois.insert (fold nick) (f ((net.whois? nick).getD (.new nick))) }

/-- Closes the collection of a nickname. -/
def closeWhois (net : Network) (nick : String) : Network :=
  { net with whois := net.whois.erase (fold nick) }

end Network

end IrcClient
