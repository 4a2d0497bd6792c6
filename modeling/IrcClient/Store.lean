import IrcClient.History

/-!
# The store

The store keeps history, and for each network the channels that were seen there,
from one connection to the next. A write is a value (`Write`), so that what a line
from the server does to the store can be told before it is done.

A write either succeeds or leaves the store as it was: it yields a new store or an
error, and never both.
-/

namespace IrcClient

/-- A change to the store, within one network. -/
inductive Write where
  | line (line : HistoryLine)
  | upsertChannel (channel : String)
  | channelOpen (channel : String) (isOpen : Bool)
  | autoJoin (channel : String) (autoJoin : Bool)
  | topic (channel topic : String)
  | modes (channel modes : String)
  | replaceMembers (channel : String) (members : List Member)
  | upsertMember (channel : String) (member : Member)
  | removeMember (channel nick : String)
  | renameUser (old new : String)
deriving DecidableEq, Repr

/-- Why the store refuses. -/
inductive StoreError where
  | unavailable
  | noSuchChannel (channel : String)
deriving DecidableEq, Repr

/-- The words for a refusal. -/
def StoreError.message : StoreError → String
  | .unavailable => "Storage unavailable: writes disabled"
  | .noSuchChannel channel => "No such channel " ++ channel

/-- A stored channel and its members, by folded nickname. -/
structure StoredChannel where
  record : ChannelRecord
  members : Table String Member
deriving DecidableEq

namespace StoredChannel

instance : Inhabited StoredChannel := ⟨⟨default, .empty⟩⟩

/-- A channel of which nothing but the name is stored. -/
def new (name : String) : StoredChannel :=
  ⟨{ name }, .empty⟩

/-- Members under their folded nicknames; of several with one nickname the last counts. -/
def membersOf (members : List Member) : Table String Member :=
  Table.ofList (members.map fun m => (fold m.nick, m))

/-- Moves a member to a new nickname, in the stead of who had it. -/
def renameUser (c : StoredChannel) (old new : String) : StoredChannel :=
  match c.members.get? (fold old) with
  | none => c
  | some m =>
    { c with members := (c.members.erase (fold old)).insert (fold new) { m with nick := new } }

end StoredChannel

/-- The stored channels of one network, by folded name. -/
abbrev Shelf := Table String StoredChannel

/-- All that is stored. A failing store refuses every request until it recovers. -/
structure Store where
  history : List HistoryLine
  shelves : Table NetworkId Shelf
  failing : Bool
deriving DecidableEq

namespace Store

/-- A store that holds nothing and works. -/
def empty : Store :=
  ⟨[], .empty, false⟩

instance : Inhabited Store := ⟨empty⟩

/-! ## What is stored -/

/-- The channels of a network. -/
def shelf (s : Store) (network : NetworkId) : Shelf :=
  (s.shelves.get? network).getD .empty

/-- A stored channel, by any spelling of its name. -/
def channel? (s : Store) (network : NetworkId) (name : String) : Option StoredChannel :=
  (s.shelf network).get? (fold name)

/-- The members of a channel, by folded nickname. -/
def members (s : Store) (network : NetworkId) (name : String) : List Member :=
  ((s.channel? network name).map (·.members.values)).getD []

/-- The lines of one kind. -/
def linesOfKind (s : Store) (kind : LineKind) : List HistoryLine :=
  s.history.filter (·.kind = kind)

/-- The channels of a network by name, if the store works. -/
def channels (s : Store) (network : NetworkId) : Except StoreError (List ChannelRecord) :=
  if s.failing then .error .unavailable
  else .ok (((s.shelf network).values.map (·.record)).mergeSort
    fun a b => nameAtMost a.name b.name)

/-! ## Changes -/

/-- Sets the channels of a network. -/
def setShelf (s : Store) (network : NetworkId) (shelf : Shelf) : Store :=
  { s with shelves := s.shelves.insert network shelf }

/-- Changes one channel, which has to be known. -/
def updateChannel (s : Store) (network : NetworkId) (name : String)
    (f : StoredChannel → StoredChannel) : Except StoreError Store :=
  match s.channel? network name with
  | none => .error (.noSuchChannel name)
  | some c => .ok (s.setShelf network ((s.shelf network).insert (fold name) (f c)))

/-- Changes the record of one channel, which has to be known. -/
def updateRecord (s : Store) (network : NetworkId) (name : String)
    (f : ChannelRecord → ChannelRecord) : Except StoreError Store :=
  s.updateChannel network name fun c => { c with record := f c.record }

/-- Changes the members of one channel, which has to be known. -/
def updateMembers (s : Store) (network : NetworkId) (name : String)
    (f : Table String Member → Table String Member) : Except StoreError Store :=
  s.updateChannel network name fun c => { c with members := f c.members }

/-- What a write does to a store that works. -/
def perform (s : Store) (network : NetworkId) : Write → Except StoreError Store
  | .line line => .ok { s with history := s.history ++ [line] }
  | .upsertChannel name =>
    -- a channel that is known keeps its topic, modes and members
    if (s.channel? network name).isSome then .ok s
    else .ok (s.setShelf network ((s.shelf network).insert (fold name) (.new name)))
  | .channelOpen name isOpen => s.updateRecord network name ({ · with isOpen })
  | .autoJoin name autoJoin => s.updateRecord network name ({ · with autoJoin })
  | .topic name topic => s.updateRecord network name ({ · with topic := some topic })
  | .modes name modes => s.updateRecord network name ({ · with modes })
  | .replaceMembers name members =>
    s.updateMembers network name fun _ => StoredChannel.membersOf members
  | .upsertMember name m => s.updateMembers network name (·.insert (fold m.nick) m)
  | .removeMember name nick => s.updateMembers network name (·.erase (fold nick))
  | .renameUser old new =>
    .ok { s with shelves := s.shelves.modify network (·.map (·.renameUser old new)) }

/-- Carries out a write, which a failing store refuses. -/
def apply (s : Store) (network : NetworkId) (w : Write) : Except StoreError Store :=
  if s.failing then .error .unavailable else s.perform network w

/-- Carries out a write as far as the store allows: a refusal has no consequence. -/
def attempt (s : Store) (network : NetworkId) (w : Write) : Store :=
  match s.apply network w with
  | .ok s' => s'
  | .error _ => s

/-- Carries out writes one after another, as far as the store allows. -/
def attemptAll (s : Store) (network : NetworkId) (ws : List Write) : Store :=
  ws.foldl (fun s w => s.attempt network w) s

end Store

end IrcClient
