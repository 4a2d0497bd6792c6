import IrcClient.Proofs.Network.Naming
import IrcClient.Proofs.Store.MirrorRun
import IrcClient.Proofs.Store.Updates

/-!
# All channels at once

A NICK and a QUIT concern every channel that the user is in, and a QUIT of the client every channel
that is open. No line says which channels these are, so the client looks through all that it knows,
in the order of a table that has none.

What such a line should do is said channel by channel (`Sweep.Leaves`) and by the names of the
channels that it concerns. The handlers do it in an order, but the names are sorted before anyone
hears of them, and the store is told of one channel at a time. So the order cannot be seen
(`sweep_everywhere`).
-/

namespace IrcClient

/-- The line that a write adds to the history, if it adds one. -/
def Write.line? : Write → Option HistoryLine
  | .line l => some l
  | _ => none

/-- What concerns all channels at once: a user takes another nickname, or quits. -/
inductive Sweep where
  | rename (old new : String)
  | quit (nick : String) (reason : Option String)

/-- The sweep that a line is about. -/
def Message.sweep? (msg : Message) : Option Sweep :=
  match msg.command, msg.sourceNick, msg.arg 0 with
  | "NICK", some old, some new => some (.rename old new)
  | "QUIT", some nick, reason => some (.quit nick reason)
  | _, _, _ => none

namespace Sweep

/-- Whether a channel is concerned: the user is in it or, where the client quits, it is open. -/
def concerns (net : Network) : Sweep → Channel → Bool
  | rename old _, c => c.hasMember old
  | quit nick _, c => if net.isMe nick then c.isOpen else c.hasMember nick

/-- What becomes of a channel. -/
inductive Leaves (net : Network) : Sweep → Channel → Channel → Prop where
  /-- A channel that is not concerned is left alone. -/
  | untouched (a : Sweep) {c : Channel} (h : a.concerns net c = false) : Leaves net a c c
  /-- The modes go over to the new nickname, and whoever had it is gone. -/
  | renamed {old new : String} {c : Channel} {m : Member} {members : Table String Member}
      (hm : c.member? old = some m)
      (h : ∀ k, members.get? k = if k = fold new then some ⟨new, m.modes⟩
        else if k = fold old then none else c.members.get? k) :
      Leaves net (rename old new) c { c with members }
  /-- The client quits. -/
  | closed {nick : String} {reason : Option String} {c : Channel} (hme : net.isMe nick = true)
      (hopen : c.isOpen = true) :
      Leaves net (quit nick reason) c
        { c with members := .empty, isOpen := false, refreshing := false }
  /-- Another user quits. -/
  | left {nick : String} {reason : Option String} {c : Channel} {members : Table String Member}
      (hme : net.isMe nick = false) (hin : c.hasMember nick = true)
      (h : ∀ k, members.get? k = if k = fold nick then none else c.members.get? k) :
      Leaves net (quit nick reason) c { c with members }

/-- The line of history of a channel that is concerned. -/
def record (net : Network) : Sweep → String → HistoryLine
  | rename old new, name =>
    { network := net.id, channel := some name, user := some new,
      text := old ++ " is now known as " ++ new, kind := .nick }
  | quit nick reason, name =>
    { network := net.id, channel := some name, user := some nick,
      text := nick ++ " has quit" ++ Handling.inParens reason, kind := .quit }

/-- What is announced, given the names of the channels that are concerned. -/
def events (net : Network) (names : List String) : Sweep → List Event
  | rename old new =>
    [(((net.event "user.nick").setText "user" old).setText "newNick" new).set "channels"
      (.list (names.map .text))]
  | quit nick reason =>
    ((((net.event "user.quit").setText "user" nick).setText? "reason" reason).set "channels"
      (.list (names.map .text))) ::
    if net.isMe nick && !names.isEmpty then [net.event "channels.changed"] else []

/-- The nickname that the client has afterwards. -/
def nickname (net : Network) : Sweep → String
  | rename old new => if net.isMe old then new else net.nickname
  | quit .. => net.nickname

/-! ## Channels -/

/-- What is made of each channel. -/
def onChannel (net : Network) : Sweep → Channel → Channel
  | rename old new => (·.renameMember old new)
  | quit nick _ => Handling.quitChannel (net.isMe nick) nick

theorem leaves_onChannel (net : Network) (a : Sweep) (c : Channel) :
    a.Leaves net c (a.onChannel net c) := by
  cases a with
  | rename old new =>
      show Leaves net _ c (c.renameMember old new)
      cases hm : c.member? old with
      | none =>
          have hsame : c.renameMember old new = c := by rw [Channel.renameMember, hm]
          rw [hsame]
          exact .untouched _ (by simp [concerns, Channel.hasMember, hm])
      | some m =>
          rw [Channel.renameMember_eq]
          refine .renamed hm fun k => ?_
          have hget : c.members.get? (fold old) = some m := hm
          rw [IrcClient.renamed, hget]
          simp only [Table.get?_insert, Table.get?_erase, eq_comm]
  | quit nick reason =>
      show Leaves net _ c (Handling.quitChannel (net.isMe nick) nick c)
      rw [Handling.quitChannel_eq]
      cases hleft : Handling.isLeft (net.isMe nick) nick c with
      | false => exact .untouched _ hleft
      | true =>
          cases hme : net.isMe nick with
          | true =>
              rw [hme] at hleft
              exact .closed hme hleft
          | false =>
              rw [hme] at hleft
              exact .left hme hleft fun k => by
                rw [Table.get?_erase]
                simp only [eq_comm]

/-! ## What is done, in an order of the channels -/

/-- The names of the channels that are concerned, in the order in which they are visited. -/
def visited (net : Network) (order : VisitOrder) (a : Sweep) : List String :=
  ((order.arrange net.sortedChannels).filter (a.concerns net)).map (·.name)

theorem visited_perm (net : Network) (order : VisitOrder) (a : Sweep) :
    (a.visited net order).Perm ((net.channels.values.filter (a.concerns net)).map (·.name)) :=
  ((((order.perm _).trans (List.mergeSort_perm _ _)).filter _).map _)

/-- What is written of the channels that are concerned. -/
def updates (net : Network) (names : List String) : Sweep → List Write
  | rename old new => [.renameUser old new]
  | quit nick _ => names.flatMap (Handling.leavingWrites (net.isMe nick) nick)

/-- The store becomes the same in whatever order they are visited. -/
theorem attemptAll_updates (net : Network) {names names' : List String} (hp : names.Perm names')
    (a : Sweep) (s : Store) (network : NetworkId) :
    s.attemptAll network (a.updates net names) = s.attemptAll network (a.updates net names') := by
  cases a with
  | rename old new => rfl
  | quit nick reason =>
      have hupdates : ∀ name, ∀ w ∈ Handling.leavingWrites (net.isMe nick) nick name,
          w.updates? = some name := by
        cases net.isMe nick <;> simp [Handling.leavingWrites, Write.updates?]
      exact Store.attemptAll_flatMap_perm hupdates (Handling.after_leavingWrites _ nick) hp s
        network

theorem line?_updates (net : Network) (names : List String) (a : Sweep) :
    (a.updates net names).filterMap Write.line? = [] := by
  cases a with
  | rename old new => rfl
  | quit nick reason =>
      rw [updates, List.filterMap_eq_nil_iff]
      intro w hw
      obtain ⟨name, -, hw⟩ := List.mem_flatMap.mp hw
      cases hme : net.isMe nick <;> simp [Handling.leavingWrites, hme] at hw
      · rw [hw]
        rfl
      · rcases hw with rfl | rfl <;> rfl

theorem isEmpty_sortNames (names : List String) : (sortNames names).isEmpty = names.isEmpty := by
  rw [Bool.eq_iff_iff, List.isEmpty_iff, List.isEmpty_iff, ← List.length_eq_zero_iff, sortNames,
    List.length_mergeSort, List.length_eq_zero_iff]

theorem processVisiting_of_sweep (order : VisitOrder) (p : Persona) (net : Network) {msg : Message}
    {a : Sweep} (h : msg.sweep? = some a) :
    let names := sortNames (a.visited net order)
    let result := processVisiting order p net msg
    result.1 = { net.mapChannels (a.onChannel net) with nickname := a.nickname net } ∧
      result.2.writes = a.updates net (a.visited net order) ++
        names.map (fun name => .line (a.record net name)) ∧
      result.2.events = a.events net names ∧ result.2.lines = [] := by
  unfold Message.sweep? at h
  split at h
  · rename_i old new hcommand hold hnew
    cases h
    have hverb : Verb.ofCommand? msg.command = some .nick := by rw [hcommand]; rfl
    unfold processVisiting
    rw [hverb]
    dsimp only
    rw [Handling.nickVisiting, hold, hnew]
    refine ⟨rfl, ?_, rfl, rfl⟩
    simp only [Outcome.writes_append, Outcome.writes_write, Outcome.writes_writing,
      Outcome.writes_emit, List.append_nil]
    rfl
  · rename_i nick hcommand hnick
    cases h
    have hverb : Verb.ofCommand? msg.command = some .quit := by rw [hcommand]; rfl
    unfold processVisiting
    rw [hverb]
    dsimp only
    rw [Handling.quitVisiting, hnick]
    refine ⟨rfl, ?_, ?_, ?_⟩
    · simp only [Outcome.writes_append, Outcome.writes_writing, Outcome.writes_emit,
        Handling.channelsChanged, Outcome.writes_only, ite_self, List.append_nil]
      rfl
    · simp only [Outcome.events_append, Outcome.events_writing, Outcome.events_emit,
        Handling.channelsChanged, Outcome.events_only]
      rw [events, isEmpty_sortNames]
      rfl
    · simp only [Outcome.lines_append, Handling.channelsChanged, Outcome.only]
      split <;> rfl
  · cases h

/-- What a sweep does: to the network, to the history and by way of events. -/
structure Done (net : Network) (a : Sweep) (result : Network × Outcome) : Prop where
  /-- Nothing changes but channels and, where it is the client's, the nickname. -/
  network : result.1 = { net with channels := result.1.channels, nickname := a.nickname net }
  /-- Of each channel becomes what should become of it, and none comes or goes. -/
  channels : ∀ k, Option.Rel (a.Leaves net) (net.channels.get? k) (result.1.channels.get? k)
  /-- Each channel that is concerned is told of once, in the order of the names. -/
  told : ∃ names, names.Pairwise (fun x y => nameBefore x y = true) ∧
    names.Perm ((net.channels.values.filter (a.concerns net)).map (·.name)) ∧
    result.2.writes.filterMap Write.line? = names.map (a.record net) ∧
    result.2.events = a.events net names

/-- Two results that cannot be told apart: not by the network, by what is sent, by the events or the
history, and not by any store. -/
structure Alike (result result' : Network × Outcome) : Prop where
  network : result'.1 = result.1
  sent : result'.2.lines = result.2.lines
  events : result'.2.events = result.2.events
  lines : result'.2.writes.filterMap Write.line? = result.2.writes.filterMap Write.line?
  store : ∀ (s : Store) (network : NetworkId),
    s.attemptAll network result'.2.writes = s.attemptAll network result.2.writes

theorem line?_written (net : Network) (a : Sweep) (visited names : List String) :
    (a.updates net visited ++ names.map fun name => Write.line (a.record net name)).filterMap
      Write.line? = names.map (a.record net) := by
  rw [List.filterMap_append, line?_updates, List.nil_append, List.filterMap_map]
  exact congrFun (List.filterMap_eq_map (f := a.record net)) names

theorem done_processVisiting (order : VisitOrder) (p : Persona) {net : Network} (h : net.Keyed)
    {msg : Message} {a : Sweep} (ha : msg.sweep? = some a) :
    a.Done net (processVisiting order p net msg) := by
  obtain ⟨hnetwork, hwrites, hevents, -⟩ := processVisiting_of_sweep order p net ha
  have hchannels : (processVisiting order p net msg).1.channels =
      net.channels.map (a.onChannel net) := by
    rw [hnetwork]
    rfl
  refine ⟨?_, fun k => ?_, sortNames (a.visited net order), ?_, ?_, ?_, hevents⟩
  · rw [hchannels]
    exact hnetwork
  · rw [hchannels, Table.get?_map]
    cases net.channels.get? k with
    | none => exact .none
    | some c => exact .some (a.leaves_onChannel net c)
  · refine sortNames_increasing ((a.visited_perm net order).nodup_iff.mpr ?_)
    exact h.channels.named.nodup (a.concerns net)
  · exact (List.mergeSort_perm _ _).trans (a.visited_perm net order)
  · rw [hwrites, line?_written]

theorem alike_processVisiting (order order' : VisitOrder) (p : Persona) {net : Network}
    {msg : Message} {a : Sweep} (ha : msg.sweep? = some a) :
    Alike (processVisiting order p net msg) (processVisiting order' p net msg) := by
  obtain ⟨hnetwork, hwrites, hevents, hsent⟩ := processVisiting_of_sweep order p net ha
  obtain ⟨hnetwork', hwrites', hevents', hsent'⟩ :=
    processVisiting_of_sweep order' p net ha
  have hp : (a.visited net order').Perm (a.visited net order) :=
    (a.visited_perm net order').trans (a.visited_perm net order).symm
  -- once they are sorted, the names are the same in either order
  rw [sortNames_eq_of_perm hp] at hwrites' hevents'
  refine ⟨hnetwork'.trans hnetwork.symm, hsent'.trans hsent.symm, hevents'.trans hevents.symm,
    ?_, fun s network => ?_⟩
  · rw [hwrites, hwrites', line?_written, line?_written]
  · rw [hwrites, hwrites', Store.attemptAll_append, Store.attemptAll_append,
      attemptAll_updates net hp]

/--
**What concerns all channels touches those that it concerns, and no others.** Each of them becomes
what it should, is told of once in the history and is listed in the event, and in which order they
are visited cannot be seen.
-/
theorem sweep_everywhere (p : Persona) {net : Network} (hnet : net.Reachable)
    (order order' : VisitOrder) {msg : Message} {a : Sweep} (ha : msg.sweep? = some a) :
    a.Done net (processVisiting order p net msg) ∧
      Alike (processVisiting order p net msg) (processVisiting order' p net msg) :=
  ⟨done_processVisiting order p hnet.keyed ha, alike_processVisiting order order' p ha⟩

/-- Someone takes the nickname of another, in two channels of which one has them both. -/
theorem sweep_everywhere_collision :
    let p : Persona := ⟨"1.0", "noon"⟩
    let joins (nick channel : String) : Network.Step :=
      .line p ⟨[], some ⟨nick, none, none⟩, "JOIN", [channel]⟩
    let net := (Network.new 1 "Libera" "kestrel").run
      [joins "kestrel" "#lean", joins "Ada" "#Lean", joins "grace" "#lean", joins "ada" "#a"]
    let backwards : VisitOrder := ⟨List.reverse, List.reverse_perm⟩
    let msg : Message := ⟨[], some ⟨"ADA", none, none⟩, "NICK", ["Grace"]⟩
    net.Reachable ∧ msg.sweep? = some (.rename "ADA" "Grace") ∧
      Done net (.rename "ADA" "Grace") (processVisiting .byName p net msg) ∧
      Alike (processVisiting .byName p net msg) (processVisiting backwards p net msg) := by
  intro p joins net backwards msg
  have hnet : net.Reachable := .run _ (.new 1 "Libera" "kestrel")
  have ha : msg.sweep? = some (.rename "ADA" "Grace") := rfl
  exact ⟨hnet, ha, sweep_everywhere p hnet .byName backwards ha⟩

end Sweep

end IrcClient
