import IrcClient.Proofs.Session
import IrcClient.Proofs.Store.MirrorHandlers

/-!
# A session and its store

A session that starts on an empty store handles lines, and channels are marked to be entered;
every step writes to the store. However the steps follow one another, the store mirrors the
network after each of them, and no write is ever refused (`mirroredBy_run`).

A QUIT visits the channels in no set order. So a step says in which order it visits them,
and the theorem holds for all.
-/

namespace IrcClient

/-- An order in which to visit the channels of a network. -/
structure VisitOrder where
  arrange : List Channel → List Channel
  perm : ∀ l, (arrange l).Perm l

/-- The order of the names. -/
def VisitOrder.byName : VisitOrder :=
  ⟨id, fun l => .refl l⟩

/-- Handles a line, and visits the channels in a given order where it concerns them all. -/
def processVisiting (order : VisitOrder) (p : Persona) : Handler := fun net msg =>
  match Verb.ofCommand? msg.command with
  | some .quit => Handling.quitVisiting (order.arrange net.sortedChannels) net msg
  | some .nick => Handling.nickVisiting (order.arrange net.sortedChannels) net msg
  | _ => process p net msg

theorem processVisiting_byName (p : Persona) : processVisiting .byName p = process p := by
  funext net msg
  unfold processVisiting process
  cases hv : Verb.ofCommand? msg.command with
  | none => rfl
  | some v => cases v <;> rfl

/-! ## What one step writes -/

open Handling in
theorem keepsMirror_handler (p : Persona) (v : Verb) (net : Network) (msg : Message) :
    KeepsMirror net (v.handler p net msg).1 (v.handler p net msg).2.writes := by
  have hsorted : net.sortedChannels.Perm net.channels.values := List.mergeSort_perm _ _
  cases v with
  | welcome => exact keepsMirror_welcome net msg
  | nickRejected => exact keepsMirror_nickRejected net msg
  | ping => exact keepsMirror_ping net msg
  | error => exact keepsMirror_serverError net msg
  | announcement => exact keepsMirror_announcement net msg
  | namesReply => exact keepsMirror_namesReply net msg
  | endOfNames => exact keepsMirror_endOfNames net msg
  | join => exact keepsMirror_join net msg
  | part => exact keepsMirror_part net msg
  | kick => exact keepsMirror_kick net msg
  | quit => exact keepsMirror_quitVisiting hsorted msg
  | nick => exact keepsMirror_nickVisiting net _ msg
  | topic => exact keepsMirror_topic net msg
  | topicReply => exact keepsMirror_topicReply net msg
  | noTopic => exact keepsMirror_noTopic net msg
  | mode => exact keepsMirror_mode net msg
  | channelModeIs => exact keepsMirror_channelModeIs net msg
  | whoisUser | whoisServer | whoisOperator | whoisIdle | whoisChannels | whoisAccount
  | whoisSecure => exact keepsMirror_collect _ net msg
  | away => exact keepsMirror_away net msg
  | endOfWhois => exact keepsMirror_endOfWhois net msg
  | privmsg => exact keepsMirror_privmsg p net msg
  | notice => exact keepsMirror_notice net msg
  | failure => exact keepsMirror_failure net msg

theorem keepsMirror_process (p : Persona) (net : Network) (msg : Message) :
    KeepsMirror net (process p net msg).1 (process p net msg).2.writes := by
  unfold process
  split
  · exact keepsMirror_lines rfl (by simp)
  · exact keepsMirror_handler p _ net msg

theorem keepsMirror_processVisiting (order : VisitOrder) (p : Persona) (net : Network)
    (msg : Message) : KeepsMirror net (processVisiting order p net msg).1
      (processVisiting order p net msg).2.writes := by
  unfold processVisiting
  split
  · exact Handling.keepsMirror_quitVisiting
      ((order.perm _).trans (List.mergeSort_perm _ _)) msg
  · exact Handling.keepsMirror_nickVisiting net _ msg
  · exact keepsMirror_process p net msg

theorem keepsMirror_setAutoJoin (s : Session) (channel : String) (autoJoin : Bool) :
    KeepsMirror s.network (s.setAutoJoin channel autoJoin).1.network
      (s.setAutoJoin channel autoJoin).2.writes := by
  have hw : (s.setAutoJoin channel autoJoin).2.writes =
      (if !s.network.hasChannel channel then
        [.upsertChannel (s.network.channelOrNew channel).name] else []) ++
      [.autoJoin (s.network.channelOrNew channel).name autoJoin] := by
    cases hknown : s.network.hasChannel channel <;> simp [Session.setAutoJoin, hknown]
  rw [hw]
  refine keepsMirror_created Handling.not_hasChannel fun d hd => ⟨fun w hm => ?_, ?_⟩
  · rw [List.mem_singleton.mp hm]
    exact rfl
  · exact ⟨hd.name, hd.modes, hd.isOpen, rfl, hd.topic, hd.keyed, hd.members⟩

/-! ## Runs -/

/-- What can happen to a session that matters to the store. -/
inductive Deed where
  | line (order : VisitOrder) (p : Persona) (msg : Message)
  | autoJoin (channel : String) (autoJoin : Bool)

/-- What a deed makes of a session, and what it writes. -/
def Deed.effect (s : Session) : Deed → Session × List Write
  | .line order p msg =>
    let (network, o) := processVisiting order p s.network msg
    ({ s with network }, o.writes)
  | .autoJoin channel flag =>
    let (s, e) := s.setAutoJoin channel flag
    (s, e.writes)

/-- A session together with the store that it writes to. -/
structure Recorded where
  session : Session
  store : Store

namespace Recorded

/-- A session at its beginning, on a store that holds nothing and works. -/
def start (identity : Identity) (endpoint : Endpoint) (nonce : String) : Recorded :=
  ⟨.start identity endpoint [] nonce, .empty⟩

/-- One deed: its writes are carried out one after another, and what is refused is lost. -/
def perform (r : Recorded) (deed : Deed) : Recorded :=
  let (session, writes) := deed.effect r.session
  ⟨session, r.store.attemptAll r.session.identity.id writes⟩

/-- Deeds one after another. -/
def run (r : Recorded) (deeds : List Deed) : Recorded :=
  deeds.foldl perform r

/-- The store works, and mirrors what the session knows of its network. -/
structure Mirrored (id : NetworkId) (r : Recorded) : Prop where
  identity : r.session.identity.id = id
  working : r.store.failing = false
  mirrored : r.session.network.MirroredBy (r.store.shelf id)

theorem mirrored_start (identity : Identity) (endpoint : Endpoint) (nonce : String) :
    Mirrored identity.id (start identity endpoint nonce) where
  identity := by rw [start, Session.identity_start]
  working := rfl
  mirrored := by
    rw [start, Session.network_start]
    exact Network.new_mirroredBy identity.id endpoint.address identity.nickname

theorem keepsMirror_effect (s : Session) (deed : Deed) :
    KeepsMirror s.network (deed.effect s).1.network (deed.effect s).2 := by
  cases deed with
  | line order p msg => exact keepsMirror_processVisiting order p s.network msg
  | autoJoin channel flag => exact keepsMirror_setAutoJoin s channel flag

theorem identity_effect (s : Session) (deed : Deed) :
    (deed.effect s).1.identity = s.identity := by
  cases deed <;> rfl

/-- **A deed is carried out in full**, and the store mirrors the network afterwards. -/
theorem mirrored_perform {id : NetworkId} {r : Recorded} (h : Mirrored id r) (deed : Deed) :
    r.store.applyAll id (deed.effect r.session).2 = .ok (r.perform deed).store ∧
      Mirrored id (r.perform deed) := by
  obtain ⟨s', shelf, hs, hm⟩ := keepsMirror_effect r.session deed id r.store h.working h.mirrored
  have hstore : (r.perform deed).store = s' := by
    show r.store.attemptAll r.session.identity.id _ = s'
    rw [h.identity]
    exact Store.attemptAll_of_applyAll hs.applied
  refine ⟨by rw [hstore, hs.applied], ?_, ?_, ?_⟩
  · show (deed.effect r.session).1.identity.id = id
    rw [identity_effect, h.identity]
  · rw [hstore]
    exact hs.working
  · rw [hstore, hs.shelf]
    exact hm

theorem mirrored_run {id : NetworkId} : ∀ (deeds : List Deed) {r : Recorded},
    Mirrored id r → Mirrored id (r.run deeds)
  | [], _, h => h
  | deed :: deeds, _, h => mirrored_run deeds (mirrored_perform h deed).2

/--
**The store mirrors the network.** After any deeds of a session that started on an empty
store, the stored channels are those that are known, and every write of whatever deed comes
next is carried out.
-/
theorem store_mirrors_network (identity : Identity) (endpoint : Endpoint) (nonce : String)
    (deeds : List Deed) :
    let r := (start identity endpoint nonce).run deeds
    r.session.network.MirroredBy (r.store.shelf identity.id) ∧
      ∀ deed, r.store.applyAll identity.id (deed.effect r.session).2 =
        .ok (r.perform deed).store := by
  intro r
  have h : Mirrored identity.id r := mirrored_run deeds (mirrored_start identity endpoint nonce)
  exact ⟨h.mirrored, fun deed => (mirrored_perform h deed).1⟩

end Recorded

end IrcClient
