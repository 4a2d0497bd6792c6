import IrcClient.Proofs.Store.Updates

/-!
# Networks that share a store

One store serves all networks, and each may ask it anything at any time, while it fails and
recovers in between. What a write does is told by the shelf of its own network alone
(`Write.onShelf`): it looks at no other shelf and changes no other. So a network gets the answers
that it would get if no other network had a store to ask (`networks_isolated`).

What is refused is told without the store, by what was asked of it before (`Store.Refused`).
-/

namespace IrcClient

/-! ## Requests and answers -/

namespace Store

/-- What is asked of a store in the name of a network. -/
inductive Request where
  | write (w : Write)
  | channels
  | channel (name : String)
  | members (name : String)

/-- Whether a request needs a store that works. What it holds can be looked up at any time. -/
def Request.needsWorking : Request → Bool
  | .write _ | .channels => true
  | .channel _ | .members _ => false

/-- What a store answers. -/
inductive Answer where
  | written (result : Except StoreError Unit)
  | channels (result : Except StoreError (List ChannelRecord))
  | channel (record : Option ChannelRecord)
  | members (members : List Member)

/-- Why a request is refused, if it is. -/
def Answer.refusal? : Answer → Option StoreError
  | .written (.error e) | .channels (.error e) => some e
  | .written (.ok _) | .channels (.ok _) | .channel _ | .members _ => none

/-- What a store answers to a request, and what becomes of it. -/
def serve (s : Store) (network : NetworkId) : Request → Answer × Store
  | .write w =>
    match s.apply network w with
    | .ok s' => (.written (.ok ()), s')
    | .error e => (.written (.error e), s)
  | .channels => (.channels (s.channels network), s)
  | .channel name => (.channel ((s.channel? network name).map (·.record)), s)
  | .members name => (.members (s.members network name), s)

/-- What happens to a store: a network asks something of it, or it fails, or it recovers. -/
inductive Call where
  | ask (network : NetworkId) (request : Request)
  | setFailing (failing : Bool)

/-- Whether a call is not one of another network. -/
def Call.concerns (network : NetworkId) : Call → Bool
  | .ask other _ => other = network
  | .setFailing _ => true

/-- A store after a call. -/
def after (s : Store) : Call → Store
  | .ask network request => (s.serve network request).2
  | .setFailing failing => { s with failing }

/-- A store after several calls. -/
def afterAll (s : Store) (calls : List Call) : Store :=
  calls.foldl after s

/-- The answer to a call, if it is one of this network. -/
def answerTo? (s : Store) (network : NetworkId) : Call → Option Answer
  | .ask other request => if other = network then some (s.serve other request).1 else none
  | .setFailing _ => none

/-- What a network is answered, in order. -/
def answersTo (network : NetworkId) : Store → List Call → List Answer
  | _, [] => []
  | s, call :: calls => (s.answerTo? network call).toList ++ answersTo network (s.after call) calls

end Store

/-! ## What a write reads and changes -/

/-- What a write makes of the channels of its network, unless it is refused. -/
def Write.onShelf (w : Write) (shelf : Shelf) : Except StoreError Shelf :=
  match w.updates? with
  | some name =>
    if (shelf.get? (fold name)).isSome then .ok (shelf.modify (fold name) w.onChannel)
    else .error (.noSuchChannel name)
  | none => .ok <|
    match w with
    | .upsertChannel name => shelf.insert (fold name) ((shelf.get? (fold name)).getD (.new name))
    | .renameUser old new => shelf.map (·.renameUser old new)
    | _ => shelf

theorem Write.onShelf_of_updates {w : Write} {name : String} (h : w.updates? = some name)
    (shelf : Shelf) :
    w.onShelf shelf =
      if (shelf.get? (fold name)).isSome then .ok (shelf.modify (fold name) w.onChannel)
      else .error (.noSuchChannel name) := by
  unfold onShelf
  rw [h]

/-- A write is refused for no other reason than that the channel it updates is not known. -/
theorem Write.onShelf_eq_error_iff {w : Write} {shelf : Shelf} {e : StoreError} :
    w.onShelf shelf = .error e ↔ ∃ name, w.updates? = some name ∧
      ¬ (shelf.get? (fold name)).isSome = true ∧ e = .noSuchChannel name := by
  cases hw : w.updates? with
  | none =>
      have hok : w.onShelf shelf ≠ .error e := by
        unfold onShelf
        rw [hw]
        simp
      exact iff_of_false hok (by simp)
  | some name =>
      rw [onShelf_of_updates hw]
      split
      · rename_i hc
        refine iff_of_false (by simp) ?_
        rintro ⟨name', hn, hc', -⟩
        exact hc' (Option.some.inj hn ▸ hc)
      · rename_i hc
        constructor
        · intro he
          exact ⟨name, rfl, hc, (Except.error.inj he).symm⟩
        · rintro ⟨name', hn, -, rfl⟩
          rw [Option.some.inj hn]

/-- A write may create the channel that it is to create. None creates another one, and none drops
one. -/
theorem Write.isSome_onShelf {w : Write} {shelf shelf' : Shelf} (h : w.onShelf shelf = .ok shelf')
    (k : String) :
    (shelf'.get? k).isSome = true ↔
      (shelf.get? k).isSome = true ∨ ∃ name, w = .upsertChannel name ∧ fold name = k := by
  cases hw : w.updates? with
  | some name =>
      have hne : ¬ ∃ name, w = .upsertChannel name ∧ fold name = k := by
        rintro ⟨name', rfl, -⟩
        cases hw
      -- an update changes a channel where it is
      rw [onShelf_of_updates hw] at h
      split at h
      · rw [← Except.ok.inj h, Table.get?_modify, or_iff_left hne]
        split
        · rw [Option.isSome_map]
        · rfl
      · cases h
  | none =>
      cases w with
      | line l =>
          rw [← Except.ok.inj h]
          simp
      | upsertChannel name =>
          rw [← Except.ok.inj h, Table.get?_insert]
          split
          · rename_i hk
            exact iff_of_true rfl (.inr ⟨name, rfl, hk⟩)
          · rename_i hk
            refine (or_iff_left ?_).symm
            rintro ⟨name', he, hk'⟩
            cases he
            exact hk hk'
      | renameUser old new =>
          rw [← Except.ok.inj h, Table.get?_map, Option.isSome_map]
          simp
      | channelOpen | autoJoin | topic | modes | replaceMembers | upsertMember | removeMember =>
          cases hw

namespace Store

variable {s s' : Store} {network other : NetworkId}

/-- A store that holds other channels for one network. -/
structure Reshelved (s : Store) (network : NetworkId) (shelf : Shelf) (s' : Store) : Prop where
  shelf : s'.shelf network = shelf
  others : ∀ other, network ≠ other → s'.shelf other = s.shelf other
  failing : s'.failing = s.failing

/-- **A write reads and changes the shelf of its network, and no other.** -/
theorem perform_onShelf (s : Store) (network : NetworkId) (w : Write) :
    (∃ s' shelf, s.perform network w = .ok s' ∧ w.onShelf (s.shelf network) = .ok shelf ∧
      s.Reshelved network shelf s') ∨
    ∃ e, s.perform network w = .error e ∧ w.onShelf (s.shelf network) = .error e := by
  have hset : ∀ shelf, s.Reshelved network shelf (s.setShelf network shelf) := fun shelf =>
    ⟨shelf_setShelf s network shelf, fun other hne => by
      simp only [Store.shelf, setShelf, Table.get?_insert, if_neg hne], rfl⟩
  cases hw : w.updates? with
  | some name =>
      rw [perform_of_updates hw, Write.onShelf_of_updates hw, channel?]
      by_cases hc : ((s.shelf network).get? (fold name)).isSome = true
      · rw [if_pos hc, if_pos hc]
        refine .inl ⟨_, _, rfl, rfl, ?_, fun other hne => ?_, rfl⟩
        · rw [shelf_edit, if_pos rfl]
        · rw [shelf_edit, if_neg hne]
      · rw [if_neg hc, if_neg hc]
        exact .inr ⟨_, rfl, rfl⟩
  | none =>
      -- what updates no channel is never refused
      refine .inl ?_
      cases w with
      | line l => exact ⟨_, _, rfl, rfl, rfl, fun _ _ => rfl, rfl⟩
      | upsertChannel name =>
          cases hc : s.channel? network name with
          | some c =>
              -- the channel is known, so that to create it writes what is there already
              refine ⟨s, s.shelf network, by simp [perform, hc], ?_, rfl, fun _ _ => rfl, rfl⟩
              have hget : (s.shelf network).get? (fold name) = some c := hc
              show Except.ok ((s.shelf network).insert _ _) = _
              rw [hget, Option.getD_some, Table.insert_of_get? hget]
          | none =>
              have hget : (s.shelf network).get? (fold name) = none := hc
              refine ⟨_, _, by simp [perform, hc]; rfl, ?_, hset _⟩
              show Except.ok ((s.shelf network).insert _ _) = _
              rw [hget, Option.getD_none]
      | renameUser old new =>
          refine ⟨_, _, rfl, rfl, ?_, fun other hne => ?_, rfl⟩
          · rw [shelf_modify s network network rfl, if_pos rfl]
          · rw [shelf_modify s network other rfl, if_neg hne]
      | channelOpen | autoJoin | topic | modes | replaceMembers | upsertMember | removeMember =>
          cases hw

theorem serve_of_failing (hf : s.failing = true) (network : NetworkId) (w : Write) :
    s.serve network (.write w) = (.written (.error .unavailable), s) := by
  simp only [serve, apply_of_failing hf]

theorem serve_of_onShelf_ok (hf : s.failing = false) {w : Write} {shelf : Shelf}
    (h : w.onShelf (s.shelf network) = .ok shelf) :
    ∃ s', s.serve network (.write w) = (.written (.ok ()), s') ∧ s.Reshelved network shelf s' := by
  rcases perform_onShelf s network w with ⟨s', shelf', hp, hw, hs⟩ | ⟨e, hp, hw⟩
  · refine ⟨s', by simp only [serve, apply_of_working hf, hp], ?_⟩
    rw [hw] at h
    rw [← Except.ok.inj h]
    exact hs
  · rw [hw] at h
    cases h

theorem serve_of_onShelf_error (hf : s.failing = false) {w : Write} {e : StoreError}
    (h : w.onShelf (s.shelf network) = .error e) :
    s.serve network (.write w) = (.written (.error e), s) := by
  rcases perform_onShelf s network w with ⟨s', shelf', hp, hw, -⟩ | ⟨e', hp, hw⟩
  · rw [hw] at h
    cases h
  · rw [hw] at h
    rw [← Except.error.inj h]
    simp only [serve, apply_of_working hf, hp]

/-- A request changes the store only if it is a write that is carried out. -/
theorem serve_cases (s : Store) (network : NetworkId) (request : Request) :
    (∃ w shelf s', request = .write w ∧ s.failing = false ∧
      w.onShelf (s.shelf network) = .ok shelf ∧
      s.serve network request = (.written (.ok ()), s') ∧ s.Reshelved network shelf s') ∨
    (s.serve network request).2 = s ∧ ∀ w, request = .write w → s.failing = false →
      ∃ e, w.onShelf (s.shelf network) = .error e := by
  cases request with
  | channels | channel | members => exact .inr ⟨rfl, fun w hr => by cases hr⟩
  | write w =>
      cases hf : s.failing with
      | true =>
          refine .inr ⟨by rw [serve_of_failing hf], fun w' _ hf' => ?_⟩
          cases hf'
      | false =>
          cases hw : w.onShelf (s.shelf network) with
          | ok shelf =>
              obtain ⟨s', hserve, hs⟩ := serve_of_onShelf_ok hf hw
              exact .inl ⟨w, shelf, s', rfl, rfl, hw, hserve, hs⟩
          | error e =>
              refine .inr ⟨by rw [serve_of_onShelf_error hf hw], fun w' hr _ => ?_⟩
              cases hr
              exact ⟨e, hw⟩

theorem failing_serve (s : Store) (network : NetworkId) (request : Request) :
    (s.serve network request).2.failing = s.failing := by
  rcases serve_cases s network request with ⟨w, shelf, s', -, -, -, hserve, hs⟩ | ⟨hs, -⟩
  · rw [hserve]
    exact hs.failing
  · rw [hs]

/-! ## What a network can see of a store -/

/-- Whether a network cannot tell two stores apart. -/
structure SameFor (network : NetworkId) (s s' : Store) : Prop where
  failing : s'.failing = s.failing
  shelf : s'.shelf network = s.shelf network

theorem SameFor.refl (network : NetworkId) (s : Store) : SameFor network s s :=
  ⟨rfl, rfl⟩

theorem SameFor.symm (h : SameFor network s s') : SameFor network s' s :=
  ⟨h.failing.symm, h.shelf.symm⟩

theorem SameFor.trans {s'' : Store} (h : SameFor network s s') (h' : SameFor network s' s'') :
    SameFor network s s'' :=
  ⟨h'.failing.trans h.failing, h'.shelf.trans h.shelf⟩

/-- Where a network cannot tell two stores apart, its requests do not tell them apart. -/
theorem SameFor.serve (h : SameFor network s s') (request : Request) :
    (s'.serve network request).1 = (s.serve network request).1 ∧
      SameFor network (s.serve network request).2 (s'.serve network request).2 := by
  cases request with
  | channels => exact ⟨by simp only [Store.serve, channels, h.failing, h.shelf], h⟩
  | channel name => exact ⟨by simp only [Store.serve, channel?, h.shelf], h⟩
  | members name => exact ⟨by simp only [Store.serve, members, channel?, h.shelf], h⟩
  | write w =>
      cases hf : s.failing with
      | true =>
          rw [serve_of_failing hf, serve_of_failing (h.failing.trans hf)]
          exact ⟨rfl, h⟩
      | false =>
          have hf' : s'.failing = false := h.failing.trans hf
          cases hw : w.onShelf (s.shelf network) with
          | ok shelf =>
              obtain ⟨t, hserve, ht⟩ := serve_of_onShelf_ok hf hw
              obtain ⟨t', hserve', ht'⟩ := serve_of_onShelf_ok hf' (h.shelf ▸ hw)
              rw [hserve, hserve']
              exact ⟨rfl, by rw [ht.failing, ht'.failing, h.failing], ht'.shelf.trans ht.shelf.symm⟩
          | error e =>
              rw [serve_of_onShelf_error hf hw, serve_of_onShelf_error hf' (h.shelf ▸ hw)]
              exact ⟨rfl, h⟩

/-- What another network asks makes no difference. -/
theorem sameFor_serve (hne : other ≠ network) (s : Store) (request : Request) :
    SameFor network s (s.serve other request).2 := by
  rcases serve_cases s other request with ⟨w, shelf, s', -, -, -, hserve, hs⟩ | ⟨hs, -⟩
  · rw [hserve]
    exact ⟨hs.failing, hs.others network hne⟩
  · rw [hs]
    exact .refl network s

theorem SameFor.after (h : SameFor network s s') {call : Call}
    (hc : call.concerns network = true) :
    s'.answerTo? network call = s.answerTo? network call ∧
      SameFor network (s.after call) (s'.after call) := by
  cases call with
  | setFailing failing => exact ⟨rfl, rfl, h.shelf⟩
  | ask other request =>
      obtain rfl : other = network := by simpa [Call.concerns] using hc
      obtain ⟨hanswer, hsame⟩ := h.serve request
      exact ⟨by simp only [answerTo?, hanswer], hsame⟩

theorem sameFor_after (s : Store) {call : Call} (hc : call.concerns network = false) :
    s.answerTo? network call = none ∧ SameFor network s (s.after call) := by
  cases call with
  | setFailing failing => cases hc
  | ask other request =>
      have hne : other ≠ network := by simpa [Call.concerns] using hc
      exact ⟨if_neg hne, sameFor_serve hne s request⟩

/-- A network is answered as if the others had asked nothing. -/
theorem SameFor.answersTo : ∀ (calls : List Call) {s s' : Store}, SameFor network s s' →
    answersTo network s calls = answersTo network s' (calls.filter (·.concerns network))
  | [], _, _, _ => rfl
  | call :: calls, s, s', h => by
      cases hc : call.concerns network with
      | true =>
          obtain ⟨hanswer, hsame⟩ := h.after hc
          rw [List.filter_cons_of_pos hc, Store.answersTo, Store.answersTo, hanswer,
            SameFor.answersTo calls hsame]
      | false =>
          obtain ⟨hanswer, hsame⟩ := sameFor_after s hc
          rw [List.filter_cons_of_neg (by simp [hc]), Store.answersTo, hanswer, Option.toList_none,
            List.nil_append, SameFor.answersTo calls (hsame.symm.trans h)]

/-! ## What is refused -/

/-- What a call says of whether the store fails. -/
def Call.failing? : Call → Option Bool
  | .setFailing failing => some failing
  | .ask .. => none

/-- Whether a store that worked at first fails after some calls: what was said last holds. -/
def failingAfter (calls : List Call) : Bool :=
  (calls.filterMap Call.failing?).getLast?.getD false

/-- Whether some calls have created a channel, under any spelling of its name. -/
def Created (calls : List Call) (network : NetworkId) (name : String) : Prop :=
  ∃ before spelling, before ++ [.ask network (.write (.upsertChannel spelling))] <+: calls ∧
    failingAfter before = false ∧ fold spelling = fold name

/-- What is refused after some calls, and why. -/
inductive Refused (calls : List Call) (network : NetworkId) : Request → StoreError → Prop where
  | failing (request : Request) (h : failingAfter calls = true)
      (hr : request.needsWorking = true) : Refused calls network request .unavailable
  | unknown (w : Write) (name : String) (h : failingAfter calls = false)
      (hw : w.updates? = some name) (hc : ¬ Created calls network name) :
      Refused calls network (.write w) (.noSuchChannel name)

theorem failingAfter_concat (calls : List Call) (call : Call) :
    failingAfter (calls ++ [call]) = call.failing?.getD (failingAfter calls) := by
  unfold failingAfter
  cases call with
  | setFailing failing => simp [Call.failing?]
  | ask network request => simp [Call.failing?]

theorem created_concat (calls : List Call) (call : Call) (network : NetworkId) (name : String) :
    Created (calls ++ [call]) network name ↔ Created calls network name ∨
      failingAfter calls = false ∧ ∃ spelling,
        call = .ask network (.write (.upsertChannel spelling)) ∧ fold spelling = fold name := by
  unfold Created
  simp only [List.prefix_concat_iff]
  constructor
  · rintro ⟨before, spelling, he | hp, hf, hs⟩
    · obtain ⟨rfl, hcall⟩ := List.append_inj' he rfl
      exact .inr ⟨hf, spelling, (List.singleton_inj.mp hcall).symm, hs⟩
    · exact .inl ⟨before, spelling, hp, hf, hs⟩
  · rintro (⟨before, spelling, hp, hf, hs⟩ | ⟨hf, spelling, rfl, hs⟩)
    · exact ⟨before, spelling, .inr hp, hf, hs⟩
    · exact ⟨calls, spelling, .inl rfl, hf, hs⟩

/-- What the calls so far tell of a store. -/
structure Follows (calls : List Call) (s : Store) : Prop where
  failing : s.failing = failingAfter calls
  channels : ∀ network name, (s.channel? network name).isSome = true ↔ Created calls network name

theorem follows_empty : Follows [] empty where
  failing := rfl
  channels := by
    intro network name
    refine iff_of_false (by simp [channel?, Store.shelf, empty]) ?_
    rintro ⟨before, spelling, hp, -, -⟩
    exact absurd (List.prefix_nil.mp hp) (by simp)

/-- A write creates the channel that it is to create, unless the store fails. Nothing else that is
asked for creates a channel or drops one. -/
theorem isSome_channel?_serve (s : Store) (network other : NetworkId) (request : Request)
    (name : String) :
    ((s.serve other request).2.channel? network name).isSome = true ↔
      (s.channel? network name).isSome = true ∨ s.failing = false ∧ ∃ spelling,
        Call.ask other request = .ask network (.write (.upsertChannel spelling)) ∧
          fold spelling = fold name := by
  rcases serve_cases s other request with
    ⟨w, shelf, s', rfl, hf, hw, hserve, hs⟩ | ⟨hs, hrefused⟩
  · rw [hserve, channel?, channel?]
    by_cases hne : other = network
    · subst hne
      rw [hs.shelf, Write.isSome_onShelf hw]
      simp [hf]
    · rw [hs.others network hne]
      refine (or_iff_left ?_).symm
      rintro ⟨-, spelling, hcall, -⟩
      exact hne (Call.ask.inj hcall).1
  · rw [hs]
    refine (or_iff_left ?_).symm
    rintro ⟨hf, spelling, hcall, -⟩
    obtain ⟨e, he⟩ := hrefused _ (Call.ask.inj hcall).2 hf
    -- to create a channel is refused by no shelf
    cases he

/-- **What a store holds can be told from the calls so far.** -/
theorem Follows.after {calls : List Call} (h : Follows calls s) (call : Call) :
    Follows (calls ++ [call]) (s.after call) := by
  refine ⟨?_, fun network name => ?_⟩
  · rw [failingAfter_concat, ← h.failing]
    cases call with
    | setFailing failing => rfl
    | ask network request => exact failing_serve s network request
  · rw [created_concat, ← h.channels, ← h.failing]
    cases call with
    | setFailing failing =>
        refine (or_iff_left ?_).symm
        rintro ⟨-, spelling, hcall, -⟩
        cases hcall
    | ask other request => exact isSome_channel?_serve s network other request name

theorem Follows.afterAll : ∀ (calls : List Call) {before : List Call} {s : Store},
    Follows before s → Follows (before ++ calls) (s.afterAll calls)
  | [], before, s, h => by rwa [List.append_nil]
  | call :: calls, before, s, h => by
      have hrest := Follows.afterAll calls (h.after call)
      rwa [List.append_assoc] at hrest

/-- A store that works refuses those writes that are refused for what is on the shelf. -/
theorem refusal?_write (hf : s.failing = false) (network : NetworkId) (w : Write)
    (e : StoreError) :
    (s.serve network (.write w)).1.refusal? = some e ↔ w.onShelf (s.shelf network) = .error e := by
  cases hw : w.onShelf (s.shelf network) with
  | ok shelf =>
      obtain ⟨s', hserve, -⟩ := serve_of_onShelf_ok hf hw
      rw [hserve]
      exact iff_of_false (by simp [Answer.refusal?]) (by simp)
  | error e' =>
      rw [serve_of_onShelf_error hf hw, Answer.refusal?, Option.some_inj, Except.error.injEq]

/-- A store refuses exactly what the calls so far have it refuse. -/
theorem Follows.refused_iff {calls : List Call} (h : Follows calls s) (network : NetworkId)
    (request : Request) (e : StoreError) :
    (s.serve network request).1.refusal? = some e ↔ Refused calls network request e := by
  cases hf : s.failing with
  | true =>
      have hcalls : failingAfter calls = true := h.failing ▸ hf
      -- a store that fails refuses whatever needs one that works, whatever it is about
      have hrefused : Refused calls network request e ↔
          request.needsWorking = true ∧ e = .unavailable := by
        constructor
        · intro hr
          cases hr with
          | failing _ _ hneeds => exact ⟨hneeds, rfl⟩
          | unknown _ _ hworks =>
              rw [hcalls] at hworks
              cases hworks
        · rintro ⟨hr, rfl⟩
          exact .failing request hcalls hr
      rw [hrefused]
      cases request with
      | write w =>
          rw [serve_of_failing hf]
          simp [Answer.refusal?, Request.needsWorking, eq_comm]
      | channels => simp [serve, Store.channels, hf, Answer.refusal?, Request.needsWorking, eq_comm]
      | channel name => simp [serve, Answer.refusal?, Request.needsWorking]
      | members name => simp [serve, Answer.refusal?, Request.needsWorking]
  | false =>
      have hcalls : failingAfter calls = false := h.failing ▸ hf
      -- a store that works refuses writes only, and those for a channel that it does not know
      have hnone : ∀ {request}, (∀ w, request ≠ .write w) →
          ¬ Refused calls network request e := by
        intro request hne hr
        cases hr with
        | failing _ hfails =>
            rw [hcalls] at hfails
            cases hfails
        | unknown w => exact hne w rfl
      cases request with
      | write w =>
          rw [refusal?_write hf, Write.onShelf_eq_error_iff]
          constructor
          · rintro ⟨name, hw, hc, rfl⟩
            exact .unknown w name hcalls hw fun hcreated =>
              hc ((h.channels network name).mpr hcreated)
          · intro hr
            cases hr with
            | failing _ hfails =>
                rw [hcalls] at hfails
                cases hfails
            | unknown _ name _ hw hc =>
                exact ⟨name, hw, fun hs => hc ((h.channels network name).mp hs), rfl⟩
      | channels =>
          refine iff_of_false ?_ (hnone nofun)
          simp [serve, Store.channels, hf, Answer.refusal?]
      | channel name => exact iff_of_false (by simp [serve, Answer.refusal?]) (hnone nofun)
      | members name => exact iff_of_false (by simp [serve, Answer.refusal?]) (hnone nofun)

/--
**Networks that share a store are strangers.** Whatever was asked of a store, in the name of
whichever networks, and however often it failed and recovered: a request that is refused leaves
the store as it was; what is refused is every request that needs the store to work, while it
fails, and an update of a channel that the network has not created, while it works; and a network
is answered as if the others had asked nothing.
-/
theorem networks_isolated (calls : List Call) (network : NetworkId) :
    let s := empty.afterAll calls
    (∀ request e, (s.serve network request).1.refusal? = some e →
      (s.serve network request).2 = s) ∧
    (∀ request e, (s.serve network request).1.refusal? = some e ↔
      Refused calls network request e) ∧
    answersTo network empty calls =
      answersTo network empty (calls.filter (·.concerns network)) := by
  intro s
  have h : Follows calls s := follows_empty.afterAll calls
  refine ⟨fun request e he => ?_, h.refused_iff network,
    SameFor.answersTo calls (.refl network empty)⟩
  rcases serve_cases s network request with ⟨w, shelf, s', -, -, -, hserve, -⟩ | ⟨hs, -⟩
  · rw [hserve] at he
    cases he
  · exact hs

end Store

end IrcClient
