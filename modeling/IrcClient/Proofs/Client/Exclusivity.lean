import IrcClient.Proofs.Client.Moves

/-!
# One session for each network

Attempts to connect, readers and disconnects all change the registry, and none of them
knows of the others. The registry nevertheless lets at most one of them have a network,
because the following hold whatever happens (`Exclusive`):

* at most one attempt holds a network, and the network is marked as connecting as long as
  one does;
* the session that an attempt binds is one of the attempt's own network;
* an active session stands in the registry, or the attempt that binds it holds its network.

That two active sessions cannot be of one network follows: a network that is marked is not
taken by a session as well. Most moves are `Quiet`: they leave the marks alone and at most
put an end to a session's activity. The rest are one lemma each.
-/

namespace IrcClient.Client

variable {c c' : Client}

/-- An attempt for a network is going on. -/
def Holds (c : Client) (a : AttemptId) (n : NetworkId) : Prop :=
  ∃ p, c.progress? a = some (n, p) ∧ p.isOpen = true

/-- An attempt for a network has led to a session, which is on its way into the registry. -/
def Binds (c : Client) (a : AttemptId) (sid : SessionId) (n : NetworkId) : Prop :=
  c.progress? a = some (n, .binding sid)

/-- A session of a network counts as connected, and no disconnect has taken it out. -/
def Active (c : Client) (sid : SessionId) (n : NetworkId) : Prop :=
  c.standing? sid = some (n, true)

theorem Binds.holds {a : AttemptId} {sid : SessionId} {n : NetworkId} (h : c.Binds a sid n) :
    c.Holds a n :=
  ⟨.binding sid, h, rfl⟩

/-! ## The invariant -/

/-- No two attempts hold one network. -/
def HolderUnique (c : Client) : Prop :=
  ∀ a b n, c.Holds a n → c.Holds b n → a = b

/-- A network is marked as long as an attempt holds it. -/
def MarkedIffHeld (c : Client) : Prop :=
  ∀ n, c.registry.get? n = some .connecting ↔ ∃ a, c.Holds a n

/-- The session that an attempt binds is of the attempt's network. -/
def BoundSessions (c : Client) : Prop :=
  ∀ a sid n, c.Binds a sid n → ∃ active, c.standing? sid = some (n, active)

/-- An active session stands in the registry, or is being bound. -/
def ActivePlaced (c : Client) : Prop :=
  ∀ sid n, c.Active sid n →
    c.registry.get? n = some (.live sid) ∨ ∃ a, c.Binds a sid n

/-- What holds of the registry at any time. -/
structure Exclusive (c : Client) : Prop where
  /-- No two attempts hold one network. -/
  unique : HolderUnique c
  /-- Marks and attempts belong together. -/
  marked : MarkedIffHeld c
  /-- Attempts bind sessions of their own networks. -/
  bound : BoundSessions c
  /-- Every active session has its place. -/
  placed : ActivePlaced c

theorem exclusive_init (settings : Settings) (date nonce : String) (store : Store) :
    Exclusive (Client.new settings date nonce store) where
  unique := by rintro a b n ⟨p, h, _⟩; simp [progress?, attempt?, Client.new] at h
  marked := by
    intro n
    constructor
    · intro h
      simp [Client.new] at h
    · rintro ⟨a, p, h, _⟩
      simp [progress?, attempt?, Client.new] at h
  bound := by intro a sid n h; simp [Binds, progress?, attempt?, Client.new] at h
  placed := by intro sid n h; simp [Active, standing?, session?, Client.new] at h

/-- A network that is held is marked, so no session stands in the registry for it. -/
theorem Exclusive.not_live (h : Exclusive c) {a : AttemptId} {n : NetworkId}
    (ha : c.Holds a n) (sid : SessionId) : c.registry.get? n ≠ some (.live sid) := by
  rw [(h.marked n).mpr ⟨a, ha⟩]
  simp

/-- **No two sessions of one network are active.** -/
theorem Exclusive.active_unique (h : Exclusive c) {s t : SessionId} {n : NetworkId}
    (hs : c.Active s n) (ht : c.Active t n) : s = t := by
  rcases h.placed s n hs with hls | ⟨a, ha⟩
  · rcases h.placed t n ht with hlt | ⟨b, hb⟩
    · rw [hls] at hlt
      exact Slot.live.inj (Option.some.inj hlt)
    · exact absurd hls (h.not_live hb.holds s)
  · rcases h.placed t n ht with hlt | ⟨b, hb⟩
    · exact absurd hlt (h.not_live ha.holds t)
    · obtain rfl := h.unique a b n ha.holds hb.holds
      have : some (n, Phase.binding s) = some (n, .binding t) := ha.symm.trans hb
      simpa using this

/-! ## Quiet changes -/

/-- The marks and the attempts stay, and no session becomes active. -/
structure Quiet (c c' : Client) : Prop where
  registry : c'.registry = c.registry
  progress : ∀ a, c'.progress? a = c.progress? a
  /-- Every session stays with its network. -/
  network : ∀ sid n active, c.standing? sid = some (n, active) →
    ∃ active', c'.standing? sid = some (n, active')
  active : ∀ sid n, c'.Active sid n → c.Active sid n

namespace Quiet

theorem refl (c : Client) : Quiet c c :=
  ⟨rfl, fun _ => rfl, fun _ _ active h => ⟨active, h⟩, fun _ _ h => h⟩

theorem holds (h : Quiet c c') (a : AttemptId) (n : NetworkId) :
    c'.Holds a n ↔ c.Holds a n := by
  rw [Holds, Holds, h.progress]

theorem binds (h : Quiet c c') (a : AttemptId) (sid : SessionId) (n : NetworkId) :
    c'.Binds a sid n ↔ c.Binds a sid n := by
  rw [Binds, Binds, h.progress]

end Quiet

theorem Exclusive.quiet (h : Exclusive c) (q : Quiet c c') : Exclusive c' where
  unique := by
    intro a b n ha hb
    exact h.unique a b n ((q.holds a n).mp ha) ((q.holds b n).mp hb)
  marked := by
    intro n
    rw [q.registry, h.marked n]
    exact exists_congr fun a => (q.holds a n).symm
  bound := by
    intro a sid n hb
    obtain ⟨active, hs⟩ := h.bound a sid n ((q.binds a sid n).mp hb)
    exact q.network sid n active hs
  placed := by
    intro sid n hs
    rw [q.registry]
    rcases h.placed sid n (q.active sid n hs) with hl | ⟨a, ha⟩
    · exact .inl hl
    · exact .inr ⟨a, (q.binds a sid n).mpr ha⟩

/-- A change of a session that neither gives it away nor makes it active. -/
theorem quiet_setSession {sid : SessionId} {s s' : Session} (h : c.session? sid = some s)
    (hid : s'.identity = s.identity) (hact : s'.isActive = true → s.isActive = true) :
    Quiet c (c.setSession sid s') where
  registry := rfl
  progress := fun _ => rfl
  network := by
    intro t n active ht
    rw [standing?_setSession h]
    split
    · rename_i hts
      rw [hts, standing?_of_session? h] at ht
      exact ⟨s'.isActive, by rw [hid, (Prod.mk.inj (Option.some.inj ht)).1]⟩
    · exact ⟨active, ht⟩
  active := by
    intro t n ht
    rw [Active, standing?_setSession h] at ht
    split at ht
    · rename_i hts
      obtain ⟨hn, ha⟩ := Prod.mk.inj (Option.some.inj ht)
      rw [Active, hts, standing?_of_session? h, ← hid, hn, hact ha]
    · exact ht

theorem quiet_updateSession (sid : SessionId) {f : Session → Session × Effects}
    (hf : ∀ s, (f s).1.identity = s.identity ∧ ((f s).1.isActive = true → s.isActive = true)) :
    Quiet c (c.updateSession sid f) := by
  cases h : c.session? sid with
  | none =>
    rw [updateSession_none h]
    exact .refl c
  | some s =>
    have q := quiet_setSession h (hf s).1 (hf s).2
    rw [updateSession_some h]
    exact ⟨q.registry, q.progress, q.network, q.active⟩

/-- What leaves every session where it stands is quiet. -/
theorem quiet_of_sameStanding (sid : SessionId) {f : Session → Session × Effects}
    (hf : ∀ s : Session, s.SameStanding (f s).1) : Quiet c (c.updateSession sid f) :=
  quiet_updateSession sid fun s =>
    ⟨(hf s).identity, fun ha => by rwa [Session.isActive_of_sameStanding (hf s)] at ha⟩

/-- A session that goes on where it has come to its turn, and stays connected or ends. -/
theorem quiet_advance (sid : SessionId) (old new : Stage) {f : Session → Session × Effects}
    (hnew : new.isConnected = true → old.isConnected = true)
    (hf : ∀ s, (s.stage = old ∧ (f s).1.identity = s.identity ∧
      (f s).1.stage = new ∧ (f s).1.dismissed = s.dismissed) ∨ (f s).1 = s) :
    Quiet c (c.updateSession sid f) := by
  refine quiet_updateSession sid fun s => ?_
  rcases hf s with ⟨ho, hi, hn, hd⟩ | he
  · refine ⟨hi, fun ha => ?_⟩
    rw [Session.isActive, Session.isConnected, hn, hd, Bool.and_eq_true] at ha
    rw [Session.isActive, Session.isConnected, ho, hnew ha.1, ha.2]
    rfl
  · rw [he]
    exact ⟨rfl, id⟩

theorem quiet_endpointFails (a : AttemptId) (error : LinkError) :
    Quiet c (c.endpointFails a error) := by
  rcases endpointFails_cases c a error with he | ⟨x, y, e, hx, hid, hp, he⟩
  · rw [he]
    exact .refl c
  rw [he]
  refine ⟨rfl, fun b => ?_, fun _ _ active hs => ⟨active, hs⟩, fun _ _ hs => hs⟩
  rw [progress?_carryOut, progress?_setAttempt hx]
  split
  · rename_i hb
    rw [hb, progress?_of_attempt? hx, hid, hp]
  · rfl

theorem quiet_announce (sid : SessionId) : Quiet c (c.announce sid) := by
  refine quiet_advance sid .installed .reading (fun _ => rfl) fun s => ?_
  split
  · rename_i h
    exact .inl ⟨h, rfl, rfl, rfl⟩
  · exact .inr rfl

theorem quiet_endReading (sid : SessionId) : Quiet c (c.endReading sid) := by
  refine quiet_advance sid .reading .lost (fun _ => rfl) fun s => ?_
  split
  · rename_i h
    exact .inl ⟨h, rfl, rfl, rfl⟩
  · exact .inr rfl

theorem quiet_reportLoss (sid : SessionId) : Quiet c (c.reportLoss sid) := by
  refine quiet_advance sid .lost .reported id fun s => ?_
  split
  · rename_i h
    exact .inl ⟨h, rfl, rfl, rfl⟩
  · exact .inr rfl

theorem quiet_handleInbox (sid : SessionId) : Quiet c (c.handleInbox sid) := by
  refine quiet_of_sameStanding sid fun s => ?_
  split
  · exact Session.sameStanding_handleInbox _ s
  · exact .refl s

/-! ## The registry changes -/

/-- A session that is not active may leave its place. -/
theorem Exclusive.vacate (h : Exclusive c) {n : NetworkId} {sid : SessionId}
    (hl : c.registry.get? n = some (.live sid)) (hs : ∀ m, ¬ c.Active sid m) :
    Exclusive { c with registry := c.registry.erase n } where
  unique := h.unique
  marked := by
    intro m
    rw [Table.get?_erase]
    split
    · rename_i hm
      subst hm
      constructor
      · intro hc
        exact absurd hc (by simp)
      · rintro ⟨a, ha⟩
        exact absurd hl (h.not_live ha sid)
    · exact h.marked m
  bound := h.bound
  placed := by
    intro t m ht
    rcases h.placed t m ht with hlt | hb
    · left
      rw [Table.get?_erase, if_neg, hlt]
      -- the place that is given up was that of a session which is not active
      rintro rfl
      rw [hl] at hlt
      obtain rfl := Slot.live.inj (Option.some.inj hlt)
      exact hs n ht
    · exact .inr hb

/-- Where an attempt holds a network, no session of it is active but the one that it binds. -/
theorem Exclusive.binds_of_active (h : Exclusive c) {a : AttemptId} {sid : SessionId}
    {n : NetworkId} (ha : c.Holds a n) (hs : c.Active sid n) : c.Binds a sid n := by
  rcases h.placed sid n hs with hl | ⟨b, hb⟩
  · exact absurd hl (h.not_live ha sid)
  · rw [h.unique a b n ha hb.holds]
    exact hb

/-- An attempt has its turn: it moves on itself, and changes nothing beyond its network. -/
structure Turn (c c' : Client) (a : AttemptId) (n : NetworkId) (p : Phase) : Prop where
  /-- It is at another phase now, and all others are where they were. -/
  progress : ∀ b, c'.progress? b = if b = a then some (n, p) else c.progress? b
  registry : ∀ m, m ≠ n → c'.registry.get? m = c.registry.get? m
  /-- Its network is marked if it goes on. -/
  marked : c'.registry.get? n = some .connecting ↔ p.isOpen = true
  network : ∀ sid m active, c.standing? sid = some (m, active) →
    ∃ active', c'.standing? sid = some (m, active')
  /-- What it binds is a session of its network. -/
  bound : ∀ sid, p = .binding sid → ∃ active, c'.standing? sid = some (n, active)
  active : ∀ sid m, m ≠ n → c'.Active sid m → c.Active sid m
  placed : ∀ sid, c'.Active sid n → c'.registry.get? n = some (.live sid) ∨ p = .binding sid

namespace Turn

variable {a : AttemptId} {n : NetworkId} {p : Phase}

theorem holds_self (t : Turn c c' a n p) {m : NetworkId} :
    c'.Holds a m ↔ m = n ∧ p.isOpen = true := by
  rw [Holds, t.progress, if_pos rfl]
  constructor
  · rintro ⟨q, hq, ho⟩
    obtain ⟨rfl, rfl⟩ := Prod.mk.inj (Option.some.inj hq)
    exact ⟨rfl, ho⟩
  · rintro ⟨rfl, ho⟩
    exact ⟨p, rfl, ho⟩

theorem holds_of_ne (t : Turn c c' a n p) {b : AttemptId} (hb : b ≠ a) {m : NetworkId} :
    c'.Holds b m ↔ c.Holds b m := by
  rw [Holds, t.progress, if_neg hb, Holds]

theorem binds_of_ne (t : Turn c c' a n p) {b : AttemptId} (hb : b ≠ a) {sid : SessionId}
    {m : NetworkId} : c'.Binds b sid m ↔ c.Binds b sid m := by
  rw [Binds, t.progress, if_neg hb, Binds]

/-- Networks other than the attempt's are held as before. -/
theorem holds_other (t : Turn c c' a n p) (own : ∀ m, c.Holds a m → m = n) {m : NetworkId}
    (hm : m ≠ n) (b : AttemptId) : c'.Holds b m ↔ c.Holds b m := by
  by_cases hba : b = a
  · subst hba
    exact iff_of_false (fun hb => hm (t.holds_self.mp hb).1) (fun hb => hm (own m hb))
  · exact t.holds_of_ne hba

/-- Whoever holds the network after the turn is the attempt whose turn it was. -/
theorem eq_of_holds (t : Turn c c' a n p) (alone : ∀ b, c.Holds b n → b = a)
    {b : AttemptId} (hb : c'.Holds b n) : b = a := by
  by_cases hba : b = a
  · exact hba
  · exact alone b ((t.holds_of_ne hba).mp hb)

end Turn

/-- A turn is safe where no other attempt holds the network, and the attempt holds no other. -/
theorem Exclusive.turn (h : Exclusive c) {a : AttemptId} {n : NetworkId} {p : Phase}
    (alone : ∀ b, c.Holds b n → b = a) (own : ∀ m, c.Holds a m → m = n)
    (t : Turn c c' a n p) : Exclusive c' where
  unique := by
    intro b b' m hb hb'
    by_cases hm : m = n
    · subst hm
      rw [t.eq_of_holds alone hb, t.eq_of_holds alone hb']
    · exact h.unique b b' m ((t.holds_other own hm b).mp hb) ((t.holds_other own hm b').mp hb')
  marked := by
    intro m
    by_cases hm : m = n
    · subst hm
      rw [t.marked]
      -- the network itself is marked by this attempt or not at all
      constructor
      · intro ho
        exact ⟨a, t.holds_self.mpr ⟨rfl, ho⟩⟩
      · rintro ⟨b, hb⟩
        rw [t.eq_of_holds alone hb] at hb
        exact (t.holds_self.mp hb).2
    · rw [t.registry m hm, h.marked m]
      exact exists_congr fun b => (t.holds_other own hm b).symm
  bound := by
    intro b sid m hb
    by_cases hba : b = a
    · subst hba
      rw [Binds, t.progress, if_pos rfl] at hb
      obtain ⟨rfl, hp⟩ := Prod.mk.inj (Option.some.inj hb)
      exact t.bound sid hp
    · obtain ⟨active, hs⟩ := h.bound b sid m ((t.binds_of_ne hba).mp hb)
      exact t.network sid m active hs
  placed := by
    intro sid m hs
    by_cases hm : m = n
    · subst hm
      rcases t.placed sid hs with hl | hp
      · exact .inl hl
      · right
        exact ⟨a, by rw [Binds, t.progress, if_pos rfl, hp]⟩
    · rcases h.placed sid m (t.active sid m hm hs) with hl | ⟨b, hb⟩
      · left
        rw [t.registry m hm, hl]
      · -- the attempt that binds this session is another one, for it holds another network
        have hba : b ≠ a := by
          rintro rfl
          exact hm (own m hb.holds)
        exact .inr ⟨b, (t.binds_of_ne hba).mpr hb⟩

/-- One session of a network changes or is new, and the others stay as they are. -/
structure Touches (c c' : Client) (sid : SessionId) (n : NetworkId) : Prop where
  self : ∃ active, c'.standing? sid = some (n, active)
  before : ∀ m active, c.standing? sid = some (m, active) → m = n
  other : ∀ t, t ≠ sid → c'.standing? t = c.standing? t

namespace Touches

variable {sid : SessionId} {n : NetworkId}

theorem network (h : Touches c c' sid n) (t : SessionId) (m : NetworkId) (active : Bool)
    (ht : c.standing? t = some (m, active)) : ∃ active', c'.standing? t = some (m, active') := by
  by_cases hts : t = sid
  · subst hts
    rw [h.before m active ht]
    exact h.self
  · exact ⟨active, by rw [h.other t hts, ht]⟩

theorem active (h : Touches c c' sid n) (t : SessionId) (m : NetworkId) (hm : m ≠ n)
    (ht : c'.Active t m) : c.Active t m := by
  by_cases hts : t = sid
  · subst hts
    obtain ⟨active, hs⟩ := h.self
    rw [Active, hs] at ht
    exact absurd (Prod.mk.inj (Option.some.inj ht)).1.symm hm
  · rwa [Active, h.other t hts] at ht

end Touches

/-! ## The moves -/

/-- An attempt begins only where none holds the network and no active session has it. -/
theorem exclusive_acquire (h : Exclusive c) (identity : Identity) :
    Exclusive (c.acquire identity).1 := by
  rcases acquire_cases c identity with he | ⟨hob, he⟩
  · rw [he]
    exact h
  rw [he]
  -- an attempt would be an obstacle, and so would an active session
  have hfree : ∀ a, ¬ c.Holds a identity.id := by
    intro a ha
    rw [obstacle?, (h.marked _).mpr ⟨a, ha⟩] at hob
    exact absurd hob (by simp)
  have hidle : ∀ sid, ¬ c.Active sid identity.id := by
    intro sid hs
    rcases h.placed sid _ hs with hl | ⟨a, ha⟩
    · obtain ⟨s, hs, hsa⟩ := Option.map_eq_some_iff.mp hs
      have hcon := (Prod.mk.inj hsa).2
      rw [Session.isActive, Bool.and_eq_true] at hcon
      have hc : c.isConnected sid = true := by
        rw [isConnected, hs, Option.any_some, hcon.1]
      simp [obstacle?, hl, hc] at hob
    · exact hfree a ha.holds
  have hnew : c.progress? c.attempts.length = none := by
    rw [progress?, attempt?, List.getElem?_eq_none (Nat.le_refl _), Option.map_none]
  have own : ∀ m, c.Holds c.attempts.length m → m = identity.id := by
    rintro m ⟨p, hp, _⟩
    rw [hnew] at hp
    exact absurd hp (by simp)
  exact h.turn (p := .trying) (fun b hb => absurd hb (hfree b)) own {
    progress := progress?_concat c _ _
    registry := fun m hm => by rw [Table.get?_insert, if_neg (Ne.symm hm)]
    marked := by rw [Table.get?_insert, if_pos rfl]; exact iff_of_true rfl rfl
    network := fun sid m active hs => ⟨active, hs⟩
    bound := fun sid hp => absurd hp (by simp)
    active := fun sid m _ hs => hs
    placed := fun sid hs => absurd hs (hidle sid) }

/-- An attempt that already holds its network does so alone, and its turn is safe. -/
theorem Exclusive.turn_of_open (h : Exclusive c) {a : AttemptId} {n : NetworkId} {q p : Phase}
    (ha : c.progress? a = some (n, q)) (ho : q.isOpen = true) (t : Turn c c' a n p) :
    Exclusive c' := by
  refine h.turn (fun b hb => h.unique b a n hb ⟨q, ha, ho⟩) ?_ t
  rintro m ⟨r, hr, _⟩
  rw [ha] at hr
  exact (Prod.mk.inj (Option.some.inj hr)).1.symm

/-- As long as an attempt goes on, an active session of its network is the one that it binds. -/
theorem Exclusive.phase_of_active (h : Exclusive c) {a : AttemptId} {n : NetworkId} {q : Phase}
    {sid : SessionId} (ha : c.progress? a = some (n, q)) (ho : q.isOpen = true)
    (hs : c.Active sid n) : q = .binding sid := by
  have hb := h.binds_of_active ⟨q, ha, ho⟩ hs
  rw [Binds, ha] at hb
  exact (Prod.mk.inj (Option.some.inj hb)).2

/-- An attempt that is given up takes a mark away, which is its own. -/
theorem Exclusive.dropAttempt_cases (h : Exclusive c) (a : AttemptId) :
    c.dropAttempt a = c ∨ ∃ x, c.attempt? a = some x ∧
      c.progress? a = some (x.identity.id, .trying) ∧
      c.dropAttempt a = { c.setAttempt a { x with phase := .ended } with
        registry := c.registry.erase x.identity.id } := by
  rcases Client.dropAttempt_cases c a with he | ⟨x, hx, hp, he⟩
  · exact .inl he
  · have ha := progress?_of_attempt? hx
    rw [hp] at ha
    have hmark : (c.setAttempt a { x with phase := .ended }).registry.get? x.identity.id =
        some .connecting := (h.marked _).mpr ⟨a, .trying, ha, rfl⟩
    rw [unmark, if_pos hmark] at he
    exact .inr ⟨x, hx, ha, he⟩

theorem exclusive_dropAttempt (h : Exclusive c) (a : AttemptId) :
    Exclusive (c.dropAttempt a) := by
  rcases h.dropAttempt_cases a with he | ⟨x, hx, ha, he⟩
  · rw [he]
    exact h
  rw [he]
  exact h.turn_of_open (p := .ended) ha rfl {
    progress := progress?_setAttempt hx _
    registry := fun m hm => by rw [Table.get?_erase, if_neg (Ne.symm hm)]
    marked := by rw [Table.get?_erase, if_pos rfl]; simp [Phase.isOpen]
    network := fun sid m active hs => ⟨active, hs⟩
    bound := fun sid hb => absurd hb (by simp)
    active := fun sid m _ hs => hs
    placed := fun sid hs => absurd (h.phase_of_active ha rfl hs) (by simp) }

/-- The session that is opened is one that its attempt binds. -/
theorem exclusive_openSession (h : Exclusive c) (a : AttemptId) :
    Exclusive (c.openSession a) := by
  rcases openSession_cases c a with he | ⟨x, e, records, hx, hp, he⟩
  · rw [he]
    exact h
  have ha := progress?_of_attempt? hx
  rw [hp] at ha
  have hstand : ∀ sid, (c.openSession a).standing? sid =
      if sid = c.sessions.length then some (x.identity.id, true) else c.standing? sid := by
    intro sid
    obtain ⟨link, hstart⟩ := Session.start_eq x.identity e records c.nonce
    rw [he, hstart]
    exact standing?_concat _ _ sid
  -- a number that no session had is the only one that is touched
  have touch : Touches c (c.openSession a) c.sessions.length x.identity.id := by
    refine ⟨⟨true, by rw [hstand, if_pos rfl]⟩, fun m active hs => ?_, fun t ht => ?_⟩
    · rw [standing?, session?, List.getElem?_eq_none (Nat.le_refl _)] at hs
      exact absurd hs (by simp)
    · rw [hstand, if_neg ht]
  exact h.turn_of_open (p := .binding c.sessions.length) ha rfl {
    progress := fun b => by rw [he]; exact progress?_setAttempt hx _ b
    registry := fun m hm => by rw [he]; rfl
    marked := by
      rw [he]
      exact iff_of_true ((h.marked _).mpr ⟨a, .trying, ha, rfl⟩) rfl
    network := touch.network
    bound := by
      rintro sid hb
      rw [← Phase.binding.inj hb]
      exact touch.self
    active := touch.active
    placed := by
      intro sid hs
      right
      by_cases hsid : sid = c.sessions.length
      · rw [hsid]
      · rw [Active, touch.other sid hsid] at hs
        -- an active session of the network would mean that the attempt binds it already
        exact absurd (h.phase_of_active ha rfl hs) (by simp) }

/-- The session that an attempt binds takes the place that the attempt has marked. -/
theorem exclusive_install (h : Exclusive c) (a : AttemptId) : Exclusive (c.install a) := by
  rcases install_cases c a with he | ⟨x, sid, hx, hp, he⟩
  · rw [he]
    exact h
  have ha := progress?_of_attempt? hx
  rw [hp] at ha
  have hreg : (c.install a).registry = c.registry.insert x.identity.id (.live sid) := by rw [he]
  obtain ⟨active₀, hs₀⟩ := h.bound a sid x.identity.id ha
  have hstand : ∀ t, (c.install a).standing? t =
      (c.updateSession sid fun s => ({ s with stage := .installed }, .none)).standing? t := by
    intro t
    rw [he]
    rfl
  -- the session has been there since it was opened, and only its stage changes
  have touch : Touches c (c.install a) sid x.identity.id := by
    refine ⟨?_, fun m active hs => ?_, fun t ht => ?_⟩
    · obtain ⟨s, hs, hse⟩ := Option.map_eq_some_iff.mp hs₀
      rw [hstand, standing?_updateSession, if_pos rfl, hs, Option.map_some,
        ← (Prod.mk.inj hse).1]
      exact ⟨_, rfl⟩
    · rw [hs₀] at hs
      exact (Prod.mk.inj (Option.some.inj hs)).1.symm
    · rw [hstand, standing?_updateSession, if_neg ht]
  exact h.turn_of_open (p := .bound sid) ha rfl {
    progress := by
      intro b
      rw [he]
      exact progress?_setAttempt_updateSession hx _ _ _ b
    registry := fun m hm => by rw [hreg, Table.get?_insert, if_neg (Ne.symm hm)]
    marked := by rw [hreg, Table.get?_insert, if_pos rfl]; simp [Phase.isOpen]
    network := touch.network
    bound := fun t hb => absurd hb (by simp)
    active := touch.active
    placed := by
      intro t hs
      left
      by_cases ht : t = sid
      · rw [hreg, Table.get?_insert, if_pos rfl, ht]
      · -- another active session would have to be the one that the attempt binds
        rw [Active, touch.other t ht] at hs
        exact absurd (Phase.binding.inj (h.phase_of_active ha rfl hs)).symm ht }

/-- A disconnect takes out a session, which is not active from then on. -/
theorem exclusive_dismiss (h : Exclusive c) (n : NetworkId) : Exclusive (c.dismiss n).1 := by
  rcases dismiss_cases c n with ⟨e, he⟩ | ⟨sid, hl, he⟩
  · rw [he]
    exact h
  rw [he]
  have q : Quiet c (c.updateSession sid fun s => ({ s with dismissed := true }, .none)) := by
    refine quiet_updateSession sid fun s => ⟨rfl, fun ha => ?_⟩
    simp [Session.isActive] at ha
  have hs : ∀ m,
      ¬ Active (c.updateSession sid fun s => ({ s with dismissed := true }, .none)) sid m := by
    intro m hs
    rw [Active, standing?_updateSession, if_pos rfl] at hs
    obtain ⟨s, -, hse⟩ := Option.map_eq_some_iff.mp hs
    simp [Session.isActive] at hse
  rw [← q.registry] at hl ⊢
  exact (h.quiet q).vacate hl hs

/-- A session that has ended leaves the registry only where it stands there itself. -/
theorem exclusive_release (h : Exclusive c) (sid : SessionId) : Exclusive (c.release sid) := by
  rcases release_cases c sid with he | ⟨s, hs, hstage, he⟩
  · rw [he]
    exact h
  have q : Quiet c (c.setSession sid { s with stage := .gone }) := by
    refine quiet_setSession hs rfl fun ha => ?_
    simp [Session.isActive, Session.isConnected, Stage.isConnected] at ha
  rw [he]
  split
  · rename_i hl
    refine (h.quiet q).vacate (n := s.identity.id) (find?_eq_some_iff.mp hl) fun m hm => ?_
    rw [Active, standing?_setSession hs, if_pos rfl] at hm
    simp [Session.isActive, Session.isConnected, Stage.isConnected] at hm
  · exact h.quiet q

/-- **Every move keeps the registry in order.** -/
theorem exclusive_move (h : Exclusive c) (m : Move) : Exclusive (c.move m) := by
  cases m with
  | acquire identity => exact exclusive_acquire h identity
  | endpointFails a error => exact h.quiet (quiet_endpointFails a error)
  | dropAttempt a => exact exclusive_dropAttempt h a
  | openSession a => exact exclusive_openSession h a
  | install a => exact exclusive_install h a
  | announce sid => exact h.quiet (quiet_announce sid)
  | dismiss n => exact exclusive_dismiss h n
  | tearDown sid reason =>
    exact h.quiet (quiet_of_sameStanding sid fun s => s.sameStanding_tearDown reason)
  | handleInbox sid => exact h.quiet (quiet_handleInbox sid)
  | call sid call => exact h.quiet (quiet_of_sameStanding sid fun s => s.sameStanding_call call)
  | endReading sid => exact h.quiet (quiet_endReading sid)
  | reportLoss sid => exact h.quiet (quiet_reportLoss sid)
  | release sid => exact exclusive_release h sid

theorem exclusive_run (h : Exclusive c) (moves : List Move) : Exclusive (c.run moves) := by
  induction moves generalizing c with
  | nil => exact h
  | cons m moves ih => exact ih (exclusive_move h m)

/-! ## Who may empty a place -/

/-- Giving an attempt up empties no place but the one that the attempt has marked. -/
theorem Exclusive.registry_dropAttempt (h : Exclusive c) (a : AttemptId) {n : NetworkId}
    {slot : Slot} (hn : c.registry.get? n = some slot) :
    (c.dropAttempt a).registry.get? n = some slot ∨ slot = .connecting ∧ c.Holds a n := by
  rcases h.dropAttempt_cases a with he | ⟨x, hx, ha, he⟩
  · rw [he]
    exact .inl hn
  rw [he]
  dsimp only
  rw [Table.get?_erase]
  by_cases hx : x.identity.id = n
  · right
    subst hx
    have hh : c.Holds a x.identity.id := ⟨.trying, ha, rfl⟩
    rw [(h.marked _).mpr ⟨a, hh⟩] at hn
    exact ⟨(Option.some.inj hn).symm, hh⟩
  · left
    rw [if_neg hx, hn]

/-- A session that leaves the registry empties no place but its own. -/
theorem registry_release (sid : SessionId) {n : NetworkId} {slot : Slot}
    (hn : c.registry.get? n = some slot) :
    (c.release sid).registry.get? n = some slot ∨ slot = .live sid := by
  rcases release_cases c sid with he | ⟨s, hs, hstage, he⟩
  · rw [he]
    exact .inl hn
  rw [he]
  split
  · rename_i hl
    dsimp only
    rw [Table.get?_erase]
    by_cases hs : s.identity.id = n
    · right
      rw [hs, find?_eq_some_iff, hn] at hl
      exact Option.some.inj hl
    · left
      rw [if_neg hs, hn]
  · exact .inl hn

/-- A disconnect that is refused does nothing. -/
theorem disconnect_of_error {n : NetworkId} {reason : Option String} {e : DisconnectError}
    (h : (c.disconnect n reason).2 = .error e) : (c.disconnect n reason).1 = c := by
  unfold disconnect at h ⊢
  rcases dismiss_cases c n with ⟨e', he⟩ | ⟨sid, _, he⟩
  · rw [he]
  · rw [he] at h
    exact absurd h (by simp)

/--
**The registry gives a network to one party at a time.** After any moves whatever, at most
one attempt holds a network, which is marked as long as one does. At most one session of a
network is active; it stands in the registry, or the attempt that holds the network is
about to put it there. An attempt that is given up and a session that has ended empty no
place but their own, and a disconnect that is refused changes nothing.
-/
theorem registry_exclusive (settings : Settings) (date nonce : String) (store : Store)
    (moves : List Move) :
    let c := (Client.new settings date nonce store).run moves
    (∀ n a b, c.Holds a n → c.Holds b n → a = b) ∧
    (∀ n, c.registry.get? n = some .connecting ↔ ∃ a, c.Holds a n) ∧
    (∀ n s t, c.Active s n → c.Active t n → s = t) ∧
    (∀ n s, c.Active s n →
      c.registry.get? n = some (.live s) ∨ ∃ a, c.Holds a n ∧ c.Binds a s n) ∧
    (∀ a n slot, c.registry.get? n = some slot →
      (c.dropAttempt a).registry.get? n = some slot ∨ slot = .connecting ∧ c.Holds a n) ∧
    (∀ s n slot, c.registry.get? n = some slot →
      (c.release s).registry.get? n = some slot ∨ slot = .live s) ∧
    ∀ n reason e, (c.disconnect n reason).2 = .error e →
      (c.disconnect n reason).1.registry = c.registry := by
  intro c
  have h : Exclusive c := exclusive_run (exclusive_init settings date nonce store) moves
  refine ⟨fun n a b => h.unique a b n, h.marked, fun n s t => h.active_unique, ?_,
    fun a n slot => h.registry_dropAttempt a, fun s n slot => registry_release s, ?_⟩
  · intro n s hs
    rcases h.placed s n hs with hl | ⟨a, ha⟩
    · exact .inl hl
    · exact .inr ⟨a, ha.holds, ha⟩
  · intro n reason e he
    rw [disconnect_of_error he]

end IrcClient.Client
