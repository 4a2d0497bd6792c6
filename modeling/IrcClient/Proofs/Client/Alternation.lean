import IrcClient.Proofs.Client.Notices
import Mathlib.Data.List.Chain

/-!
# When notices alternate

A disconnect frees the network at once, and the reader of the session reports the loss when it
comes to it. So a session that is connected in between is announced before the loss of the one
before it is reported. Who follows a connection by its notices cannot tell the two apart then
(`reconnected_too_soon`).

It does not happen to those who wait: as long as nobody begins to connect to a network of whose
sessions there is something left to tell (`Patient`), the notices alternate, and the last one says
how things stand (`Steady`).
-/

namespace IrcClient

/-- Notices of which each says something else than the one before, and the first that a session
was established. -/
structure Alternating (notices : List Notice) : Prop where
  first : ∀ x ∈ notices.head?, x = .established
  chain : notices.IsChain (· ≠ ·)

namespace Alternating

theorem nil : Alternating [] :=
  ⟨nofun, .nil⟩

variable {notices : List Notice}

theorem concat (h : Alternating notices) {x : Notice} (hx : notices = [] → x = .established)
    (hlast : notices.getLast? ≠ some x) : Alternating (notices ++ [x]) := by
  refine ⟨fun y hy => ?_, ?_⟩
  · cases notices with
    | nil =>
      rw [← hx rfl]
      exact (Option.some.inj hy).symm
    | cons z rest => exact h.first y hy
  · rw [List.isChain_append]
    refine ⟨h.chain, .singleton x, fun y hy z hz => ?_⟩
    obtain rfl : x = z := Option.some.inj hz
    rintro rfl
    exact hlast hy

theorem established (h : Alternating notices) (hlast : notices.getLast? ≠ some .established) :
    Alternating (notices ++ [.established]) :=
  h.concat (fun _ => rfl) hlast

theorem lost (h : Alternating notices) (hlast : notices.getLast? = some .established) :
    Alternating (notices ++ [.lost]) := by
  refine h.concat (fun hnil => ?_) ?_
  · rw [hnil] at hlast
    cases hlast
  · rw [hlast]
    nofun

end Alternating

/-- Whether a session was announced, and its end has not been reported. -/
def Stage.isUp : Stage → Bool
  | reading | lost => true
  | opening | installed | reported | gone => false

/-- Whether there is something left to tell of a session. -/
def Stage.isUntold : Stage → Bool
  | opening | installed | reading | lost => true
  | reported | gone => false

theorem Stage.isUntold_of_isUp {stage : Stage} (h : stage.isUp = true) : stage.isUntold = true := by
  cases stage <;> first | rfl | cases h

theorem Stage.Next.isUntold {a b : Stage} {told : List Notice} (h : a.Next b told)
    (hb : b.isUntold = true) : a.isUntold = true := by
  cases h <;> first | rfl | cases hb

/-! ## Sessions at some stages -/

/-- A session is one of a network, and at a stage that is asked for. -/
def StandsAt (stages : List (NetworkId × Stage)) (n : NetworkId) (p : Stage → Bool)
    (sid : SessionId) : Prop :=
  ∃ stage, stages[sid]? = some (n, stage) ∧ p stage = true

section

variable {stages : List (NetworkId × Stage)} {n k : NetworkId} {p : Stage → Bool}
  {sid t : SessionId} {old new : Stage}

theorem standsAt_self (h : stages[sid]? = some (k, old)) :
    StandsAt stages n p sid ↔ k = n ∧ p old = true := by
  unfold StandsAt
  rw [h]
  constructor
  · rintro ⟨stage, he, hp⟩
    obtain ⟨hk, rfl⟩ := Prod.mk.inj (Option.some.inj he)
    exact ⟨hk, hp⟩
  · rintro ⟨rfl, hp⟩
    exact ⟨old, rfl, hp⟩

theorem standsAt_concat : StandsAt (stages ++ [(k, new)]) n p t ↔
    if t = stages.length then k = n ∧ p new = true else StandsAt stages n p t := by
  split
  · rename_i ht
    rw [ht]
    exact standsAt_self List.getElem?_concat_length
  · rename_i ht
    rw [StandsAt, Client.getElem?_concat, if_neg ht, StandsAt]

theorem standsAt_set (h : stages[sid]? = some (k, old)) :
    StandsAt (stages.set sid (k, new)) n p t ↔
      if t = sid then k = n ∧ p new = true else StandsAt stages n p t := by
  split
  · rename_i ht
    rw [ht]
    exact standsAt_self (List.getElem?_set_self (List.getElem?_eq_some_iff.mp h).1)
  · rename_i ht
    rw [StandsAt, List.getElem?_set_ne (Ne.symm ht), StandsAt]

/-- A step between two stages of which the same can be said is not noticed. -/
theorem standsAt_set_congr (h : stages[sid]? = some (k, old)) (hp : p new = p old) :
    StandsAt (stages.set sid (k, new)) n p t ↔ StandsAt stages n p t := by
  rw [standsAt_set h]
  split
  · rename_i ht
    rw [ht, standsAt_self h, hp]
  · rfl

/-- Nor is a step in another network. -/
theorem standsAt_set_of_ne (h : stages[sid]? = some (k, old)) (hk : k ≠ n) :
    StandsAt (stages.set sid (k, new)) n p t ↔ StandsAt stages n p t := by
  rw [standsAt_set h]
  split
  · rename_i ht
    rw [ht, standsAt_self h]
    exact iff_of_false (fun he => hk he.1) (fun he => hk he.1)
  · rfl

end

namespace Client

variable {c : Client} {n : NetworkId} {m : Move}

/-- A session of a network was announced, and its end has not been reported. -/
def IsUp (c : Client) (n : NetworkId) (sid : SessionId) : Prop :=
  StandsAt c.stages n Stage.isUp sid

/-- There is something left to tell of a session of a network. -/
def IsUntold (c : Client) (n : NetworkId) (sid : SessionId) : Prop :=
  StandsAt c.stages n Stage.isUntold sid

/-- The loss of every session of a network has been reported. -/
def Settled (c : Client) (n : NetworkId) : Prop :=
  ∀ s ∈ c.sessions, s.identity.id = n → s.stage = .reported ∨ s.stage = .gone

theorem Settled.not_isUntold (h : c.Settled n) (sid : SessionId) : ¬ c.IsUntold n sid := by
  rintro ⟨stage, hstage, huntold⟩
  obtain ⟨s, hsid, hn, rfl⟩ := exists_of_getElem?_stages hstage
  rcases h s (List.mem_of_getElem? hsid) hn with he | he <;> rw [he] at huntold <;> cases huntold

theorem settled_of_not_isUntold (h : ∀ sid, ¬ c.IsUntold n sid) : c.Settled n := by
  intro s hs hn
  obtain ⟨sid, hsid⟩ := List.getElem?_of_mem hs
  have hstage : ¬ s.stage.isUntold = true := fun huntold =>
    h sid ⟨s.stage, by rw [getElem?_stages hsid, hn], huntold⟩
  revert hstage
  cases s.stage <;> simp [Stage.isUntold]

theorem IsUp.isUntold {sid : SessionId} (h : c.IsUp n sid) : c.IsUntold n sid := by
  obtain ⟨stage, hstage, hup⟩ := h
  exact ⟨stage, hstage, Stage.isUntold_of_isUp hup⟩

/-- Who begins to connect to a network does so when all its sessions are settled. -/
def Waits (c : Client) (n : NetworkId) : Move → Prop
  | .acquire identity => identity.id = n → c.obstacle? n = none → c.Settled n
  | _ => True

/-- So does everybody in a run. -/
def Patient (n : NetworkId) : Client → List Move → Prop
  | _, [] => True
  | c, m :: moves => c.Waits n m ∧ Patient n (c.move m) moves

instance (c : Client) (n : NetworkId) : Decidable (c.Settled n) :=
  inferInstanceAs (Decidable (∀ s ∈ c.sessions, _))

instance (c : Client) (n : NetworkId) : ∀ m, Decidable (c.Waits n m)
  | .acquire identity =>
    inferInstanceAs (Decidable (identity.id = n → c.obstacle? n = none → c.Settled n))
  | .endpointFails .. | .dropAttempt .. | .openSession .. | .install .. | .announce ..
  | .dismiss .. | .tearDown .. | .handleInbox .. | .call .. | .endReading .. | .reportLoss ..
  | .release .. => .isTrue trivial

instance decidablePatient (n : NetworkId) : ∀ c moves, Decidable (Patient n c moves)
  | _, [] => .isTrue trivial
  | c, m :: moves =>
    have := decidablePatient n (c.move m) moves
    inferInstanceAs (Decidable (c.Waits n m ∧ Patient n (c.move m) moves))

/-- What holds of a network at any time, as long as everybody waits. -/
structure Steady (c : Client) (n : NetworkId) : Prop where
  /-- An attempt does not go on beside a session. -/
  alone : ∀ a, c.progress? a = some (n, .trying) → c.Settled n
  /-- Of one session at most there is something left to tell. -/
  single : ∀ s t, c.IsUntold n s → c.IsUntold n t → s = t
  alternating : Alternating (c.notices n)
  /-- The last notice says how things stand. -/
  last : (c.notices n).getLast? = some .established ↔ ∃ sid, c.IsUp n sid

theorem steady_init (settings : Settings) (date nonce : String) (store : Store) :
    Steady (Client.new settings date nonce store) n where
  alone := by
    intro a h
    simp [progress?, attempt?, Client.new] at h
  single := by
    rintro s t ⟨stage, h, -⟩
    simp [stages, Client.new] at h
  alternating := .nil
  last := by
    refine iff_of_false (by simp [notices, noticesOf, Client.new]) ?_
    rintro ⟨sid, stage, h, -⟩
    simp [stages, Client.new] at h

/-- An attempt goes on only where it went on before, or has just begun. -/
theorem Steady.settled (hs : Steady c n) (hw : c.Waits n m) {a : AttemptId}
    (h : (c.move m).progress? a = some (n, .trying)) : c.Settled n := by
  cases passing_move c m a with
  | stays hp => exact hs.alone a (hp.symm.trans h)
  | began identity hm hfree hp =>
    obtain ⟨rfl, -⟩ := progress_unique hp h
    rw [hm] at hw
    exact hw rfl hfree
  | gaveUp k hp => cases (progress_unique h hp).2
  | opened k _ hp => cases (progress_unique h hp).2
  | bound k sid hp => cases (progress_unique h hp).2

/-- What is neither told of nor opens a session leaves a network as steady as it was. -/
theorem Steady.unheard (hs : Steady c n) (hw : c.Waits n m)
    (huntold : ∀ sid, (c.move m).IsUntold n sid → c.IsUntold n sid)
    (hup : ∀ sid, (c.move m).IsUp n sid ↔ c.IsUp n sid)
    (hnotices : (c.move m).notices n = c.notices n) : Steady (c.move m) n where
  alone := fun _ ha => settled_of_not_isUntold fun sid hsid =>
    (hs.settled hw ha).not_isUntold sid (huntold sid hsid)
  single := fun s t hs' ht => hs.single s t (huntold s hs') (huntold t ht)
  alternating := by
    rw [hnotices]
    exact hs.alternating
  last := by
    rw [hnotices, hs.last]
    exact exists_congr fun sid => (hup sid).symm

theorem steady_opened (ho : Orderly (c.move m)) (hs : Steady c n) (hw : c.Waits n m)
    {a : AttemptId} {k : NetworkId} (htrying : c.progress? a = some (k, .trying))
    (hbinding : (c.move m).progress? a = some (k, .binding c.sessions.length))
    (hstages : (c.move m).stages = c.stages ++ [(k, .opening)])
    (hnotices : (c.move m).notices n = c.notices n) : Steady (c.move m) n := by
  have hup : ∀ t, (c.move m).IsUp n t ↔ c.IsUp n t := by
    intro t
    rw [IsUp, hstages, standsAt_concat]
    split
    · rename_i ht
      refine iff_of_false (fun he => Bool.false_ne_true he.2) ?_
      rintro ⟨stage, hstage, -⟩
      rw [ht, List.getElem?_eq_none (Nat.le_refl _)] at hstage
      cases hstage
    · rfl
  have huntold : ∀ t, (c.move m).IsUntold n t → t = c.stages.length ∧ k = n ∨ c.IsUntold n t := by
    intro t ht
    rw [IsUntold, hstages, standsAt_concat] at ht
    split at ht
    · exact .inl ⟨‹_›, ht.1⟩
    · exact .inr ht
  by_cases hk : k = n
  · subst hk
    -- the attempt was the only one for its network, and there was nothing left to tell
    have hsettled : c.Settled k := hs.alone a htrying
    have hlast : ∀ t, (c.move m).IsUntold k t → t = c.stages.length := by
      intro t ht
      rcases huntold t ht with ⟨ht, -⟩ | ht
      · exact ht
      · exact absurd ht (hsettled.not_isUntold t)
    refine ⟨fun b hb => ?_, fun s t hs' ht => ?_, ?_, ?_⟩
    · have hba : b = a := ho.exclusive.unique b a k ⟨_, hb, rfl⟩ ⟨_, hbinding, rfl⟩
      rw [hba] at hb
      cases (progress_unique hb hbinding).2
    · rw [hlast s hs', hlast t ht]
    · rw [hnotices]
      exact hs.alternating
    · rw [hnotices, hs.last]
      exact exists_congr fun sid => (hup sid).symm
  · refine hs.unheard hw (fun t ht => ?_) hup hnotices
    rcases huntold t ht with ⟨-, he⟩ | ht
    · exact absurd he hk
    · exact ht

theorem steady_advanced (hs : Steady c n) (hw : c.Waits n m) {sid : SessionId} {old new : Stage}
    {told : List Notice} (hbefore : c.stages[sid]? = some (n, old)) (hnext : old.Next new told)
    (hstages : (c.move m).stages = c.stages.set sid (n, new))
    (hnotices : (c.move m).notices n = c.notices n ++ told) : Steady (c.move m) n := by
  have huntold : ∀ t, (c.move m).IsUntold n t → c.IsUntold n t := by
    intro t ht
    rw [IsUntold, hstages, standsAt_set hbefore] at ht
    split at ht
    · rename_i he
      rw [he]
      exact (standsAt_self hbefore).mpr ⟨rfl, hnext.isUntold ht.2⟩
    · exact ht
  have halone : ∀ a, (c.move m).progress? a = some (n, .trying) → (c.move m).Settled n :=
    fun _ ha => settled_of_not_isUntold fun t ht =>
      (hs.settled hw ha).not_isUntold t (huntold t ht)
  have hsingle : ∀ s t, (c.move m).IsUntold n s → (c.move m).IsUntold n t → s = t :=
    fun s t hs' ht => hs.single s t (huntold s hs') (huntold t ht)
  have hself : ∀ p : Stage → Bool, p old = true → StandsAt c.stages n p sid := fun p hp =>
    (standsAt_self hbefore).mpr ⟨rfl, hp⟩
  cases hnext with
  | ended | released =>
    rw [List.append_nil] at hnotices
    refine hs.unheard hw huntold (fun t => ?_) hnotices
    rw [IsUp, hstages]
    exact standsAt_set_congr hbefore rfl
  | announced =>
    -- a session that were up would be another one of which there is something left to tell
    have hdown : ∀ t, ¬ c.IsUp n t := by
      intro t ht
      have he : t = sid := hs.single t sid ht.isUntold (hself _ rfl)
      rw [he, IsUp, standsAt_self hbefore] at ht
      exact Bool.false_ne_true ht.2
    have hlast : (c.notices n).getLast? ≠ some .established := by
      rw [ne_eq, hs.last]
      rintro ⟨t, ht⟩
      exact hdown t ht
    refine ⟨halone, hsingle, ?_, ?_⟩
    · rw [hnotices]
      exact hs.alternating.established hlast
    · rw [hnotices, List.getLast?_concat]
      refine iff_of_true rfl ⟨sid, ?_⟩
      rw [IsUp, hstages, standsAt_set hbefore, if_pos rfl]
      exact ⟨rfl, rfl⟩
  | reported =>
    have hlast : (c.notices n).getLast? = some .established := hs.last.mpr ⟨sid, hself _ rfl⟩
    refine ⟨halone, hsingle, ?_, ?_⟩
    · rw [hnotices]
      exact hs.alternating.lost hlast
    · rw [hnotices, List.getLast?_concat]
      refine iff_of_false nofun ?_
      rintro ⟨t, ht⟩
      rw [IsUp, hstages, standsAt_set hbefore] at ht
      split at ht
      · exact Bool.false_ne_true ht.2
      · rename_i hne
        have hup : c.IsUp n t := ht
        exact hne (hs.single t sid hup.isUntold (hself _ rfl))

/-- **Whoever waits keeps the network steady.** -/
theorem steady_move (h : Orderly c) (hs : Steady c n) (hw : c.Waits n m) :
    Steady (c.move m) n := by
  cases telling_move h m with
  | still hstages hnotices =>
    refine hs.unheard hw (fun t => ?_) (fun t => ?_) (hnotices n)
    · rw [IsUntold, hstages]
      exact id
    · rw [IsUp, hstages]
      rfl
  | opened a k htrying hbinding hstages hnotices =>
    exact steady_opened (orderly_move h m) hs hw htrying hbinding hstages (hnotices n)
  | installed a sid k _ _ hbefore hstages hnotices =>
    refine hs.unheard hw (fun t => ?_) (fun t => ?_) (hnotices n)
    · have hsame : StandsAt (c.stages.set sid (k, .installed)) n Stage.isUntold t ↔
          c.IsUntold n t := standsAt_set_congr hbefore rfl
      rw [IsUntold, hstages]
      exact hsame.mp
    · rw [IsUp, hstages]
      exact standsAt_set_congr hbefore rfl
  | advanced sid k old new told hbefore hnext hstages hnotices =>
    -- the session is one of the network, or of another one that has nothing to do with it
    have hn := hnotices n
    by_cases hk : k = n
    · subst hk
      rw [if_pos rfl] at hn
      exact steady_advanced hs hw hbefore hnext hstages hn
    · rw [if_neg hk, List.append_nil] at hn
      refine hs.unheard hw (fun t => ?_) (fun t => ?_) hn
      · rw [IsUntold, hstages]
        exact (standsAt_set_of_ne hbefore hk).mp
      · rw [IsUp, hstages]
        exact standsAt_set_of_ne hbefore hk

theorem steady_run (h : Orderly c) (hs : Steady c n) {moves : List Move}
    (hp : Patient n c moves) : Steady (c.run moves) n := by
  induction moves generalizing c with
  | nil => exact hs
  | cons m moves ih => exact ih (orderly_move h m) (steady_move h hs hp.1) hp.2

/--
**Those who wait can tell how things stand.** After any moves whatever, what has been told of a
network is what its sessions have come to: of each that it was established, once, and of each
whose end was reported that it was lost, once. As long as nobody begins to connect to the network
before the loss of its earlier sessions was reported, the two alternate, beginning with the first,
and the last one tells whether there is a session that was announced and whose loss was not.
-/
theorem notices_alternate (settings : Settings) (date nonce : String) (store : Store)
    (moves : List Move) (n : NetworkId) :
    let start := Client.new settings date nonce store
    let c := start.run moves
    (c.notices n).Perm (c.sessions.flatMap fun s =>
      if s.identity.id = n then s.stage.notices else []) ∧
    (∀ s t, c.Active s n → c.Active t n → s = t) ∧
    (Patient n start moves → Alternating (c.notices n) ∧
      ((c.notices n).getLast? = some .established ↔ ∃ sid s, c.session? sid = some s ∧
        s.identity.id = n ∧ (s.stage = .reading ∨ s.stage = .lost))) := by
  intro start c
  have hstart : Orderly start := orderly_init settings date nonce store
  obtain ⟨h, hfaithful⟩ := faithful_run hstart (faithful_init settings date nonce store) moves
  refine ⟨?_, fun s t => h.exclusive.active_unique, fun hp => ?_⟩
  · have hn := hfaithful n
    rw [toldOf, stages, List.flatMap_map] at hn
    exact hn
  · have hs : Steady c n := steady_run hstart (steady_init settings date nonce store) hp
    refine ⟨hs.alternating, hs.last.trans (exists_congr fun sid => ?_)⟩
    constructor
    · -- a session is up from its announcement until its loss is reported
      rintro ⟨stage, hstage, hup⟩
      obtain ⟨s, hsid, hn, rfl⟩ := exists_of_getElem?_stages hstage
      refine ⟨s, hsid, hn, ?_⟩
      revert hup
      cases s.stage <;> simp [Stage.isUp]
    · rintro ⟨s, hsid, rfl, hstage⟩
      refine ⟨s.stage, getElem?_stages hsid, ?_⟩
      rcases hstage with he | he <;> rw [he] <;> rfl

/-- A client that leaves a network, learns of the loss, and comes back. -/
theorem notices_alternate_reconnected :
    let identity : Identity := ⟨1, "Libera", [⟨"irc.libera.chat", 6697, true, 0⟩], "ada", "ada",
      "Ada", none, {}, false⟩
    let start := Client.new {} "noon" "nonce" .empty
    let moves : List Move := [.acquire identity, .openSession 0, .install 0, .announce 0,
      .dismiss 1, .tearDown 0 none, .endReading 0, .reportLoss 0,
      .acquire identity, .openSession 1, .install 1, .announce 1]
    let c := start.run moves
    Patient 1 start moves ∧ c.notices 1 = [.established, .lost, .established] ∧
      Alternating (c.notices 1) ∧
      ((c.notices 1).getLast? = some .established ↔ ∃ sid s, c.session? sid = some s ∧
        s.identity.id = 1 ∧ (s.stage = .reading ∨ s.stage = .lost)) := by
  intro identity start moves c
  have hp : Patient 1 start moves := by decide +kernel
  have hnotices : c.notices 1 = [.established, .lost, .established] := by decide +kernel
  exact ⟨hp, hnotices, (notices_alternate {} "noon" "nonce" .empty moves 1).2.2 hp⟩

/-- One that comes back before that: the loss of the first session is told after the second was
announced, and it is the last that is told. -/
theorem reconnected_too_soon :
    let identity : Identity := ⟨1, "Libera", [⟨"irc.libera.chat", 6697, true, 0⟩], "ada", "ada",
      "Ada", none, {}, false⟩
    let moves : List Move := [.acquire identity, .openSession 0, .install 0, .announce 0,
      .dismiss 1, .tearDown 0 none,
      .acquire identity, .openSession 1, .install 1, .announce 1,
      .endReading 0, .reportLoss 0]
    let c := (Client.new {} "noon" "nonce" .empty).run moves
    c.notices 1 = [.established, .established, .lost] ∧ ¬ Alternating (c.notices 1) ∧
      c.IsUp 1 1 := by
  intro identity moves c
  have hnotices : c.notices 1 = [.established, .established, .lost] := by decide +kernel
  have hstages : c.stages = [(1, .reported), (1, .reading)] := by decide +kernel
  refine ⟨hnotices, ?_, ?_⟩
  · rw [hnotices]
    rintro ⟨-, hchain⟩
    simp at hchain
  · rw [IsUp, hstages]
    exact ⟨.reading, rfl, rfl⟩

end Client

end IrcClient
