import IrcClient.Proofs.Store.MirrorRun

/-!
# What the next connection starts from

A connection ends and another one begins: the channels are read from the store and put into a
network of which nothing else is known. What the store holds mirrors what was known
(`Recorded.mirrored_run`), so the channels come back, each under its name and with what is kept
of it. Nobody is in them yet, and the client is in none.

One thing does not come back as it was. A channel whose topic was taken away has none, and the
store holds an empty one for it. The handlers take the one for the other, and
`Channel.ofRecord` does not.
-/

namespace IrcClient

/-- A channel as it is found on the next connection, and as it was known before. -/
structure Channel.Resumes (found known : Channel) : Prop where
  name : found.name = known.name
  modes : found.modes = known.modes
  autoJoin : found.autoJoin = known.autoJoin
  /-- No topic may come back as an empty one. -/
  topic : found.topic = known.topic ∨ found.topic = some "" ∧ known.topic = none
  outside : found.isOpen = false ∧ found.members = .empty ∧ found.refreshing = false

theorem SameTopic.eq_or {stored known : Option String} (h : SameTopic stored known) :
    stored = known ∨ stored = some "" ∧ known = none := by
  cases known with
  | some t => exact .inl ((h.some_iff t).mpr rfl).1
  | none =>
    rcases h.none_iff.mpr rfl with hnone | hempty
    · exact .inl hnone
    · exact .inr ⟨hempty, rfl⟩

theorem Channel.MirroredBy.resumes {c : Channel} {d : StoredChannel} (h : c.MirroredBy d) :
    (Channel.ofRecord d.record).Resumes c where
  name := h.name
  modes := h.modes
  autoJoin := h.autoJoin
  topic := h.topic.eq_or
  outside := ⟨rfl, rfl, rfl⟩

theorem Store.channels_eq {s : Store} (hs : s.failing = false) (network : NetworkId) :
    ∃ records, s.channels network = .ok records ∧
      ∀ r, r ∈ records ↔ ∃ k d, (s.shelf network).get? k = some d ∧ d.record = r := by
  refine ⟨_, if_neg (by simp [hs]), fun r => ?_⟩
  rw [List.mem_mergeSort, List.mem_map]
  constructor
  · rintro ⟨d, hd, hr⟩
    obtain ⟨k, hk⟩ := Table.mem_values_iff.mp hd
    exact ⟨k, d, hk, hr⟩
  · rintro ⟨k, d, hk, hr⟩
    exact ⟨d, Table.mem_values_iff.mpr ⟨k, hk⟩, hr⟩

namespace Network

/-- Every stored channel is under its folded name if it mirrors one that is. -/
theorem MirroredBy.fold_record {net : Network} {shelf : Shelf} (h : net.MirroredBy shelf)
    {k : String} {d : StoredChannel} (hd : shelf.get? k = some d) : fold d.record.name = k := by
  cases hc : net.channels.get? k with
  | none =>
    rw [h.not_stored hc] at hd
    cases hd
  | some c =>
    obtain ⟨d', hd', hcd⟩ := h.stored_of_known hc
    obtain rfl : d' = d := Option.some.inj (hd'.symm.trans hd)
    rw [hcd.name]
    exact h.named k c hc

/-- Seeding with the records of a shelf, in whatever order, makes of each a channel. -/
theorem get?_seed {shelf : Shelf} (hkeyed : ∀ k d, shelf.get? k = some d → fold d.record.name = k)
    {records : List ChannelRecord}
    (hrecords : ∀ r, r ∈ records ↔ ∃ k d, shelf.get? k = some d ∧ d.record = r)
    (id : NetworkId) (label nickname k : String) :
    ((new id label nickname).seed records).channels.get? k =
      (shelf.get? k).map fun d => .ofRecord d.record := by
  -- a record stands under the name that it bears, so that no two of them come under one key
  have hbinding : ∀ c, (k, c) ∈ records.map (fun r => (fold r.name, Channel.ofRecord r)) ↔
      ∃ d, shelf.get? k = some d ∧ Channel.ofRecord d.record = c := by
    intro c
    rw [List.mem_map]
    constructor
    · rintro ⟨r, hr, he⟩
      obtain ⟨hk, rfl⟩ := Prod.mk.inj he
      obtain ⟨k', d, hd, rfl⟩ := (hrecords r).mp hr
      rw [← hk, hkeyed k' d hd]
      exact ⟨d, hd, rfl⟩
    · rintro ⟨d, hd, rfl⟩
      exact ⟨d.record, (hrecords _).mpr ⟨k, d, hd, rfl⟩, by rw [hkeyed k d hd]⟩
  show (Table.insertAll .empty _).get? k = _
  cases hd : shelf.get? k with
  | none =>
    rw [Option.map_none, Table.get?_insertAll_of_ne, Table.get?_empty]
    rintro ⟨k', c⟩ he rfl
    obtain ⟨d, hd', -⟩ := (hbinding c).mp he
    rw [hd] at hd'
    cases hd'
  | some d =>
    refine Table.get?_insertAll_of_mem ((hbinding _).mpr ⟨d, hd, rfl⟩) fun c hc => ?_
    obtain ⟨d', hd', rfl⟩ := (hbinding c).mp hc
    rw [hd] at hd'
    rw [Option.some.inj hd']

end Network

namespace Recorded

/--
**The channels outlive the connection.** After any deeds of a session that started on an empty
store, the stored channels can be read, and a network that is seeded with them has the channels
that the session knows: each with its name, its modes and the mark that it is to be entered, and
with its topic but for one that was taken away.
-/
theorem channels_resume (identity : Identity) (endpoint : Endpoint) (nonce : String)
    (deeds : List Deed) (label nickname : String) :
    let r := (start identity endpoint nonce).run deeds
    ∃ records, r.store.channels identity.id = .ok records ∧
      ∀ k, Option.Rel Channel.Resumes
        (((Network.new identity.id label nickname).seed records).channels.get? k)
        (r.session.network.channels.get? k) := by
  intro r
  have h : Mirrored identity.id r := mirrored_run deeds (mirrored_start identity endpoint nonce)
  obtain ⟨records, hok, hrecords⟩ := Store.channels_eq h.working identity.id
  refine ⟨records, hok, fun k => ?_⟩
  rw [Network.get?_seed (fun _ _ => h.mirrored.fold_record) hrecords]
  cases hc : r.session.network.channels.get? k with
  | none =>
    rw [h.mirrored.not_stored hc]
    exact .none
  | some c =>
    obtain ⟨d, hd, hcd⟩ := h.mirrored.stored_of_known hc
    rw [hd]
    exact .some hcd.resumes

/-- A topic that was taken away comes back as an empty one. -/
theorem topic_not_resumed :
    let line (source : String) (command : String) (args : List String) : Deed :=
      .line .byName ⟨"1.0", "noon"⟩ ⟨[], some ⟨source, none, none⟩, command, args⟩
    let identity : Identity := ⟨1, "Libera", [], "ada", "ada", "Ada", none, {}, false⟩
    let r := (start identity ⟨"irc.libera.chat", 6697, true, 0⟩ "nonce").run
      [line "ada" "JOIN" ["#lean"], line "ada" "TOPIC" ["#lean", ""]]
    ∃ records, r.store.channels 1 = .ok records ∧
      (((Network.new 1 "irc.libera.chat" "ada").seed records).channel? "#lean").map (·.topic) =
        some (some "") ∧
      (r.session.network.channel? "#lean").map (·.topic) = some none := by
  intro line identity r
  have hworks : r.store.failing = false := by decide +kernel
  have hshelf : (r.store.shelf 1).values.map (·.record) =
      [⟨"#lean", some "", "", false, true⟩] := by decide +kernel
  have hread : r.store.channels 1 = .ok [⟨"#lean", some "", "", false, true⟩] := by
    rw [Store.channels, hworks, if_neg Bool.false_ne_true, hshelf, List.mergeSort_singleton]
  exact ⟨_, hread, by decide +kernel, by decide +kernel⟩

end Recorded

end IrcClient
