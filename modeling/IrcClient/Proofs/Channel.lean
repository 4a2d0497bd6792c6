import IrcClient.Proofs.Name
import IrcClient.Proofs.Table
import IrcClient.Store

/-!
# Members under their nicknames

The members of a channel are kept under the folded forms of their nicknames, and whatever
is done to a channel keeps them there. So a list of the members, in any order, is enough to
make their table again (`membersOf_eq_of_perm`), which is what the store does with one.
-/

namespace IrcClient

/-- Whether every member is under the folded form of its nickname. -/
def MembersKeyed (t : Table String Member) : Prop :=
  ∀ k m, t.get? k = some m → fold m.nick = k

namespace MembersKeyed

variable {t : Table String Member}

theorem empty : MembersKeyed .empty :=
  KeyedBy.empty

theorem insert (h : MembersKeyed t) {k : String} {m : Member} (hm : fold m.nick = k) :
    MembersKeyed (t.insert k m) :=
  KeyedBy.insert h hm

theorem erase (h : MembersKeyed t) (k : String) : MembersKeyed (t.erase k) :=
  KeyedBy.erase h k

end MembersKeyed

/-- A list of all members makes their table, whatever its order. -/
theorem membersOf_eq_of_perm {t : Table String Member} (h : MembersKeyed t) {l : List Member}
    (hl : l.Perm t.values) : StoredChannel.membersOf l = t := by
  refine Table.ofList_eq_of_mem_iff fun k m => ?_
  rw [List.mem_map]
  constructor
  · rintro ⟨m', hm', he⟩
    obtain ⟨hk, rfl⟩ := Prod.mk.inj he
    obtain ⟨k', hk'⟩ := Table.mem_values_iff.mp (hl.mem_iff.mp hm')
    rw [← hk, h k' m' hk']
    exact hk'
  · intro hk
    exact ⟨m, hl.mem_iff.mpr (Table.mem_values_iff.mpr ⟨k, hk⟩), by rw [h k m hk]⟩

open StoredChannel (membersOf)

/-- Of several members with one nickname the last one counts. -/
theorem get?_membersOf (members : List Member) (k : String) :
    (membersOf members).get? k = (members.filter (fold ·.nick = k)).getLast? := by
  rw [membersOf, Table.ofList, Table.get?_insertAll, Table.get?_empty, Option.or_none,
    List.filter_map, List.getLast?_map, Option.map_map]
  exact congrFun Option.map_id _

/-- A list that goes on adds to the members that have been listed. -/
theorem insertAll_membersOf (a b : List Member) :
    (membersOf a).insertAll (b.map fun m => (fold m.nick, m)) = membersOf (a ++ b) := by
  rw [membersOf, membersOf, List.map_append, Table.ofList, Table.ofList, Table.insertAll,
    Table.insertAll, Table.insertAll, List.foldl_append]

theorem membersOf_keyed (members : List Member) : MembersKeyed (membersOf members) := by
  intro k m hm
  rw [get?_membersOf] at hm
  exact of_decide_eq_true (List.mem_filter.mp (List.mem_of_getLast? hm)).2

namespace Channel

theorem length_sortedMembers (c : Channel) : c.sortedMembers.length = c.members.size := by
  rw [sortedMembers, List.length_mergeSort, Table.length_values]

/-- Members that are set one by one are put into the table one by one. -/
theorem foldl_upsertMember : ∀ (members : List Member) (c : Channel),
    members.foldl upsertMember c =
      { c with members := c.members.insertAll (members.map fun m => (fold m.nick, m)) }
  | [], _ => rfl
  | m :: members, c => foldl_upsertMember members (c.upsertMember m)

theorem membersOf_sortedMembers {c : Channel} (h : MembersKeyed c.members) :
    StoredChannel.membersOf c.sortedMembers = c.members :=
  membersOf_eq_of_perm h (List.mergeSort_perm _ _)

/-! ## Every change of a channel keeps its members keyed -/

variable {c : Channel}

theorem upsertMember_keyed (h : MembersKeyed c.members) (m : Member) :
    MembersKeyed (c.upsertMember m).members :=
  h.insert rfl

/-- A list that is begun changes the members, and nothing else but the mark that it is under way. -/
theorem beginRefresh_eq (c : Channel) :
    c.beginRefresh = { c with members := c.beginRefresh.members, refreshing := true } := by
  unfold beginRefresh
  split
  · rename_i h
    rw [← h]
  · rfl

theorem beginRefresh_keyed (h : MembersKeyed c.members) : MembersKeyed c.beginRefresh.members := by
  unfold beginRefresh
  split
  · exact h
  · exact .empty

end Channel

/-! ## Renaming -/

/-- The members after one of them has taken another nickname, in the stead of who had it. -/
def renamed (t : Table String Member) (old new : String) : Table String Member :=
  match t.get? (fold old) with
  | none => t
  | some m => (t.erase (fold old)).insert (fold new) { m with nick := new }

/-- Renaming someone in a channel changes the members and nothing else. -/
theorem Channel.renameMember_eq (c : Channel) (old new : String) :
    c.renameMember old new = { c with members := renamed c.members old new } := by
  unfold renameMember renamed member?
  cases c.members.get? (fold old) <;> rfl

/-- The store renames someone as a channel does. -/
theorem StoredChannel.renameUser_eq (c : StoredChannel) (old new : String) :
    c.renameUser old new = { c with members := renamed c.members old new } := by
  unfold renameUser renamed
  cases c.members.get? (fold old) <;> rfl

theorem MembersKeyed.renamed {t : Table String Member} (h : MembersKeyed t)
    (old new : String) : MembersKeyed (renamed t old new) := by
  unfold IrcClient.renamed
  split
  · exact h
  · exact (h.erase _).insert rfl

end IrcClient
