import IrcClient.Handling.Announcement

/-!
# Prefix modes in their rank

The modes that a member holds are written from the highest rank down, each as often as it is
announced, and a text of modes is in that form exactly if sorting leaves it alone
(`Support.Ranked`). Sorting makes the form, taking letters away keeps it, and nothing but an
announcement of prefixes changes which texts have it.
-/

namespace IrcClient

namespace Support

variable {s : Support} {modes : String}

/-- Whether a text consists of prefix modes in their rank. -/
def Ranked (s : Support) (modes : String) : Prop :=
  s.sortPrefixModes modes = modes

theorem toList_sortPrefixModes (s : Support) (modes : String) :
    (s.sortPrefixModes modes).toList = s.prefixModes.toList.filter modes.toList.contains :=
  String.toList_ofList

theorem Ranked.toList (h : s.Ranked modes) :
    s.prefixModes.toList.filter modes.toList.contains = modes.toList := by
  rw [← toList_sortPrefixModes, h]

theorem ranked_of_toList (h : s.prefixModes.toList.filter modes.toList.contains = modes.toList) :
    s.Ranked modes :=
  String.toList_injective ((s.toList_sortPrefixModes modes).trans h)

theorem ranked_empty (s : Support) : s.Ranked "" :=
  ranked_of_toList (List.filter_eq_nil_iff.mpr fun _ _ => by simp)

theorem ranked_sortPrefixModes (s : Support) (modes : String) :
    s.Ranked (s.sortPrefixModes modes) := by
  refine ranked_of_toList ?_
  rw [toList_sortPrefixModes]
  refine List.filter_congr fun c hc => ?_
  simp [hc]

/-- Where letters are taken away, the others keep their rank. -/
theorem Ranked.filter (h : s.Ranked modes) (p : Char → Bool) :
    s.Ranked (String.ofList (modes.toList.filter p)) := by
  refine ranked_of_toList ?_
  calc s.prefixModes.toList.filter (String.ofList (modes.toList.filter p)).toList.contains
    _ = s.prefixModes.toList.filter fun c => p c && modes.toList.contains c := by
        refine List.filter_congr fun c _ => ?_
        rw [String.toList_ofList, Bool.eq_iff_iff]
        simp [and_comm]
    _ = (s.prefixModes.toList.filter modes.toList.contains).filter p := List.filter_filter.symm
    _ = (String.ofList (modes.toList.filter p)).toList := by rw [h.toList, String.toList_ofList]

/-- The modes are drawn from those that are announced, in their order. -/
theorem Ranked.sublist (h : s.Ranked modes) : modes.toList.Sublist s.prefixModes.toList := by
  rw [← h.toList]
  exact List.filter_sublist

theorem ranked_congr {s' : Support} (h : s'.prefixModes = s.prefixModes) :
    s'.Ranked modes ↔ s.Ranked modes := by
  rw [Ranked, Ranked, sortPrefixModes, sortPrefixModes, h]

end Support

/-! ## Announcements of prefixes -/

/-- The name of a token, which ends at the first `=`. -/
def tokenName (token : String) : List Char :=
  ((cut? '=' token.toList).getD (token.toList, [])).1

/-- Whether a line announces which prefixes there are, well or badly written. -/
def Message.AnnouncesPrefixes (msg : Message) : Prop :=
  msg.command = "005" ∧
    ∃ token ∈ Handling.announcedTokens msg, tokenName token = "PREFIX".toList

/-- Whether two announcements say the same of prefixes. -/
structure Support.SamePrefixes (s s' : Support) : Prop where
  map : s'.prefixMap = s.prefixMap
  chars : s'.prefixChars = s.prefixChars
  modes : s'.prefixModes = s.prefixModes

namespace Handling

/-- A token of another name says nothing of prefixes. -/
theorem samePrefixes_applyToken (s : Support) {token : String}
    (h : tokenName token ≠ "PREFIX".toList) : s.SamePrefixes (applyToken s token) := by
  unfold applyToken
  dsimp only
  split
  · rename_i hname
    refine absurd ?_ h
    rw [tokenName, ← hname, String.toList_ofList]
  all_goals exact ⟨rfl, rfl, rfl⟩

theorem prefixModes_foldl_applyToken : ∀ (tokens : List String) (s : Support),
    (∀ token ∈ tokens, tokenName token ≠ "PREFIX".toList) →
      (tokens.foldl applyToken s).prefixModes = s.prefixModes
  | [], _, _ => rfl
  | token :: tokens, s, h => by
      rw [List.forall_mem_cons] at h
      rw [List.foldl_cons, prefixModes_foldl_applyToken tokens _ h.2,
        (samePrefixes_applyToken s h.1).modes]

/-- The prefix modes stay in force until a line announces prefixes. -/
theorem prefixModes_announcement (net : Network) {msg : Message} (hcommand : msg.command = "005")
    (h : ¬msg.AnnouncesPrefixes) :
    (announcement net msg).1.support.prefixModes = net.support.prefixModes :=
  prefixModes_foldl_applyToken _ _ fun token ht hname => h ⟨hcommand, token, ht, hname⟩

end Handling

end IrcClient
