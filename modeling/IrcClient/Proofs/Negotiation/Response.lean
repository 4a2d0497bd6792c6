import IrcClient.Negotiator
import IrcClient.Proofs.Text.Base64

/-!
# The lines of a response

A response is sent as lines that begin alike and go on with Base64, in which there is no
asterisk. So none of them can be taken for the line that gives an authentication up, and
none for the end of the negotiation.
-/

namespace IrcClient

theorem mem_of_mem_blocks {α : Type} {n : Nat} {x : α} : ∀ {l c : List α},
    c ∈ blocks n l → x ∈ c → x ∈ l := by
  intro l
  fun_induction blocks n l with
  | case1 l h =>
    intro c hc
    exact absurd hc (by simp)
  | case2 l h hlt ih =>
    intro c hc hx
    rcases List.mem_cons.mp hc with rfl | hc
    · exact List.mem_of_mem_take hx
    · exact List.mem_of_mem_drop (ih hc hx)

theorem Base64.asterisk_notMem_symbols (bytes : Bytes) : '*' ∉ symbols bytes := fun h =>
  forall_mem_symbols (P := (· ≠ '*')) (by decide +kernel) (by decide) bytes _ h rfl

/-- A line of an authentication is not the end of the negotiation. -/
theorem authenticate_ne_capEnd (s : String) : "AUTHENTICATE " ++ s ≠ "CAP END" := by
  intro h
  have hl := congrArg (fun s => s.toList.head?) h
  simp at hl

/-- Every line of a response holds part of its Base64, or a `+` in place of it. -/
theorem eq_of_mem_authenticateLines {payload : Bytes} {line : String}
    (h : line ∈ authenticateLines payload) :
    ∃ chunk : List Char, '*' ∉ chunk ∧ line = "AUTHENTICATE " ++ String.ofList chunk := by
  unfold authenticateLines at h
  rcases List.mem_append.mp h with h | h
  · obtain ⟨c, hc, rfl⟩ := List.mem_map.mp h
    exact ⟨c, fun hx => Base64.asterisk_notMem_symbols payload (mem_of_mem_blocks hc hx), rfl⟩
  · split at h
    · refine ⟨['+'], by decide, ?_⟩
      rw [List.mem_singleton.mp h]
      rfl
    · exact absurd h (by simp)

/-- No line of a response gives the authentication up. -/
theorem abort_notMem_authenticateLines (payload : Bytes) :
    "AUTHENTICATE *" ∉ authenticateLines payload := by
  intro h
  obtain ⟨chunk, hc, he⟩ := eq_of_mem_authenticateLines h
  have hl : "AUTHENTICATE ".toList ++ ['*'] = "AUTHENTICATE ".toList ++ chunk := by
    rw [← String.toList_ofList (l := chunk), ← String.toList_append, ← he]
    rfl
  exact hc (by rw [← List.append_cancel_left hl]; decide)

/-- No line of a response ends the negotiation. -/
theorem capEnd_notMem_authenticateLines (payload : Bytes) :
    "CAP END" ∉ authenticateLines payload := by
  intro h
  obtain ⟨chunk, -, he⟩ := eq_of_mem_authenticateLines h
  exact authenticate_ne_capEnd _ he.symm

end IrcClient
