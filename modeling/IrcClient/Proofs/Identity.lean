import IrcClient.Identity

/-!
# The order of endpoints, and the mechanism

Endpoints are tried in the order of their priorities, and those of one priority in the order in
which they are configured. Sorting neither loses nor invents one.

The mechanism is there if the client is to authenticate, and has the name that is configured.
-/

namespace IrcClient.Identity

/-- Whether a list holds some endpoints by priority, and those of one priority as they come. -/
structure InPriority (configured sorted : List Endpoint) : Prop where
  perm : sorted.Perm configured
  ascending : sorted.Pairwise (·.priority ≤ ·.priority)
  stable : ∀ n, sorted.filter (·.priority = n) = configured.filter (·.priority = n)

theorem inPriority_endpointsByPriority (i : Identity) :
    InPriority i.endpoints i.endpointsByPriority := by
  let atMost (a b : Endpoint) : Bool := decide (a.priority ≤ b.priority)
  have htrans (a b c : Endpoint) : atMost a b = true → atMost b c = true → atMost a c = true := by
    simp only [atMost, decide_eq_true_eq]
    exact Int.le_trans
  have htotal (a b : Endpoint) : (atMost a b || atMost b a) = true := by
    simp only [atMost, Bool.or_eq_true, decide_eq_true_eq]
    exact Int.le_total ..
  have hperm : i.endpointsByPriority.Perm i.endpoints := i.endpointsByPriority_perm
  refine ⟨hperm, ?_, fun n => ?_⟩
  · exact (List.pairwise_mergeSort htrans htotal _).imp of_decide_eq_true
  · -- equal priorities are sorted as they come, so they come in that order behind the sorting
    have hequal : (i.endpoints.filter (·.priority = n)).Pairwise fun a b => atMost a b = true := by
      refine List.pairwise_of_forall_mem_list fun a ha b hb => decide_eq_true ?_
      have ha : a.priority = n := of_decide_eq_true (List.mem_filter.mp ha).2
      have hb : b.priority = n := of_decide_eq_true (List.mem_filter.mp hb).2
      exact Int.le_of_eq (ha.trans hb.symm)
    have hsub : (i.endpoints.filter (·.priority = n)).Sublist i.endpointsByPriority :=
      List.sublist_mergeSort htrans htotal hequal List.filter_sublist
    have hfiltered := hsub.filter (·.priority = n)
    simp only [List.filter_filter, Bool.and_self] at hfiltered
    exact (hfiltered.eq_of_length (hperm.filter _).length_eq.symm).symm

theorem exists_mechanism {i : Identity} (enabled : i.sasl.enabled = true) (nonce : String) :
    ∃ fresh : Mechanism, i.mechanism? nonce = some fresh ∧ fresh.name = i.sasl.mechanism.text :=
  ⟨_, by rw [mechanism?, if_pos enabled], Mechanism.name_new ..⟩

end IrcClient.Identity
