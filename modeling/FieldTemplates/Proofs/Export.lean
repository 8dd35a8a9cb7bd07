import FieldTemplates.Export

namespace FieldTemplates.Export

theorem isDocument_of_valid {v : Value} (h : problems v = []) : isDocument v = true := by
  cases hv : isDocument v with
  | true => rfl
  | false =>
      simp only [problems, hv, Bool.not_false, ite_true] at h
      cases h

theorem load_of_valid {v : Value} (h : problems v = []) :
    load v = .ok ((candidates v).map groupOf) := by
  simp only [load, h]

theorem candidate_of_valid {v c : Value} (h : problems v = []) (hc : c ∈ candidates v) :
    ∃ index, problem? index c = none := by
  have hfrom : ∀ (vs : List Value) (index : Nat), problemsFrom index vs = [] → c ∈ vs →
      ∃ index, problem? index c = none := by
    intro vs
    induction vs with
    | nil => exact fun _ _ hmem => absurd hmem List.not_mem_nil
    | cons first vs ih =>
        intro index hnone hmem
        rw [problemsFrom, List.append_eq_nil_iff, Option.toList_eq_nil_iff] at hnone
        rcases List.mem_cons.mp hmem with rfl | hmem
        · exact ⟨index, hnone.1⟩
        · exact ih _ hnone.2 hmem
  have hdocument := isDocument_of_valid h
  simp only [problems, hdocument, Bool.not_true, Bool.false_eq_true, ite_false] at h
  split at h
  · cases h
  · exact hfrom _ 0 h hc

theorem object_of_valid {v c : Value} (h : problems v = []) (hc : c ∈ candidates v) :
    ∃ members, c = .object members := by
  obtain ⟨index, hnone⟩ := candidate_of_valid h hc
  cases c with
  | object members => exact ⟨members, rfl⟩
  | _ => cases hnone

-- A list holds its own candidates.
theorem problems_candidates {v : Value} (h : isDocument v = true) :
    problems (.list (candidates v)) = problems v := by
  have hlist : isDocument (.list (candidates v)) = true := rfl
  simp only [problems, h, hlist]
  rfl

theorem load_candidates {v : Value} (h : problems v = []) :
    load (.list (candidates v)) = load v := by
  have hvalid : problems (.list (candidates v)) = [] := by
    rw [problems_candidates (isDocument_of_valid h), h]
  rw [load_of_valid h, load_of_valid hvalid]
  rfl

end FieldTemplates.Export
