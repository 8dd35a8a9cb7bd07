import FieldTemplates.Data.Table
import Mathlib.Data.List.Basic
import Mathlib.Data.List.Nodup
import Mathlib.Tactic.SplitIfs

namespace FieldTemplates.Table

variable {α : Type}

theorem mem_put {t : Table α} {name : String} {a : α} {m : String × α} (h : m ∈ t.put name a) :
    m = (name, a) ∨ m ∈ t := by
  induction t with
  | nil => exact .inl (List.mem_singleton.mp h)
  | cons n t ih =>
      simp only [put] at h
      split at h
      · rename_i hn
        rcases List.mem_cons.mp h with rfl | h
        · exact .inl (by rw [beq_iff_eq.mp hn])
        · exact .inr (List.mem_cons_of_mem _ h)
      · rcases List.mem_cons.mp h with rfl | h
        · exact .inr List.mem_cons_self
        · exact (ih h).imp_right (List.mem_cons_of_mem _)

theorem mem_values_put {t : Table α} {name : String} {a b : α}
    (h : b ∈ (t.put name a).values) : b = a ∨ b ∈ t.values := by
  obtain ⟨m, hm, rfl⟩ := List.mem_map.mp h
  rcases mem_put hm with rfl | hm
  · exact .inl rfl
  · exact .inr (List.mem_map_of_mem hm)

theorem mem_values_of_find? {t : Table α} {name : String} {a : α}
    (h : t.find? name = some a) : a ∈ t.values := by
  obtain ⟨front, back, ht, -⟩ := List.lookup_eq_some_iff.mp h
  rw [ht]
  simp [Table.values]

theorem find?_eq_none {t : Table α} {name : String} (h : name ∉ t.names) :
    t.find? name = none := by
  refine List.lookup_eq_none_iff.mpr fun m hm => ?_
  have hne : name ≠ m.1 := fun heq => h (heq ▸ List.mem_map_of_mem hm)
  simpa using hne

theorem mem_of_find? {t : Table α} {name : String} {a : α}
    (h : t.find? name = some a) : (name, a) ∈ t := by
  obtain ⟨front, back, ht, -⟩ := List.lookup_eq_some_iff.mp h
  rw [ht]
  simp

-- No member goes by one of the names.
def Lacks (t : Table α) (names : List String) : Prop := ∀ m ∈ t, m.1 ∉ names

theorem lacks_without (t : Table α) (names : List String) : (t.without names).Lacks names := by
  intro m hm
  simpa using List.of_mem_filter hm

theorem without_of_lacks {t : Table α} {names : List String} (h : t.Lacks names) :
    t.without names = t :=
  List.filter_eq_self.mpr fun m hm => by simpa using h m hm

theorem without_eq_nil {t : Table α} {names : List String} (h : ∀ m ∈ t, m.1 ∈ names) :
    t.without names = [] :=
  List.filter_eq_nil_iff.mpr fun m hm => by simpa using h m hm

theorem without_append (t u : Table α) (names : List String) :
    without (t ++ u) names = t.without names ++ u.without names := List.filter_append ..

theorem find?_of_lacks {t : Table α} {names : List String} (h : t.Lacks names) {name : String}
    (hname : name ∈ names) : t.find? name = none := by
  refine find?_eq_none fun hmem => ?_
  obtain ⟨m, hm, rfl⟩ := List.mem_map.mp hmem
  exact h m hm hname

theorem find?_append (t u : Table α) (name : String) :
    find? (t ++ u) name = (t.find? name).or (u.find? name) := List.lookup_append

theorem find?_cons (m : String × α) (t : Table α) (name : String) :
    find? (m :: t) name = if name = m.1 then some m.2 else find? t name := by
  rw [find?, List.lookup_cons]
  split_ifs with h
  · rw [beq_iff_eq.mpr h]
  · rw [beq_eq_false_iff_ne.mpr h]
    rfl

theorem find?_filter (t : Table α) (p : String → Bool) (name : String) :
    find? (t.filter fun m => p m.1) name = if p name then t.find? name else none := by
  induction t with
  | nil => exact (ite_self none).symm
  | cons m t ih =>
      rw [find?_cons]
      cases hm : p m.1 with
      | true =>
          rw [List.filter_cons_of_pos (by exact hm), find?_cons, ih]
          by_cases hname : name = m.1
          · rw [if_pos hname, if_pos hname, hname, if_pos hm]
          · rw [if_neg hname, if_neg hname]
      | false =>
          rw [List.filter_cons_of_neg (by simp [hm]), ih]
          by_cases hname : name = m.1
          · rw [hname, hm, if_neg Bool.false_ne_true, if_neg Bool.false_ne_true]
          · rw [if_neg hname]

theorem find?_without (t : Table α) {names : List String} {name : String} (h : name ∉ names) :
    find? (without t names) name = find? t name := by
  rw [without, find?_filter t fun n => !names.contains n, if_pos (by simpa using h)]

theorem put_of_new {t : Table α} {name : String} (h : name ∉ t.names) (a : α) :
    t.put name a = t ++ [(name, a)] := by
  induction t with
  | nil => rfl
  | cons m t ih =>
      obtain ⟨hm, ht⟩ := List.ne_and_not_mem_of_not_mem_cons h
      simp only [put, beq_eq_false_iff_ne.mpr hm.symm, Bool.false_eq_true, if_false, ih ht,
        List.cons_append]

theorem names_put (t : Table α) (name : String) (a : α) :
    (t.put name a).names = if name ∈ t.names then t.names else t.names ++ [name] := by
  induction t with
  | nil => rfl
  | cons m t ih =>
      obtain ⟨n, b⟩ := m
      by_cases hn : n = name
      · subst hn
        simp [put, names]
      · have hput : put ((n, b) :: t) name a = (n, b) :: put t name a := by simp [put, hn]
        rw [hput]
        simp only [names, List.map_cons] at ih ⊢
        rw [ih]
        by_cases hname : name ∈ t.map (·.1) <;> simp [hname, Ne.symm hn]

theorem mem_names_put {t : Table α} {name other : String} {a : α} :
    other ∈ (t.put name a).names ↔ other = name ∨ other ∈ t.names := by
  rw [names_put]
  split_ifs with hname
  · exact ⟨.inr, fun h => h.elim (fun heq => heq ▸ hname) id⟩
  · rw [List.mem_append, List.mem_singleton, or_comm]

theorem nodup_put {t : Table α} (h : t.names.Nodup) (name : String) (a : α) :
    (t.put name a).names.Nodup := by
  rw [names_put]
  split_ifs with hname
  · exact h
  · exact List.nodup_append.mpr ⟨h, List.pairwise_singleton _ _, fun n hn m hm heq =>
      hname (by rw [← List.mem_singleton.mp hm, ← heq]; exact hn)⟩

theorem find?_put (t : Table α) (name other : String) (a : α) :
    (t.put name a).find? other = if other = name then some a else t.find? other := by
  induction t with
  | nil => exact find?_cons (name, a) [] other
  | cons m t ih =>
      obtain ⟨n, b⟩ := m
      by_cases hn : n = name
      · subst hn
        simp only [put, beq_self_eq_true, if_true, find?_cons]
        split_ifs <;> rfl
      · have hput : put ((n, b) :: t) name a = (n, b) :: put t name a := by simp [put, hn]
        rw [hput, find?_cons, find?_cons, ih]
        by_cases hother : other = n
        · rw [if_pos hother, if_pos hother, if_neg (fun h => hn (hother.symm.trans h))]
        · rw [if_neg hother, if_neg hother]

theorem isSome_find? {t : Table α} {name : String} :
    (t.find? name).isSome = true ↔ name ∈ t.names := by
  refine ⟨fun h => ?_, fun h => ?_⟩
  · obtain ⟨a, ha⟩ := Option.isSome_iff_exists.mp h
    exact List.mem_map_of_mem (mem_of_find? ha)
  · refine Option.isSome_iff_ne_none.mpr fun hnone => ?_
    obtain ⟨m, hm, rfl⟩ := List.mem_map.mp h
    exact absurd (List.lookup_eq_none_iff.mp hnone m hm) (by simp)

theorem has_eq_isSome_find? (t : Table α) (name : String) : t.has name = (t.find? name).isSome := by
  rw [Bool.eq_iff_iff, isSome_find?, has, names, List.any_eq_true, List.mem_map]
  simp only [beq_iff_eq]

-- Where no two members go by one name, each is found by its own.
theorem find?_eq_some_iff {t : Table α} (h : t.names.Nodup) {name : String} {a : α} :
    t.find? name = some a ↔ (name, a) ∈ t := by
  refine ⟨mem_of_find?, fun hm => ?_⟩
  obtain ⟨b, hb⟩ := Option.isSome_iff_exists.mp (isSome_find?.mpr (List.mem_map_of_mem hm))
  have hsame := List.inj_on_of_nodup_map h (mem_of_find? hb) hm rfl
  rw [hb, (Prod.mk.inj hsame).2]

-- Such a table is told by what is found in it, up to the order of its members.
theorem find?_perm {t u : Table α} (h : t.Perm u) (hnodup : t.names.Nodup) (name : String) :
    t.find? name = u.find? name := by
  have hu : u.names.Nodup := (h.map Prod.fst).nodup_iff.mp hnodup
  refine Option.ext fun a => ?_
  rw [find?_eq_some_iff hnodup, find?_eq_some_iff hu, h.mem_iff]

theorem perm_of_find? {t u : Table α} (ht : t.names.Nodup) (hu : u.names.Nodup)
    (h : ∀ name, t.find? name = u.find? name) : t.Perm u := by
  refine (List.perm_ext_iff_of_nodup (List.Nodup.of_map _ ht) (List.Nodup.of_map _ hu)).mpr fun m => ?_
  rw [← find?_eq_some_iff ht, ← find?_eq_some_iff hu, h]

theorem merge_append (t u v : Table α) : merge t (u ++ v) = merge (merge t u) v := List.foldl_append

theorem merge_cons (t : Table α) (m : String × α) (u : Table α) :
    merge t (m :: u) = merge (t.put m.1 m.2) u := rfl

theorem mem_merge {t u : Table α} {m : String × α} (h : m ∈ merge t u) : m ∈ t ∨ m ∈ u := by
  induction u generalizing t with
  | nil => exact .inl h
  | cons n u ih =>
      rcases ih h with hput | hu
      · rcases mem_put hput with rfl | ht
        · exact .inr List.mem_cons_self
        · exact .inl ht
      · exact .inr (List.mem_cons_of_mem _ hu)

theorem nodup_merge {t : Table α} (h : t.names.Nodup) (u : Table α) : (merge t u).names.Nodup := by
  induction u generalizing t with
  | nil => exact h
  | cons m u ih => exact ih (nodup_put h m.1 m.2)

-- What is merged in comes before what was there.
theorem find?_merge (t : Table α) {u : Table α} (h : u.names.Nodup) (name : String) :
    (merge t u).find? name = (u.find? name).or (t.find? name) := by
  induction u generalizing t with
  | nil => rfl
  | cons m u ih =>
      obtain ⟨hm, hu⟩ := List.nodup_cons.mp h
      rw [merge_cons, ih _ hu, find?_put, find?_cons]
      split_ifs with hname
      · rw [hname, find?_eq_none hm, Option.none_or, Option.some_or]
      · rfl

theorem merge_of_new {t u : Table α} (hnew : ∀ m ∈ u, m.1 ∉ t.names) (hnodup : u.names.Nodup) :
    merge t u = t ++ u := by
  induction u generalizing t with
  | nil => exact (List.append_nil t).symm
  | cons m u ih =>
      obtain ⟨hm, hu⟩ := List.forall_mem_cons.mp hnew
      obtain ⟨hfirst, hrest⟩ := List.nodup_cons.mp hnodup
      have hnext : ∀ n ∈ u, n.1 ∉ names (t ++ [m]) := by
        intro n hn hmem
        rw [names, List.map_append, List.mem_append] at hmem
        rcases hmem with hmem | hmem
        · exact hu n hn hmem
        · rw [List.map_singleton, List.mem_singleton] at hmem
          exact hfirst (List.mem_map.mpr ⟨n, hn, hmem⟩)
      rw [merge, List.foldl_cons, put_of_new hm]
      exact (ih hnext hrest).trans (by rw [List.append_assoc, List.singleton_append])

-- Members of some names behind members of other names.
section

variable {t u : Table α} {names : List String} (ht : t.Lacks names) (hu : ∀ m ∈ u, m.1 ∈ names)
include ht

theorem find?_append_of_lacks {name : String} (hname : name ∈ names) :
    find? (t ++ u) name = find? u name := by
  rw [find?_append, find?_of_lacks ht hname, Option.none_or]

include hu

theorem merge_of_lacks (hnodup : u.names.Nodup) : merge t u = t ++ u := by
  refine merge_of_new (fun m hm hmem => ?_) hnodup
  obtain ⟨n, hn, hname⟩ := List.mem_map.mp hmem
  exact ht n hn (hname ▸ hu m hm)

theorem without_append_of_lacks : without (t ++ u) names = t := by
  rw [without_append, without_of_lacks ht, without_eq_nil hu, List.append_nil]

end

end FieldTemplates.Table
