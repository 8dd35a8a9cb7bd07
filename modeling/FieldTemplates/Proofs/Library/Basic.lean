import FieldTemplates.Library.Basic
import Mathlib.Data.List.Basic
import Mathlib.Data.List.Nodup

namespace FieldTemplates.Library

theorem addAll_append (l : Library) (gs hs : List Group) :
    l.addAll (gs ++ hs) = (l.addAll gs).addAll hs :=
  List.foldl_append

theorem addAllLog_append (l : Library) (gs hs : List Group) :
    l.addAllLog (gs ++ hs) = l.addAllLog gs ++ (l.addAll gs).addAllLog hs := by
  induction gs generalizing l with
  | nil => rfl
  | cons g gs ih =>
      simp only [List.cons_append, addAllLog, ih, List.append_assoc]
      rfl

-- Only repeated keys are told of.
theorem mem_addAllLog {entry : Log.Entry} {l : Library} {gs : List Group}
    (h : entry ∈ l.addAllLog gs) :
    ∃ g ∈ gs, entry = Log.warning s!"Duplicate field group key {g.key}; keeping the first" := by
  induction gs generalizing l with
  | nil => cases h
  | cons g gs ih =>
      rcases List.mem_append.mp h with hfirst | hrest
      · unfold addLog at hfirst
        split at hfirst
        · exact ⟨g, List.mem_cons_self, List.mem_singleton.mp hfirst⟩
        · cases hfirst
      · obtain ⟨other, hother, heq⟩ := ih hrest
        exact ⟨other, List.mem_cons_of_mem _ hother, heq⟩

theorem has_iff {l : Library} {key : String} : l.has key = true ↔ key ∈ l.keys := by
  simp only [has, keys, List.any_eq_true, List.mem_map, beq_iff_eq]

theorem isSome_find? {l : Library} {key : String} : (l.find? key).isSome = true ↔ key ∈ l.keys := by
  rw [← has_iff, find?, List.find?_isSome, has, List.any_eq_true]

theorem has_eq_isSome_find? (l : Library) (key : String) : l.has key = (l.find? key).isSome := by
  rw [Bool.eq_iff_iff, has_iff, isSome_find?]

theorem add_of_known {l : Library} {g : Group} (h : g.key ∈ l.keys) : l.add g = l := by
  rw [add, if_pos (has_iff.mpr h)]

theorem add_of_new {l : Library} {g : Group} (h : g.key ∉ l.keys) : l.add g = ⟨l.groups ++ [g]⟩ := by
  rw [add, if_neg (fun hhas => h (has_iff.mp hhas))]

theorem nodup_add {l : Library} (g : Group) (h : l.keys.Nodup) : (l.add g).keys.Nodup := by
  by_cases hg : g.key ∈ l.keys
  · rwa [add_of_known hg]
  · rw [add_of_new hg, keys, List.map_append]
    exact List.nodup_append.mpr ⟨h, List.pairwise_singleton _ _, fun key hkey other hother heq =>
      hg (by rw [← List.mem_singleton.mp hother, ← heq]; exact hkey)⟩

theorem find?_add (l : Library) (g : Group) (key : String) :
    (l.add g).find? key = (l.find? key).or (if g.key = key then some g else none) := by
  by_cases hg : g.key ∈ l.keys
  · rw [add_of_known hg]
    by_cases hkey : g.key = key
    · obtain ⟨first, hfirst⟩ := Option.isSome_iff_exists.mp (isSome_find?.mpr (hkey ▸ hg))
      rw [hfirst, Option.some_or]
    · rw [if_neg hkey, Option.or_none]
  · rw [add_of_new hg, find?, List.find?_append, find?]
    by_cases hkey : g.key = key <;> simp [hkey]

-- A run of additions keeps what there is and goes on with some of the new groups.
theorem groups_addAll (l : Library) (gs : List Group) :
    ∃ kept, kept.Sublist gs ∧ (l.addAll gs).groups = l.groups ++ kept := by
  induction gs generalizing l with
  | nil => exact ⟨[], .refl [], (List.append_nil _).symm⟩
  | cons g gs ih =>
      obtain ⟨kept, hsublist, hkept⟩ := ih (l.add g)
      have hstep : l.addAll (g :: gs) = (l.add g).addAll gs := rfl
      by_cases hg : g.key ∈ l.keys
      · rw [add_of_known hg] at hkept
        exact ⟨kept, hsublist.cons g, by rw [hstep, add_of_known hg, hkept]⟩
      · refine ⟨g :: kept, hsublist.cons_cons g, ?_⟩
        rw [hstep, hkept, add_of_new hg, List.append_assoc]
        rfl

theorem nodup_addAll {l : Library} (gs : List Group) (h : l.keys.Nodup) : (l.addAll gs).keys.Nodup := by
  induction gs generalizing l with
  | nil => exact h
  | cons g gs ih => exact ih (nodup_add g h)

theorem find?_addAll (l : Library) (gs : List Group) (key : String) :
    (l.addAll gs).find? key = (l.find? key).or (gs.find? (·.key == key)) := by
  induction gs generalizing l with
  | nil => exact (Option.or_none).symm
  | cons g gs ih =>
      have hstep : l.addAll (g :: gs) = (l.add g).addAll gs := rfl
      rw [hstep, ih, find?_add, Option.or_assoc]
      by_cases hkey : g.key = key
      · simp only [List.find?_cons, if_pos hkey, beq_iff_eq.mpr hkey, Option.some_or]
      · simp only [List.find?_cons, if_neg hkey, beq_false_of_ne hkey, Option.none_or]

theorem keys_addAll (l : Library) (gs : List Group) : (l.addAll gs).keys =
    l.keys ++ ((gs.map Group.key).filter fun key => !l.keys.contains key).eraseDups := by
  induction gs generalizing l with
  | nil => exact (List.append_nil _).symm
  | cons g gs ih =>
      have hstep : l.addAll (g :: gs) = (l.add g).addAll gs := rfl
      rw [hstep, ih, List.map_cons]
      by_cases hg : g.key ∈ l.keys
      · rw [add_of_known hg, List.filter_cons_of_neg (by simpa using hg)]
      · have hkeys : (l.add g).keys = l.keys ++ [g.key] := by
          rw [add_of_new hg, keys, List.map_append]
          rfl
        rw [hkeys, List.filter_cons_of_pos (by simpa using hg), List.eraseDups_cons, List.append_assoc,
          List.singleton_append, List.filter_filter]
        refine congrArg (fun rest => l.keys ++ g.key :: List.eraseDups rest) ?_
        refine List.filter_congr fun key _ => ?_
        by_cases hkey : key = g.key <;> simp [hkey]

theorem keys_ofGroups (gs : List Group) : (ofGroups gs).keys = (gs.map Group.key).eraseDups := by
  have hall : ((gs.map Group.key).filter fun key => !(keys {}).contains key) = gs.map Group.key :=
    List.filter_eq_self.mpr fun _ _ => rfl
  rw [ofGroups, keys_addAll, hall]
  rfl

theorem find?_of_mem {l : Library} (h : l.keys.Nodup) {g : Group} (hg : g ∈ l.groups) :
    l.find? g.key = some g := by
  obtain ⟨other, hother⟩ := Option.isSome_iff_exists.mp (isSome_find?.mpr (List.mem_map_of_mem hg))
  have hkey : other.key = g.key := by simpa using List.find?_some hother
  rw [hother, List.inj_on_of_nodup_map h (List.mem_of_find?_eq_some hother) hg hkey]

-- Listing the keys and looking each of them up loses no group and repeats none.
theorem filterMap_find?_keys {l : Library} (h : l.keys.Nodup) : l.keys.filterMap l.find? = l.groups := by
  have hall : ∀ g ∈ l.groups, (l.find? ∘ Group.key) g = some g := fun g hg => find?_of_mem h hg
  rw [keys, List.filterMap_map, List.filterMap_congr hall, List.filterMap_some]

theorem sublist_ofGroups (gs : List Group) : (ofGroups gs).groups.Sublist gs := by
  obtain ⟨kept, hsublist, hkept⟩ := groups_addAll {} gs
  rw [ofGroups, hkept]
  exact hsublist

theorem mem_ofGroups {g : Group} {gs : List Group} (h : g ∈ (ofGroups gs).groups) : g ∈ gs :=
  (sublist_ofGroups gs).subset h

theorem nodup_ofGroups (gs : List Group) : (ofGroups gs).keys.Nodup := nodup_addAll gs List.nodup_nil

theorem find?_ofGroups (gs : List Group) (key : String) :
    (ofGroups gs).find? key = gs.find? (·.key == key) := by
  rw [ofGroups, find?_addAll]
  rfl

theorem mem_keys_ofGroups {gs : List Group} {key : String} :
    key ∈ (ofGroups gs).keys ↔ key ∈ gs.map Group.key := by
  rw [← isSome_find?, find?_ofGroups, List.find?_isSome]
  simp only [List.mem_map, beq_iff_eq]

end FieldTemplates.Library
