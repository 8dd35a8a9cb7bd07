import FieldTemplates.Proofs.Snippet.Standard
import Mathlib.Data.List.Nodup

namespace FieldTemplates

namespace Snippet

-- Each name that a kind goes by, with its renderer.
def standardTable : Table Renderer :=
  standardRenderers.flatMap fun p => (p.1 :: p.2.2).map fun kind => (kind.name, p.2.1)

theorem mem_standardPlans {m : String × Renderer} (hm : m ∈ standardTable) : m.2 ∈ standardPlans := by
  obtain ⟨p, hp, hm⟩ := List.mem_flatMap.mp hm
  obtain ⟨kind, -, rfl⟩ := List.mem_map.mp hm
  exact List.mem_cons_of_mem _ (List.mem_map_of_mem hp)

theorem name_inj_plans {r q : Renderer} (hr : r ∈ standardPlans) (hq : q ∈ standardPlans)
    (h : r.name = q.name) : r = q := by
  have hnodup : (standardPlans.map Renderer.name).Nodup := by decide
  exact List.inj_on_of_nodup_map hnodup hr hq h

-- Renderers are compared by their names, the kernel is slow at comparing plans.
theorem Catalog.standard_names :
    (∀ name ∈ Catalog.standard.renderers.names, name ∈ standardTable.names) ∧
      (∀ name ∈ Catalog.standard.aliases.names, name ∈ standardTable.names) ∧
      ∀ name ∈ standardTable.names,
        ((Catalog.standard.renderers.find? name).or
          ((Catalog.standard.aliases.find? name).bind Catalog.standard.renderers.find?)).map
            Renderer.name = (standardTable.find? name).map Renderer.name := by
  decide

theorem Catalog.standard_find? (type : String) :
    Catalog.standard.find? type = standardTable.find? (Text.lower type) := by
  obtain ⟨hrenderers, haliases, hsame⟩ := standard_names
  have hor : Catalog.standard.find? type = (Catalog.standard.renderers.find? (Text.lower type)).or
      ((Catalog.standard.aliases.find? (Text.lower type)).bind Catalog.standard.renderers.find?) :=
    find?_eq_or _ type
  by_cases hknown : Text.lower type ∈ standardTable.names
  · have hnames := hsame _ hknown
    rw [← hor] at hnames
    cases hfind : Catalog.standard.find? type <;>
      cases htable : standardTable.find? (Text.lower type) <;> rw [hfind, htable] at hnames
    · cases hnames
    · cases hnames
    · rename_i r q
      have hr := List.mem_cons_of_mem Renderer.unsupported (standard_values r (mem_of_find? hfind))
      have hq := mem_standardPlans (Table.mem_of_find? htable)
      rw [name_inj_plans hr hq (Option.some.inj hnames)]
  · rw [hor, Table.find?_eq_none fun h => hknown (hrenderers _ h),
      Table.find?_eq_none fun h => hknown (haliases _ h), Table.find?_eq_none hknown]
    rfl

theorem Catalog.standard_resolve_eq (type : String) : Catalog.standard.resolve type =
    .ok ((standardTable.find? (Text.lower type)).getD .unsupported) := by
  rw [resolve, standard_find?, standard_fallback]
  cases standardTable.find? (Text.lower type) <;> rfl

theorem standardTable_composites : ∀ m ∈ standardTable, m.2.isLeaf = true ∨
    m = ("repeater", .repeater) ∨ m = ("group", .group) ∨ m = ("clone", .clone) ∨
      m = ("flexible_content", .flexibleContent) := by
  simp only [standardTable, standardRenderers, List.flatMap_cons, List.flatMap_nil, List.map,
    List.cons_append, List.nil_append, List.append_nil, List.forall_mem_cons]
  and_intros
  all_goals
    first
    | exact .inl rfl
    | exact .inr (by simp only [Kind.name, true_or, or_true])
    | exact fun _ hm => absurd hm List.not_mem_nil

-- A type that holds code of other fields, and what it is, or a type that sets all of its code.
theorem standard_type_cases (type : String) :
    (Text.lower type = "repeater" ∧ Catalog.standard.resolve type = .ok .repeater) ∨
      (Text.lower type = "group" ∧ Catalog.standard.resolve type = .ok .group) ∨
      (Text.lower type = "clone" ∧ Catalog.standard.resolve type = .ok .clone) ∨
      (Text.lower type = "flexible_content" ∧ Catalog.standard.resolve type = .ok .flexibleContent) ∨
      Text.lower type ∉ ["repeater", "group", "clone", "flexible_content"] ∧
        ∃ r ∈ standardPlans, Catalog.standard.resolve type = .ok r ∧ r.isLeaf = true := by
  have hnames : ∀ name ∈ ["repeater", "group", "clone", "flexible_content"],
      (standardTable.find? name).any (!·.isLeaf) = true := by decide
  rw [Catalog.standard_resolve_eq]
  cases hfind : standardTable.find? (Text.lower type) with
  | none =>
      refine .inr (.inr (.inr (.inr ⟨fun hmem => ?_, .unsupported, List.mem_cons_self, rfl, rfl⟩)))
      have hany := hnames _ hmem
      rw [hfind] at hany
      cases hany
  | some r =>
      have hm := Table.mem_of_find? hfind
      rcases standardTable_composites _ hm with hleaf | h | h | h | h
      · have hr : r ∈ standardPlans := mem_standardPlans hm
        refine .inr (.inr (.inr (.inr ⟨fun hmem => ?_, r, hr, rfl, hleaf⟩)))
        have hany := hnames _ hmem
        rw [hfind] at hany
        simp [hleaf] at hany
      all_goals
        obtain ⟨hname, rfl⟩ := Prod.mk.inj h
        simp only [hname, Option.getD_some, and_self, true_or, or_true]

theorem standard_composite (type : String) :
    (Text.lower type = "repeater" → Catalog.standard.resolve type = .ok .repeater) ∧
      (Text.lower type = "group" → Catalog.standard.resolve type = .ok .group) ∧
      (Text.lower type = "clone" → Catalog.standard.resolve type = .ok .clone) ∧
      (Text.lower type = "flexible_content" →
        Catalog.standard.resolve type = .ok .flexibleContent) := by
  rcases standard_type_cases type with ⟨htype, hr⟩ | ⟨htype, hr⟩ | ⟨htype, hr⟩ | ⟨htype, hr⟩ |
    ⟨htype, -⟩
  all_goals simp_all

end Snippet

end FieldTemplates
