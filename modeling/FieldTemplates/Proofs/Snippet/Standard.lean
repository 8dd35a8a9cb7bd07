import FieldTemplates.Proofs.Php.Nesting
import FieldTemplates.Proofs.Snippet.Catalog.Register
import FieldTemplates.Proofs.Snippet.Outline

namespace FieldTemplates

namespace Snippet

open Php (Token Nested isBlock)

theorem Catalog.mem_of_find? {c : Catalog} {type : String} {r : Renderer}
    (h : c.find? type = some r) : r ∈ c.renderers.values := by
  rw [find?_eq_or] at h
  rcases Option.or_eq_some_iff.mp h with hown | ⟨-, hr⟩
  · exact Table.mem_values_of_find? hown
  · obtain ⟨owner, -, hr⟩ := Option.bind_eq_some_iff.mp hr
    exact Table.mem_values_of_find? hr

theorem Catalog.mem_registerAll {c : Catalog} {replace : Bool}
    {added : List (Kind × Renderer × List Kind)} {r : Renderer}
    (h : r ∈ (c.registerAll replace added).1.renderers.values) :
    r ∈ c.renderers.values ∨ r ∈ added.map (·.2.1) := by
  refine registerAll_kept (P := fun d => r ∈ d.renderers.values →
    r ∈ c.renderers.values ∨ r ∈ added.map (·.2.1)) (fun d hd p hp hr => ?_) Or.inl h
  rcases mem_values_register hr with hr | rfl
  · exact hd hr
  · exact .inr (List.mem_map_of_mem hp)

def standardPlans : List Renderer := .unsupported :: standardRenderers.map (·.2.1)

theorem Catalog.standard_fallback : Catalog.standard.fallback = some .unsupported := by
  decide

theorem Catalog.standard_values :
    ∀ r ∈ Catalog.standard.renderers.values, r ∈ standardRenderers.map (·.2.1) := by
  intro r hr
  have hmem : r ∈ (Catalog.registerAll {} false standardRenderers).1.renderers.values := by
    rw [standard] at hr
    rcases addStandard_fst {} false with hend | hend
    · rwa [hend] at hr
    · rwa [hend] at hr
  exact (mem_registerAll hmem).resolve_left (by intro h; cases h)

-- There is a renderer for every type, and it is a standard one.
theorem Catalog.standard_resolve (type : String) :
    ∃ r ∈ standardPlans, Catalog.standard.resolve type = .ok r := by
  cases hfind : Catalog.standard.find? type with
  | some r =>
      refine ⟨r, List.mem_cons_of_mem _ (standard_values r (mem_of_find? hfind)), ?_⟩
      simp only [resolve, hfind]
  | none =>
      refine ⟨.unsupported, List.mem_cons_self, ?_⟩
      simp only [resolve, hfind, standard_fallback]

-- How a type is spelled does not matter.
theorem Catalog.standard_resolve_lower {type other : String}
    (h : Text.lower type = Text.lower other) :
    Catalog.standard.resolve type = Catalog.standard.resolve other := by
  have hfind : Catalog.standard.find? type = Catalog.standard.find? other := by
    simp only [find?, h]
  simp only [resolve, hfind, standard_fallback]
  cases Catalog.standard.find? other <;> rfl

-- Whether a renderer sets all of its code itself.
def Renderer.isLeaf (r : Renderer) : Bool :=
  r.steps.all fun
    | .line .. | .block _ => true
    | .children _ | .splice | .branches => false

def leafOutline (sub : Bool) (rows : List (List Mark)) : List Token :=
  rows.flatMap (marksOutline sub)

def passes (leaf : Bool) (rows : List (List Mark)) : Bool :=
  rows.all areSafe && (!leaf || (isBlock (leafOutline false rows) && isBlock (leafOutline true rows)))

theorem toList_of_eq {s : String} {cs : List Char} (h : s = String.ofList cs) : s.toList = cs := by
  rw [h, String.toList_ofList]

open Renderer in
set_option maxRecDepth 20000 in
-- The kernel is slow at taking literals of text apart, so they are spelled out first.
theorem standard_passes : ∀ r ∈ standardPlans, passes r.isLeaf r.marks = true := by
  simp only [standardPlans, standardRenderers, List.map, List.forall_mem_cons, unsupported, text, url,
    password, image, file, wysiwyg, oembed, gallery, select, checkbox, buttonGroup, trueFalse, link,
    postObject, pageLink, relationship, taxonomy, user, googleMap, datePicker, dateTimePicker,
    timePicker, colorPicker, repeater, flexibleContent, group, clone, uiOnly]
  simp only [paragraph, assigned, richContent, moment, figure, guarded, either, each, listed, listedAs,
    row, fixed, deeper, rowsGuard, rowsLoop, rowsEnd, isLeaf, marks, Step.marks, Piece.mark, List.map,
    List.flatMap_cons, List.flatMap_nil, List.cons_append, List.nil_append, List.append_nil]
  simp (disch := rfl) only [toList_of_eq]
  decide +kernel

theorem Catalog.standard_safe : Catalog.standard.Safe := by
  intro type
  obtain ⟨r, hmem, hr⟩ := standard_resolve type
  exact ⟨r, hr, (Bool.and_eq_true_iff.mp (standard_passes r hmem)).1⟩

-- Four renderers hold code of other fields.
theorem standard_composites : ∀ r ∈ standardPlans, r.isLeaf = true ∨
    r = .repeater ∨ r = .flexibleContent ∨ r = .group ∨ r = .clone := by
  simp only [standardPlans, standardRenderers, List.map, List.forall_mem_cons]
  and_intros
  all_goals
    first
    | exact .inl rfl
    | exact .inr (by simp only [true_or, or_true])
    | exact fun _ hr => absurd hr List.not_mem_nil

theorem Renderer.outline_of_isLeaf {r : Renderer} (hleaf : r.isLeaf = true) (sub : Bool)
    (inside : Inside) : r.outline sub inside = leafOutline sub r.marks := by
  rw [outline, leafOutline, marks, List.flatMap_assoc]
  refine List.flatMap_congr fun step hstep => ?_
  have hs := List.all_eq_true.mp hleaf step hstep
  cases step with
  | line offset row => simp [Step.outline, Step.marks, rowOutline]
  | block rows => simp [Step.outline, Step.marks, rowOutline, List.flatMap_map]
  | children | splice | branches => cases hs

theorem nested_leaf {r : Renderer} (hmem : r ∈ standardPlans) (hleaf : r.isLeaf = true) (sub : Bool)
    (inside : Inside) : Nested .block (r.outline sub inside) := by
  have hpasses := standard_passes r hmem
  simp only [passes, hleaf, Bool.not_true, Bool.false_or, Bool.and_eq_true] at hpasses
  rw [Renderer.outline_of_isLeaf hleaf]
  cases sub with
  | false => exact Php.nested_of_isBlock hpasses.2.1
  | true => exact Php.nested_of_isBlock hpasses.2.2

end Snippet

end FieldTemplates
