import FieldTemplates.Proofs.Snippet.Reading
import FieldTemplates.Proofs.Snippet.Spots

namespace FieldTemplates

namespace Field

mutual

-- The fields in the order of their code. Only rows, groups and clones show their sub-fields, only
-- flexible fields those of their layouts, in whatever case the type is spelled.
def shown : Field → List Field
  | ⟨key, name, label, type, subFields, layouts, extra⟩ =>
    ⟨key, name, label, type, subFields, layouts, extra⟩ ::
      if Text.lower type ∈ ["repeater", "group", "clone"] then shownAll subFields
      else if Text.lower type = "flexible_content" then shownIn layouts
      else []

def shownAll : List Field → List Field
  | [] => []
  | f :: fs => shown f ++ shownAll fs

def shownIn : List Layout → List Field
  | [] => []
  | ⟨_, _, _, subFields, _⟩ :: ls => shownAll subFields ++ shownIn ls

end

theorem map_field_spots :
    (∀ (f : Field) around, (f.spots around).map Spot.field = f.shown) ∧
      (∀ fs around, (spotsAll around fs).map Spot.field = shownAll fs) ∧
      (∀ ls around, (spotsIn around ls).map Spot.field = shownIn ls) := by
  refine tree_induction ?_ ?_ ?_ ?_ ?_
  · intro key name label type subFields layouts extra hsub hlayouts around
    simp only [spots, shown, List.map_cons]
    split_ifs
    · rw [hsub]
    · rw [hlayouts]
    · rfl
  · exact fun around => rfl
  · intro f fs hf hfs around
    simp only [spotsAll, shownAll, List.map_append, hf, hfs]
  · exact fun around => rfl
  · intro key name label subFields extra ls hsub hlayouts around
    simp only [spotsIn, shownIn, List.map_append, hsub, hlayouts]

end Field

namespace Snippet

variable {β : Type}

-- What a step holds of other fields: the sub-fields as rows or in the place of the field, or branches.
def Step.held (children splice branches : List β) : Step → List β
  | line .. | block _ => []
  | .children _ => children
  | .splice => splice
  | .branches => branches

theorem flatMap_held {γ : Type} (g : β → List γ) (children splice branches : List β)
    (steps : List Step) : (steps.flatMap (Step.held children splice branches)).flatMap g =
      steps.flatMap (Step.held (children.flatMap g) (splice.flatMap g) (branches.flatMap g)) := by
  rw [List.flatMap_assoc]
  exact List.flatMap_congr fun step _ => by cases step <;> rfl

theorem flatMap_held_leaf {r : Renderer} (hleaf : r.isLeaf = true) (children splice branches : List β) :
    r.steps.flatMap (Step.held children splice branches) = [] := by
  refine List.flatMap_eq_nil_iff.mpr fun step hstep => ?_
  have hs := List.all_eq_true.mp hleaf step hstep
  cases step with
  | line | block => rfl
  | children | splice | branches => cases hs

-- Only clones put their fields in their own place, and they do nothing else with them.
theorem standard_holds {type : String} {r : Renderer} (hr : Catalog.standard.resolve type = .ok r) :
    ∀ step ∈ r.steps, match step with
      | .line .. | .block _ => True
      | .children _ => Text.lower type ≠ "clone" ∧ Text.lower type ∈ ["repeater", "group"]
      | .splice => Text.lower type = "clone"
      | .branches => Text.lower type ≠ "clone" := by
  rcases standard_type_cases type with ⟨htype, hq⟩ | ⟨htype, hq⟩ | ⟨htype, hq⟩ | ⟨htype, hq⟩ |
    ⟨-, q, -, hq, hleaf⟩ <;> obtain rfl := Except.ok.inj (hr.symm.trans hq)
  · simp [htype, Renderer.repeater, Renderer.rowsGuard, Renderer.rowsLoop, Renderer.rowsEnd]
  · simp [htype, Renderer.group, Renderer.rowsGuard, Renderer.rowsLoop, Renderer.rowsEnd]
  · simp [htype, Renderer.clone]
  · simp [htype, Renderer.flexibleContent, Renderer.rowsGuard, Renderer.rowsLoop, Renderer.rowsEnd]
  · intro step hstep
    have hs := List.all_eq_true.mp hleaf step hstep
    cases step with
    | line | block => trivial
    | children | splice | branches => cases hs

theorem flatMap_held_congr {type : String} {r : Renderer}
    (hr : Catalog.standard.resolve type = .ok r)
    {children splice branches children' splice' branches' : List β}
    (hclone : Text.lower type = "clone" → splice = splice')
    (hother : Text.lower type ≠ "clone" → children = children' ∧ branches = branches') :
    r.steps.flatMap (Step.held children splice branches) =
      r.steps.flatMap (Step.held children' splice' branches') := by
  refine List.flatMap_congr fun step hstep => ?_
  have htype := standard_holds hr step hstep
  cases step with
  | line | block => rfl
  | children => exact (hother htype.1).1
  | splice => exact hclone htype
  | branches => exact (hother htype).2

-- The fields that are shown inside a field are those that the steps of its renderer hold.
theorem spots_of_resolve {f : Field} {r : Renderer} (hr : Catalog.standard.resolve f.type = .ok r)
    (around : List Field) :
    f.spots around = ⟨f, around⟩ :: r.steps.flatMap (Step.held
      (Field.spotsAll (f :: around) f.subFields) (Field.spotsAll (f :: around) f.subFields)
      (Field.spotsIn (f :: around) f.layouts)) := by
  obtain ⟨key, name, label, type, subFields, layouts, extra⟩ := f
  simp only [Field.spots]
  rcases standard_type_cases type with ⟨htype, hq⟩ | ⟨htype, hq⟩ | ⟨htype, hq⟩ | ⟨htype, hq⟩ |
    ⟨htype, q, -, hq, hleaf⟩ <;> obtain rfl := Except.ok.inj (hr.symm.trans hq)
  · simp [htype, Renderer.repeater, Renderer.rowsGuard, Renderer.rowsLoop, Renderer.rowsEnd, Step.held]
  · simp [htype, Renderer.group, Renderer.rowsGuard, Renderer.rowsLoop, Renderer.rowsEnd, Step.held]
  · simp [htype, Renderer.clone, Step.held]
  · simp [htype, Renderer.flexibleContent, Renderer.rowsGuard, Renderer.rowsLoop, Renderer.rowsEnd,
      Step.held]
  · simp only [List.mem_cons, List.not_mem_nil, or_false, not_or] at htype
    simp only [List.mem_cons, List.not_mem_nil, or_false, htype, if_false]
    rw [flatMap_held_leaf hleaf]

-- Where the rows of a field say nothing, what it says is what stands inside it.
theorem flatMap_placed {H : Placed → List β} {r : Renderer} {sub : Bool} {subject : Subject}
    (hown : ∀ row ∈ r.rows, H ⟨sub, subject, row⟩ = []) (parts : Parts) :
    (r.steps.flatMap (Step.placed sub subject parts)).flatMap H =
      r.steps.flatMap (Step.held (parts.children.flatMap H) (parts.splice.flatMap H)
        (parts.branches.flatMap H)) := by
  rw [List.flatMap_assoc]
  refine List.flatMap_congr fun step hstep => ?_
  have hrows : ∀ row ∈ step.rows, H ⟨sub, subject, row⟩ = [] := fun row hrow =>
    hown row (List.mem_flatMap.mpr ⟨step, hstep, hrow⟩)
  cases step with
  | line offset row => simpa [Step.placed, Step.held] using hrows row List.mem_cons_self
  | block rows =>
      simp only [Step.placed, Step.held, List.flatMap_map]
      exact List.flatMap_eq_nil_iff.mpr fun q hq => hrows q.2 (List.mem_map_of_mem hq)
  | children offset => rfl
  | splice => rfl
  | branches => rfl

theorem flatMap_placed_leaf {H : Placed → List β} {r : Renderer} (hleaf : r.isLeaf = true)
    (sub : Bool) (subject : Subject) (parts : Parts) :
    (r.steps.flatMap (Step.placed sub subject parts)).flatMap H =
      r.rows.flatMap fun row => H ⟨sub, subject, row⟩ := by
  rw [Renderer.rows, List.flatMap_assoc, List.flatMap_assoc]
  refine List.flatMap_congr fun step hstep => ?_
  have hs := List.all_eq_true.mp hleaf step hstep
  cases step with
  | line offset row => rfl
  | block rows => simp [Step.placed, Step.rows, List.flatMap_map]
  | children | splice | branches => cases hs

-- Rows that say something say it for the field they stand for: the heading and, in a field that sets
-- all of its code, the rows of its renderer. It may depend on whether the field stands in rows.
structure Gathers (H : Placed → List β) (own : Bool → Field → List β) : Prop where
  frame : ∀ p : Placed, p.row ∈ frameRows → p.row ≠ headingRow → H p = []
  leaf : ∀ (f : Field) (r : Renderer), r ∈ standardPlans →
    Catalog.standard.resolve f.type = .ok r → r.isLeaf = true → ∀ sub,
      H (headingOf f.label f.type) ++ r.rows.flatMap (fun row => H ⟨sub, ⟨f.name, f.type⟩, row⟩) =
        own sub f
  composite : ∀ (f : Field) (r : Renderer), r ∈ standardPlans →
    Catalog.standard.resolve f.type = .ok r → r.isLeaf = false → ∀ sub,
      H (headingOf f.label f.type) = own sub f ∧ ∀ row ∈ r.rows, H ⟨sub, ⟨f.name, f.type⟩, row⟩ = []

theorem Gathers.chainEnd {H : Placed → List β} {own : Bool → Field → List β} (h : Gathers H own)
    (layouts : List Layout) : (chainEnd layouts).flatMap H = [] := by
  refine List.flatMap_eq_nil_iff.mpr fun p hp => ?_
  simp only [Snippet.chainEnd] at hp
  split at hp
  · cases hp
  · rw [List.mem_singleton.mp hp]
    exact h.frame _ (by simp [frameRows]) (by simp [chainEndRow, headingRow])

-- What the rows of a tree say is what the fields say that are shown, in their order.
theorem Gathers.rows {H : Placed → List β} {own : Bool → Field → List β} (h : Gathers H own) (k : String) :
    (∀ f around, (fieldRows .standard (.inside k around) f).flatMap H =
        (f.spots around).flatMap fun p => own (p.owner != "") p.field) ∧
      (∀ fs around, (fieldsRows .standard (.inside k around) fs).flatMap H =
        (Field.spotsAll around fs).flatMap fun p => own (p.owner != "") p.field) ∧
      (∀ ls around first, (branchRows .standard (.inside k around) first ls).flatMap H =
        (Field.spotsIn around ls).flatMap fun p => own (p.owner != "") p.field) := by
  refine Field.tree_induction ?_ ?_ ?_ ?_ ?_
  · intro key name label type subFields layouts extra hsub hlayouts around
    obtain ⟨r, hmem, hr⟩ := Catalog.standard_resolve type
    let f : Field := ⟨key, name, label, type, subFields, layouts, extra⟩
    let a := Accessor.inside k around
    let parts : Parts := ⟨fieldsRows .standard (a.nested name) subFields,
      fieldsRows .standard (a.nested a.enclosing) subFields,
      branchRows .standard (a.nested name) true layouts ++ Snippet.chainEnd layouts⟩
    let said := fun p : Spot => own (p.owner != "") p.field
    have hinside : r.steps.flatMap (Step.held (parts.children.flatMap H) (parts.splice.flatMap H)
        (parts.branches.flatMap H)) =
        r.steps.flatMap (Step.held ((Field.spotsAll (f :: around) subFields).flatMap said)
          ((Field.spotsAll (f :: around) subFields).flatMap said)
          ((Field.spotsIn (f :: around) layouts).flatMap said)) := by
      refine flatMap_held_congr hr (fun htype => ?_) fun htype => ?_
      · have hsame : a.nested a.enclosing = .inside k (f :: around) :=
          Accessor.nested_enclosing_inside k around (beq_iff_eq.mpr htype)
        simp only [parts, hsame]
        exact hsub _
      · have hrows : a.nested name = .inside k (f :: around) :=
          Accessor.nested_inside k around (f := f) (beq_eq_false_iff_ne.mpr htype)
        simp only [parts, hrows, List.flatMap_append, h.chainEnd, List.append_nil]
        exact ⟨hsub _, hlayouts _ _⟩
    have hrows : (fieldRows .standard a f).flatMap H = H (headingOf label type) ++
        (r.steps.flatMap (Step.placed a.isSubField ⟨name, type⟩ parts)).flatMap H := by
      simp only [f, fieldRows, hr, List.flatMap_cons]
      rfl
    rw [hrows, spots_of_resolve (f := f) hr, List.flatMap_cons, flatMap_held, ← hinside]
    cases hleaf : r.isLeaf with
    | true =>
        rw [flatMap_placed_leaf hleaf, flatMap_held_leaf hleaf, List.append_nil]
        exact h.leaf f r hmem hr hleaf a.isSubField
    | false =>
        obtain ⟨hheading, hown⟩ := h.composite f r hmem hr hleaf a.isSubField
        rw [flatMap_placed hown]
        exact congrArg (· ++ _) hheading
  · exact fun around => rfl
  · intro f fs hf hfs around
    simp only [fieldsRows, Field.spotsAll, List.flatMap_append, hf, hfs]
  · exact fun around first => rfl
  · intro key name label subFields extra ls hsub hlayouts around first
    have hopening : H ⟨false, ⟨name, ""⟩, branchRow first⟩ = [] :=
      h.frame _ (by cases first <;> simp [frameRows]) (by cases first <;> simp [branchRow, headingRow])
    have hlayout : H ⟨false, ⟨name, ""⟩, layoutRow⟩ = [] :=
      h.frame _ (by simp [frameRows]) (by simp [layoutRow, headingRow])
    have hclosing : H ⟨false, ⟨"", ""⟩, layoutEndRow⟩ = [] :=
      h.frame _ (by simp [frameRows]) (by simp [layoutEndRow, headingRow])
    simp only [branchRows, Field.spotsIn, List.flatMap_append, List.flatMap_cons, List.flatMap_nil,
      hopening, hlayout, hclosing, hsub, hlayouts, List.nil_append]

-- What does not depend on where fields stand is said by the fields that are shown.
theorem Gathers.shown {H : Placed → List β} {own : Field → List β} (h : Gathers H fun _ => own)
    (fs : List Field) :
    (fieldsRows .standard {} fs).flatMap H = (Field.shownAll fs).flatMap own := by
  rw [← Field.map_field_spots.2.1 fs [], List.flatMap_map]
  exact (h.rows "").2.1 fs []

end Snippet

end FieldTemplates
