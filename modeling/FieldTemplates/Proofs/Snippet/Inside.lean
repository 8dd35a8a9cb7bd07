import FieldTemplates.Proofs.Snippet.Standard

namespace FieldTemplates.Snippet

open Code (Line)

-- The lines that a renderer sets for a field, behind its heading.
def Renderer.lines (r : Renderer) (s : Setting) (a : Accessor) (depth : Int) (f : Field) :
    Except CatalogError (List Line) :=
  stepsLines (stepLines s a depth f.name f.type f.subFields f.layouts) r.steps

-- Lines between the heading of a field and the blank line that ends it.
def enclosed (depth : Int) (f : Field) (lines : Except CatalogError (List Line)) :
    Except CatalogError (List Line) :=
  joined (joined (.ok [heading depth f.label f.type]) lines) (.ok [Code.blank])

theorem fieldLines_eq_enclosed {s : Setting} {f : Field} {r : Renderer}
    (hr : s.catalog.resolve f.type = .ok r) (a : Accessor) (depth : Int) :
    fieldLines s a depth f = enclosed depth f (r.lines s a depth f) := by
  obtain ⟨key, name, label, type, subFields, layouts, extra⟩ := f
  exact fieldLines_of_resolve hr a depth key name label subFields layouts extra

theorem enclosed_eq_ok_iff {depth : Int} {f : Field} {lines : Except CatalogError (List Line)}
    {all : List Line} : enclosed depth f lines = .ok all ↔
      ∃ ls, lines = .ok ls ∧ all = heading depth f.label f.type :: ls ++ [Code.blank] := by
  constructor
  · intro h
    cases lines with
    | error e => cases h
    | ok ls => exact ⟨ls, rfl, (Except.ok.inj h).symm⟩
  · rintro ⟨ls, rfl, rfl⟩
    rfl

-- Neither what is inside nor how other types are rendered matters to a leaf.
theorem Renderer.lines_of_isLeaf {r : Renderer} (hleaf : r.isLeaf = true) {s t : Setting}
    (hstyle : t.style = s.style) {f g : Field} (hname : g.name = f.name) (htype : g.type = f.type)
    (a : Accessor) (depth : Int) : r.lines t a depth g = r.lines s a depth f := by
  have hsteps : ∀ step ∈ r.steps,
      stepLines t a depth g.name g.type g.subFields g.layouts step =
        stepLines s a depth f.name f.type f.subFields f.layouts step := by
    intro step hstep
    have hs := List.all_eq_true.mp hleaf step hstep
    cases step with
    | line | block => simp only [stepLines, hstyle, hname, htype]
    | children | splice | branches => cases hs
  exact steps_related rfl (fun hfirst hrest => by rw [hfirst, hrest]) hsteps

theorem fieldTrace_of_isLeaf {r : Renderer} (hleaf : r.isLeaf = true) {s t : Setting}
    (hstyle : t.style = s.style) {f : Field} (hs : s.catalog.resolve f.type = .ok r)
    (ht : t.catalog.resolve f.type = .ok r) (a : Accessor) (depth : Int) :
    fieldTrace t a depth f = fieldTrace s a depth f := by
  have hsteps : r.steps.map (stepTrace t ⟨f, a, depth⟩) = r.steps.map (stepTrace s ⟨f, a, depth⟩) := by
    refine List.map_congr_left fun step hstep => ?_
    have hlast := List.all_eq_true.mp hleaf step hstep
    cases step with
    | line | block => simp only [stepTrace, hstyle]
    | children | splice | branches => cases hlast
  rw [fieldTrace_of_resolve hs, fieldTrace_of_resolve ht, hsteps]

theorem Renderer.exists_lines_of_isLeaf {r : Renderer} (hleaf : r.isLeaf = true) (s : Setting)
    (a : Accessor) (depth : Int) (f : Field) : ∃ ls, r.lines s a depth f = .ok ls := by
  refine steps_closed (P := fun lines (_ : List Unit) => ∃ ls, lines = .ok ls) (g := fun _ => [])
    ⟨[], rfl⟩ ?_ ?_
  · rintro first rest _ _ ⟨ls, rfl⟩ ⟨more, rfl⟩
    exact ⟨ls ++ more, rfl⟩
  · intro step hstep
    have hs := List.all_eq_true.mp hleaf step hstep
    cases step with
    | line | block => exact ⟨_, rfl⟩
    | children | splice | branches => cases hs

-- Whether a step is for fields inside.
def Step.isInside : Step → Bool
  | .line .. | .block _ => false
  | .children _ | .splice | .branches => true

theorem Renderer.exists_inside {r : Renderer} (hleaf : r.isLeaf = false) :
    ∃ step ∈ r.steps, step.isInside = true := by
  simp only [isLeaf, List.all_eq_false] at hleaf
  obtain ⟨step, hstep, hinside⟩ := hleaf
  refine ⟨step, hstep, ?_⟩
  cases step with
  | line | block => exact absurd rfl hinside
  | children | splice | branches => rfl

-- A field of a type with nothing in it, and one with such fields in every place that there is for them.
def bareField (type : String) : Field := ⟨"", "", "", type, [], [], []⟩

def fullField (type : String) : Field :=
  ⟨"", "", "", type, [bareField type], [⟨"", "", "", [bareField type], []⟩], []⟩

-- Lines that are there on both sides; the text on the right is longer by so many characters or more.
def Longer (unit : List Char) (lines more : Except CatalogError (List Line)) (count : Nat) : Prop :=
  ∃ ls ms, lines = .ok ls ∧ more = .ok ms ∧
    (Code.text unit ls).length + count ≤ (Code.text unit ms).length

theorem Longer.same (unit : List Char) (ls : List Line) : Longer unit (.ok ls) (.ok ls) 0 :=
  ⟨ls, ls, rfl, rfl, Nat.le_refl _⟩

theorem Longer.append {unit : List Char} {lines more lines' more' : Except CatalogError (List Line)}
    {m n : Nat} (h : Longer unit lines more m) (h' : Longer unit lines' more' n) :
    Longer unit (joined lines lines') (joined more more') (m + n) := by
  obtain ⟨ls, ms, rfl, rfl, hle⟩ := h
  obtain ⟨ls', ms', rfl, rfl, hle'⟩ := h'
  refine ⟨ls ++ ls', ms ++ ms', rfl, rfl, ?_⟩
  rw [Code.text_append, Code.text_append, List.length_append, List.length_append]
  omega

theorem length_text_pos (unit : List Char) {ls : List Line} (h : ls ≠ []) :
    1 ≤ (Code.text unit ls).length := by
  obtain ⟨l, more, rfl⟩ := List.exists_cons_of_ne_nil h
  rw [Code.text, List.flatMap_cons, List.length_append, Line.text]
  split
  · rw [List.length_singleton]
    omega
  · rw [List.length_append, List.length_singleton]
    omega

-- The text is longer by a character for each step that is for fields inside.
theorem Longer.steps {unit : List Char} {f g : Step → Except CatalogError (List Line)} {steps : List Step}
    (h : ∀ step ∈ steps, Longer unit (f step) (g step) (if step.isInside then 1 else 0)) :
    Longer unit (stepsLines f steps) (stepsLines g steps) (steps.countP Step.isInside) := by
  induction steps with
  | nil => exact .same unit []
  | cons step steps ih =>
      have hrest := ih fun other hother => h other (List.mem_cons_of_mem _ hother)
      rw [stepsLines_cons, stepsLines_cons, List.countP_cons, Nat.add_comm]
      exact (h step List.mem_cons_self).append hrest

section

variable {s : Setting} {type : String} {r : Renderer} (hr : s.catalog.resolve type = .ok r)
include hr

theorem bareField_lines (a : Accessor) (depth : Int) :
    ∃ ls, fieldLines s a depth (bareField type) = .ok ls ∧ ls ≠ [] := by
  have hsteps : ∀ steps : List Step, ∃ ls,
      stepsLines (stepLines s a depth "" type [] []) steps = .ok ls := by
    intro steps
    induction steps with
    | nil => exact ⟨[], rfl⟩
    | cons step steps ih =>
        obtain ⟨first, hfirst⟩ : ∃ first, stepLines s a depth "" type [] [] step = .ok first := by
          cases step <;> exact ⟨_, rfl⟩
        obtain ⟨rest, hrest⟩ := ih
        exact ⟨first ++ rest, by rw [stepsLines_cons, hfirst, hrest]; rfl⟩
  obtain ⟨ls, hls⟩ := hsteps r.steps
  have hlines : r.lines s a depth (bareField type) = .ok ls := hls
  refine ⟨heading depth "" type :: ls ++ [Code.blank], ?_, by simp⟩
  rw [fieldLines_eq_enclosed (f := bareField type) hr, hlines]
  rfl

theorem bareFields_lines (a : Accessor) (depth : Int) :
    ∃ ls, fieldsLines s a depth [bareField type] = .ok ls ∧ ls ≠ [] := by
  rw [fieldsLines_singleton]
  exact bareField_lines hr a depth

-- A step for fields inside sets nothing where there are none.
theorem longer_step (a : Accessor) (depth : Int) (step : Step) :
    Longer s.style.unit (stepLines s a depth "" type [] [] step)
      (stepLines s a depth "" type [bareField type] [⟨"", "", "", [bareField type], []⟩] step)
      (if step.isInside then 1 else 0) := by
  have hmore : ∀ {more : Except CatalogError (List Line)} {ms : List Line}, more = .ok ms → ms ≠ [] →
      Longer s.style.unit (.ok []) more 1 := fun {more ms} hok hne =>
    ⟨[], ms, rfl, hok, by rw [Code.text, List.flatMap_nil, List.length_nil]; exact length_text_pos _ hne⟩
  cases step with
  | line offset row => exact .same _ _
  | block rows => exact .same _ _
  | children offset =>
      obtain ⟨ms, hms, hne⟩ := bareFields_lines hr (a.nested "") (depth + offset)
      exact hmore hms hne
  | splice =>
      obtain ⟨ms, hms, hne⟩ := bareFields_lines hr (a.nested a.enclosing) depth
      exact hmore hms hne
  | branches =>
      obtain ⟨ms, hms, -⟩ := bareFields_lines hr (a.nested "") (depth + 4)
      have hlines : stepLines s a depth "" type [bareField type]
          [⟨"", "", "", [bareField type], []⟩] .branches =
            .ok ((branchOpening true depth "" ++ ms ++ branchClosing depth ++ []) ++
              branchesEnd depth [⟨"", "", "", [bareField type], []⟩]) := by
        rw [stepLines, branchLines_cons, hms]
        rfl
      exact hmore hlines (by simp [branchOpening])

end

-- Where a renderer is no leaf, a field with fields in it has a longer text than one without.
theorem longer_fullField {c : Catalog} {type : String} {r : Renderer} (hr : c.resolve type = .ok r)
    (hleaf : r.isLeaf = false) (style : Style) (a : Accessor) (depth : Int) :
    ∃ ls ms, fieldLines ⟨c, style⟩ a depth (bareField type) = .ok ls ∧
      fieldLines ⟨c, style⟩ a depth (fullField type) = .ok ms ∧
      (Code.text style.unit ls).length < (Code.text style.unit ms).length := by
  let s : Setting := ⟨c, style⟩
  have hsteps : Longer style.unit (r.lines s a depth (bareField type))
      (r.lines s a depth (fullField type)) (r.steps.countP Step.isInside) :=
    .steps fun step _ => longer_step (s := s) hr a depth step
  obtain ⟨ls, ms, hls, hms, hle⟩ :=
    ((Longer.same _ [heading depth "" type]).append hsteps).append (.same _ [Code.blank])
  have hpos : 0 < r.steps.countP Step.isInside := List.countP_pos_iff.mpr (Renderer.exists_inside hleaf)
  refine ⟨ls, ms, ?_, ?_, by omega⟩
  · rw [fieldLines_eq_enclosed (s := s) (f := bareField type) hr]
    exact hls
  · rw [fieldLines_eq_enclosed (s := s) (f := fullField type) hr]
    exact hms

end FieldTemplates.Snippet
