import FieldTemplates.Proofs.Snippet.Rows

namespace FieldTemplates.Snippet

open Code (Line)
open Php (Reads State Token outline)

-- What stands inside a field: its sub-fields as rows of it and in place of it, and the body of the
-- branch of each layout.
structure Inside where
  rows : List Token
  splice : List Token
  bodies : List (List Token)

-- Branches one after another, all but the first joined to the one before.
def branches (first : Bool) : List (List Token) → List Token
  | [] => []
  | body :: bodies => rowOutline false (branchRow first) ++ body ++ branches false bodies

def chain (bodies : List (List Token)) : List Token :=
  branches true bodies ++ if bodies.isEmpty then [] else rowOutline false chainEndRow

def Step.outline (sub : Bool) (inside : Inside) : Step → List Token
  | line _ row => rowOutline sub row
  | block rows => rows.flatMap fun r => rowOutline sub r.2
  | children _ => inside.rows
  | splice => inside.splice
  | branches => chain inside.bodies

def Renderer.outline (sub : Bool) (inside : Inside) (r : Renderer) : List Token :=
  r.steps.flatMap (Step.outline sub inside)

mutual

def fieldOutline (c : Catalog) (a : Accessor) : Field → List Token
  | ⟨_, name, _, type, subFields, layouts, _⟩ =>
    match c.resolve type with
    | .error _ => []
    | .ok r => r.outline a.isSubField
      ⟨fieldsOutline c (a.nested name) subFields, fieldsOutline c (a.nested a.enclosing) subFields,
        bodyOutlines c (a.nested name) layouts⟩

def fieldsOutline (c : Catalog) (a : Accessor) : List Field → List Token
  | [] => []
  | f :: fs => fieldOutline c a f ++ fieldsOutline c a fs

def bodyOutlines (c : Catalog) (a : Accessor) : List Layout → List (List Token)
  | [] => []
  | ⟨_, _, _, subFields, _⟩ :: ls =>
    (rowOutline false layoutRow ++ fieldsOutline c a subFields ++ rowOutline false layoutEndRow) ::
      bodyOutlines c a ls

end

theorem isEmpty_bodyOutlines (c : Catalog) (a : Accessor) (layouts : List Layout) :
    (bodyOutlines c a layouts).isEmpty = layouts.isEmpty := by
  cases layouts with
  | nil => rfl
  | cons l ls =>
      obtain ⟨key, name, label, subFields, extra⟩ := l
      rfl

def Placed.outline (p : Placed) : List Token := rowOutline p.sub p.row

-- A heading is a comment.
theorem heading_outline (label type : String) : (headingOf label type).outline = [] := by
  change rowOutline false headingRow = []
  decide +kernel

theorem chainEnd_outline (c : Catalog) (a : Accessor) (layouts : List Layout) :
    (chainEnd layouts).flatMap Placed.outline =
      if (bodyOutlines c a layouts).isEmpty then [] else rowOutline false chainEndRow := by
  rw [isEmpty_bodyOutlines, chainEnd]
  split
  · rfl
  · exact List.flatMap_singleton ..

-- The rows of a tree have the outline that is told from the tree.
theorem rows_outline (c : Catalog) :
    (∀ f a, (fieldRows c a f).flatMap Placed.outline = fieldOutline c a f) ∧
      (∀ fs a, (fieldsRows c a fs).flatMap Placed.outline = fieldsOutline c a fs) ∧
      (∀ ls a first, (branchRows c a first ls).flatMap Placed.outline =
        branches first (bodyOutlines c a ls)) := by
  refine Field.tree_induction ?_ ?_ ?_ ?_ ?_
  · intro key name label type subFields layouts extra hsub hlayouts a
    simp only [fieldRows, fieldOutline]
    cases c.resolve type with
    | error e => rfl
    | ok r =>
        simp only [List.flatMap_cons, heading_outline, List.nil_append, Renderer.outline,
          List.flatMap_assoc]
        refine List.flatMap_congr fun step _ => ?_
        cases step with
        | line offset row => exact List.flatMap_singleton ..
        | block rows => exact List.flatMap_map ..
        | children offset => exact hsub _
        | splice => exact hsub _
        | branches =>
            simp only [Step.placed, Step.outline, chain, List.flatMap_append, hlayouts]
            rw [chainEnd_outline c (a.nested name)]
  · exact fun a => rfl
  · intro f fs hf hfs a
    simp only [fieldsRows, fieldsOutline, List.flatMap_append, hf, hfs]
  · exact fun a first => rfl
  · intro key name label subFields extra ls hsub hlayouts a first
    simp only [branchRows, bodyOutlines, branches, List.flatMap_append, List.flatMap_cons,
      List.flatMap_nil, hsub, hlayouts, Placed.outline, List.append_nil, List.append_assoc]

theorem outline_tokens {c : Catalog} (hc : c.Safe) (style : Style) {ps : List Placed}
    (hps : ∀ p ∈ ps, c.Has p.row) :
    outline (ps.flatMap (Placed.tokens style)) = ps.flatMap Placed.outline := by
  rw [outline, List.filterMap_flatMap]
  exact List.flatMap_congr fun p hp => outline_rowTokens style p.subject p.sub (hc.isSafe (hps p hp))

-- Lines that are there and are read with some outline, wherever code is read.
def Yields (unit : List Char) (lines : Except CatalogError (List Line)) (ts : List Token) : Prop :=
  ∃ ls, lines = .ok ls ∧ Reads .code (Code.text unit ls) ts .code

variable {s : Setting}

theorem Sets.yields (hcatalog : s.catalog.Safe) {lines : Except CatalogError (List Line)}
    {ps : List Placed} (h : Sets s.style lines ps) (hps : ∀ p ∈ ps, s.catalog.Has p.row) :
    Yields s.style.unit lines (ps.flatMap Placed.outline) := by
  obtain ⟨ls, hls, htells⟩ := h
  refine ⟨ls, hls, ?_⟩
  rw [← outline_tokens hcatalog s.style hps, ← Php.outline_gist]
  exact htells.reads

-- The lines of fields are there, and they are read from code to code with the outline that the tree
-- tells. The texts of the fields are anything, line ends included.
theorem lines_yield (hunit : ∀ c ∈ s.style.unit, Text.isIndent c = true)
    (hcatalog : s.catalog.Safe) :
    (∀ f a depth, Yields s.style.unit (fieldLines s a depth f) (fieldOutline s.catalog a f)) ∧
      (∀ fs a depth,
        Yields s.style.unit (fieldsLines s a depth fs) (fieldsOutline s.catalog a fs)) ∧
      (∀ ls a depth first, Yields s.style.unit (branchLines s a depth first ls)
        (branches first (bodyOutlines s.catalog a ls))) := by
  obtain ⟨hfield, hfields, hbranches⟩ := lines_set hunit hcatalog
  obtain ⟨hasField, hasFields, hasBranches⟩ := has_of_mem_rows s.catalog
  obtain ⟨outField, outFields, outBranches⟩ := rows_outline s.catalog
  refine ⟨fun f a depth => ?_, fun fs a depth => ?_, fun ls a depth first => ?_⟩
  · rw [← outField]
    exact (hfield f a depth).yields hcatalog (hasField f a)
  · rw [← outFields]
    exact (hfields fs a depth).yields hcatalog (hasFields fs a)
  · rw [← outBranches]
    exact (hbranches ls a depth first).yields hcatalog (hasBranches ls a first)

-- Lines that are there have a text, unless an indentation is too large to be written.
theorem text_yields {unit : List Char} {t : Trace} {ts : List Token} (h : Yields unit t.lines? ts) :
    (∃ e, (t.rendered unit).text = .error (.indentation e)) ∨
      ∃ code, (t.rendered unit).text = .ok code ∧ Reads .code code ts .code := by
  obtain ⟨ls, hls, hread⟩ := h
  rcases Trace.text_ok hls unit with hfail | htext
  · exact .inl hfail
  · exact .inr ⟨_, htext, hread⟩

end FieldTemplates.Snippet
