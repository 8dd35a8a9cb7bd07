import FieldTemplates.Proofs.Code.Block
import FieldTemplates.Proofs.Snippet.Row
import FieldTemplates.Proofs.Snippet.Trace

namespace FieldTemplates.Snippet

open Code (Line)
open Php (State Tells Token View gist)

def headingRow : Row := ["/* Field: ", .commentName, " (", .commentType, ") */"]

def branchRow (first : Bool) : Row :=
  [.code (if first then "if ( " else "\x7d elseif ( "), "get_row_layout() == '", .literalName,
    "' ) \x7b"]

def layoutRow : Row := ["echo '<div class=\"layout-", .className, "\">';"]

def layoutEndRow : Row := ["echo '</div>';"]

def chainEndRow : Row := ["\x7d"]

-- The rows around what renderers set.
def frameRows : List Row :=
  [headingRow, branchRow true, branchRow false, layoutRow, layoutEndRow, chainEndRow]

theorem frameRows_safe : frameRows.all isSafe = true := by decide +kernel

theorem isSafe_of_mem_frameRows {row : Row} (h : row ∈ frameRows) : isSafe row = true :=
  List.all_eq_true.mp frameRows_safe row h

-- A row with what it may read: among the rows of a field or not, and a subject.
structure Placed where
  sub : Bool
  subject : Subject
  row : Row
deriving DecidableEq, Repr

def Placed.tokens (style : Style) (p : Placed) : List Token :=
  rowTokens style p.subject p.sub p.row

def headingOf (label type : String) : Placed := ⟨false, ⟨label, type⟩, headingRow⟩

def chainEnd (layouts : List Layout) : List Placed :=
  if layouts.isEmpty then [] else [⟨false, ⟨"", ""⟩, chainEndRow⟩]

-- What stands inside a field: its sub-fields as rows of it and in place of it, and its branches.
structure Parts where
  children : List Placed
  splice : List Placed
  branches : List Placed

def Step.placed (sub : Bool) (subject : Subject) (parts : Parts) : Step → List Placed
  | line _ row => [⟨sub, subject, row⟩]
  | block rows => rows.map fun r => ⟨sub, subject, r.2⟩
  | children _ => parts.children
  | splice => parts.splice
  | branches => parts.branches

mutual

def fieldRows (c : Catalog) (a : Accessor) : Field → List Placed
  | ⟨_, name, label, type, subFields, layouts, _⟩ =>
    match c.resolve type with
    | .error _ => []
    | .ok r => headingOf label type :: r.steps.flatMap (Step.placed a.isSubField ⟨name, type⟩
        ⟨fieldsRows c (a.nested name) subFields, fieldsRows c (a.nested a.enclosing) subFields,
          branchRows c (a.nested name) true layouts ++ chainEnd layouts⟩)

def fieldsRows (c : Catalog) (a : Accessor) : List Field → List Placed
  | [] => []
  | f :: fs => fieldRows c a f ++ fieldsRows c a fs

def branchRows (c : Catalog) (a : Accessor) (first : Bool) : List Layout → List Placed
  | [] => []
  | ⟨_, name, _, subFields, _⟩ :: ls =>
    [⟨false, ⟨name, ""⟩, branchRow first⟩, ⟨false, ⟨name, ""⟩, layoutRow⟩] ++ fieldsRows c a subFields ++
      ⟨false, ⟨"", ""⟩, layoutEndRow⟩ :: branchRows c a false ls

end

def Step.rows : Step → List Row
  | line _ row => [row]
  | block rows => rows.map (·.2)
  | children _ | splice | branches => []

def Renderer.rows (r : Renderer) : List Row := r.steps.flatMap Step.rows

-- The rows that there can be in a field.
def Catalog.Has (c : Catalog) (row : Row) : Prop :=
  row ∈ frameRows ∨ ∃ type r, c.resolve type = .ok r ∧ row ∈ r.rows

theorem chainEnd_has (c : Catalog) (layouts : List Layout) : ∀ p ∈ chainEnd layouts, c.Has p.row := by
  intro p hp
  simp only [chainEnd] at hp
  split at hp
  · cases hp
  · rw [List.mem_singleton.mp hp]
    exact .inl (by simp [frameRows])

theorem has_of_mem_rows (c : Catalog) :
    (∀ f a, ∀ p ∈ fieldRows c a f, c.Has p.row) ∧
      (∀ fs a, ∀ p ∈ fieldsRows c a fs, c.Has p.row) ∧
      (∀ ls a first, ∀ p ∈ branchRows c a first ls, c.Has p.row) := by
  refine Field.tree_induction ?_ ?_ ?_ ?_ ?_
  · intro key name label type subFields layouts extra hsub hlayouts a p hp
    simp only [fieldRows] at hp
    cases hr : c.resolve type with
    | error e =>
        rw [hr] at hp
        cases hp
    | ok r =>
        rw [hr] at hp
        rcases List.mem_cons.mp hp with rfl | hp
        · exact .inl (by simp [headingOf, frameRows])
        · obtain ⟨step, hstep, hp⟩ := List.mem_flatMap.mp hp
          have hown : ∀ row ∈ step.rows, c.Has row := fun row hrow =>
            .inr ⟨type, r, hr, List.mem_flatMap.mpr ⟨step, hstep, hrow⟩⟩
          cases step with
          | line offset row =>
              rw [List.mem_singleton.mp hp]
              exact hown row List.mem_cons_self
          | block rows =>
              obtain ⟨q, hq, rfl⟩ := List.mem_map.mp hp
              exact hown q.2 (List.mem_map_of_mem hq)
          | children offset => exact hsub _ p hp
          | splice => exact hsub _ p hp
          | branches =>
              rcases List.mem_append.mp hp with hp | hp
              · exact hlayouts _ _ p hp
              · exact chainEnd_has c layouts p hp
  · intro a p hp
    cases hp
  · intro f fs hf hfs a p hp
    rcases List.mem_append.mp hp with hp | hp
    · exact hf a p hp
    · exact hfs a p hp
  · intro a first p hp
    cases hp
  · intro key name label subFields extra ls hsub hlayouts a first p hp
    simp only [branchRows, List.mem_append, List.mem_cons, List.not_mem_nil, or_false] at hp
    rcases hp with ((rfl | rfl) | hp) | rfl | hp
    · exact .inl (by cases first <;> simp [frameRows])
    · exact .inl (by simp [frameRows])
    · exact hsub _ p hp
    · exact .inl (by simp [frameRows])
    · exact hlayouts _ _ p hp

-- The rows that a step sets itself, without their texts.
def Step.marks : Step → List (List Mark)
  | line _ row => [row.map Piece.mark]
  | block rows => rows.map fun r => r.2.map Piece.mark
  | children _ | splice | branches => []

def Renderer.marks (r : Renderer) : List (List Mark) := r.steps.flatMap Step.marks

def Renderer.safe (r : Renderer) : Bool := r.marks.all areSafe

theorem Step.isSafe_row {offset : Nat} {row : Row} (h : (line offset row).marks.all areSafe = true) :
    isSafe row = true := List.all_eq_true.mp h _ List.mem_cons_self

theorem Step.isSafe_rows {rows : List (Nat × Row)} (h : (block rows).marks.all areSafe = true) :
    ∀ r ∈ rows, isSafe r.2 = true := fun _ hr =>
  List.all_eq_true.mp h _ (List.mem_map_of_mem hr)

theorem Renderer.safe_step {r : Renderer} (h : r.safe = true) {step : Step} (hstep : step ∈ r.steps) :
    step.marks.all areSafe = true := by
  refine List.all_eq_true.mpr fun ms hms => ?_
  exact List.all_eq_true.mp h ms (List.mem_flatMap.mpr ⟨step, hstep, hms⟩)

-- Every type has a renderer that keeps texts where they belong.
def Catalog.Safe (c : Catalog) : Prop := ∀ type, ∃ r, c.resolve type = .ok r ∧ r.safe = true

theorem Step.marks_eq (step : Step) : step.marks = step.rows.map (·.map Piece.mark) := by
  cases step with
  | line offset row => rfl
  | block rows => exact (List.map_map ..).symm
  | children | splice | branches => rfl

theorem Catalog.Safe.isSafe {c : Catalog} (hc : c.Safe) {row : Row} (h : c.Has row) :
    isSafe row = true := by
  rcases h with h | ⟨type, r, hr, hrow⟩
  · exact isSafe_of_mem_frameRows h
  · obtain ⟨q, hq, hsafe⟩ := hc type
    rw [hr] at hq
    cases hq
    obtain ⟨step, hstep, hrow⟩ := List.mem_flatMap.mp hrow
    have hmarks : row.map Piece.mark ∈ step.marks := by
      rw [step.marks_eq]
      exact List.mem_map_of_mem hrow
    exact List.all_eq_true.mp (Renderer.safe_step hsafe hstep) _ hmarks

-- Lines that are there and tell the tokens of some rows, wherever code is read.
def Sets (style : Style) (lines : Except CatalogError (List Line)) (rows : List Placed) : Prop :=
  ∃ ls, lines = .ok ls ∧
    Tells .code (Code.text style.unit ls) (gist (rows.flatMap (Placed.tokens style))) .code

variable {s : Setting} {style : Style}

theorem Sets.nil : Sets style (.ok []) [] := ⟨[], rfl, Php.tells_code_nil⟩

theorem Sets.append {first rest : Except CatalogError (List Line)} {ps qs : List Placed}
    (hfirst : Sets style first ps) (hrest : Sets style rest qs) :
    Sets style (joined first rest) (ps ++ qs) := by
  obtain ⟨ls, rfl, hls⟩ := hfirst
  obtain ⟨more, rfl, hmore⟩ := hrest
  refine ⟨ls ++ more, rfl, ?_⟩
  rw [Code.text_append, List.flatMap_append, Php.gist_append]
  exact hls.append hmore

theorem heading_eq (style : Style) (depth : Int) (label type : String) :
    heading depth label type = rowLine style {} ⟨label, type⟩ depth 0 headingRow := by
  simp [heading, rowLine, rowText, headingRow, Piece.text]

theorem branchOpening_eq (style : Style) (first : Bool) (depth : Int) (layout : String) :
    branchOpening first depth layout = [rowLine style {} ⟨layout, ""⟩ depth 2 (branchRow first)] ++
      [rowLine style {} ⟨layout, ""⟩ depth 3 layoutRow] := by
  simp [branchOpening, rowLine, rowText, branchRow, layoutRow, Piece.text]

theorem branchClosing_eq (style : Style) (depth : Int) :
    branchClosing depth = [rowLine style {} ⟨"", ""⟩ depth 3 layoutEndRow] := by
  simp [branchClosing, rowLine, rowText, layoutEndRow, Piece.text]

theorem branchesEnd_eq (style : Style) (depth : Int) (layouts : List Layout) :
    branchesEnd depth layouts =
      if layouts.isEmpty then [] else [rowLine style {} ⟨"", ""⟩ depth 2 chainEndRow] := by
  simp [branchesEnd, rowLine, rowText, chainEndRow, Piece.text]

section

variable (hunit : ∀ c ∈ s.style.unit, Text.isIndent c = true)
include hunit

theorem rowLine_sets (a : Accessor) (subject : Subject) (depth : Int) (offset : Nat) {row : Row}
    (hsafe : isSafe row = true) :
    Sets s.style (.ok [rowLine s.style a subject depth offset row]) [⟨a.isSubField, subject, row⟩] := by
  have hrow := Php.tells_of_scan (scan_row s.style a subject hsafe)
  refine ⟨_, rfl, ?_⟩
  rw [List.flatMap_singleton]
  exact Code.tells_line hunit _ Php.fresh_code hrow

theorem block_sets (a : Accessor) (subject : Subject) (depth : Int) {rows : List (Nat × Row)}
    (hsafe : ∀ r ∈ rows, isSafe r.2 = true) :
    Sets s.style (.ok (Code.block depth (blockText s.style a subject rows)))
      (rows.map fun r => ⟨a.isSubField, subject, r.2⟩) := by
  have hrows := scan_blockText s.style a subject hsafe
  refine ⟨_, rfl, ?_⟩
  rw [List.flatMap_map]
  exact Code.tells_block hunit depth Php.fresh_code (Php.tells_of_scan hrows)

theorem heading_sets (depth : Int) (label type : String) :
    Sets s.style (.ok [heading depth label type]) [headingOf label type] := by
  rw [heading_eq s.style]
  exact rowLine_sets hunit {} _ depth 0 (isSafe_of_mem_frameRows (by simp [frameRows]))

theorem branchOpening_sets (first : Bool) (depth : Int) (layout : String) :
    Sets s.style (.ok (branchOpening first depth layout))
      [⟨false, ⟨layout, ""⟩, branchRow first⟩, ⟨false, ⟨layout, ""⟩, layoutRow⟩] := by
  have hbranch : isSafe (branchRow first) = true :=
    isSafe_of_mem_frameRows (by cases first <;> simp [frameRows])
  have hlayout : isSafe layoutRow = true := isSafe_of_mem_frameRows (by simp [frameRows])
  rw [branchOpening_eq s.style]
  exact (rowLine_sets hunit {} _ depth 2 hbranch).append (rowLine_sets hunit {} _ depth 3 hlayout)

theorem branchClosing_sets (depth : Int) :
    Sets s.style (.ok (branchClosing depth)) [⟨false, ⟨"", ""⟩, layoutEndRow⟩] := by
  rw [branchClosing_eq s.style]
  exact rowLine_sets hunit {} _ depth 3 (isSafe_of_mem_frameRows (by simp [frameRows]))

theorem branchesEnd_sets (depth : Int) (layouts : List Layout) :
    Sets s.style (.ok (branchesEnd depth layouts)) (chainEnd layouts) := by
  rw [branchesEnd_eq s.style, chainEnd]
  split
  · exact Sets.nil
  · exact rowLine_sets hunit {} _ depth 2 (isSafe_of_mem_frameRows (by simp [frameRows]))

theorem blank_sets : Sets s.style (.ok [Code.blank]) [] :=
  have hblank : Tells .code ['\n'] [] .code := by decide
  ⟨_, rfl, Code.tells_line hunit Code.blank Php.fresh_code hblank⟩

-- The lines of fields are there, and from code to code they tell the tokens of the rows. The texts of
-- the fields are anything, line ends included.
theorem lines_set (hcatalog : s.catalog.Safe) :
    (∀ f a depth, Sets s.style (fieldLines s a depth f) (fieldRows s.catalog a f)) ∧
      (∀ fs a depth, Sets s.style (fieldsLines s a depth fs) (fieldsRows s.catalog a fs)) ∧
      (∀ ls a depth first,
        Sets s.style (branchLines s a depth first ls) (branchRows s.catalog a first ls)) := by
  refine Field.tree_induction ?_ ?_ ?_ ?_ ?_
  · intro key name label type subFields layouts extra hsub hlayouts a depth
    obtain ⟨r, hr, hsafe⟩ := hcatalog type
    let parts : Parts := ⟨fieldsRows s.catalog (a.nested name) subFields,
      fieldsRows s.catalog (a.nested a.enclosing) subFields,
      branchRows s.catalog (a.nested name) true layouts ++ chainEnd layouts⟩
    have hsteps : ∀ step ∈ r.steps, Sets s.style
        (stepLines s a depth name type subFields layouts step)
        (step.placed a.isSubField ⟨name, type⟩ parts) := by
      intro step hstep
      have hs := Renderer.safe_step hsafe hstep
      cases step with
      | line offset row => exact rowLine_sets hunit a _ depth offset (Step.isSafe_row hs)
      | block rows => exact block_sets hunit a _ depth (Step.isSafe_rows hs)
      | children offset => exact hsub _ _
      | splice => exact hsub _ _
      | branches =>
          have hend := branchesEnd_sets hunit depth layouts
          exact (hlayouts (a.nested name) depth true).append hend
    have hall := ((heading_sets hunit depth label type).append
      (steps_closed Sets.nil Sets.append hsteps)).append (blank_sets hunit)
    have hrows : fieldRows s.catalog a ⟨key, name, label, type, subFields, layouts, extra⟩ =
        [headingOf label type] ++ r.steps.flatMap (Step.placed a.isSubField ⟨name, type⟩ parts) ++ [] := by
      simp only [fieldRows, hr, List.append_nil, List.singleton_append]
      rfl
    rw [fieldLines_of_resolve hr, hrows]
    exact hall
  · intro a depth
    exact Sets.nil
  · intro f fs hf hfs a depth
    rw [fieldsLines_cons, fieldsRows]
    exact (hf a depth).append (hfs a depth)
  · intro a depth first
    exact Sets.nil
  · intro key name label subFields extra ls hsub hlayouts a depth first
    have hopening := branchOpening_sets hunit first depth name
    have hclosing := branchClosing_sets hunit depth
    have hall := ((hopening.append (hsub a (depth + 4))).append hclosing).append
      (hlayouts a depth false)
    rw [branchRows, branchLines_cons]
    convert hall using 1
    simp only [List.append_assoc, List.singleton_append]

end

-- A unit of indentation is made of spaces and tabs, whatever the options are.
theorem isIndent_indentUnit {o : Options} {unit : List Char} (h : o.indentUnit = .ok unit) :
    ∀ c ∈ unit, Text.isIndent c = true := by
  have hspaces : ∀ n : Int, ∀ c ∈ Code.indent [' '] n, Text.isIndent c = true := by
    intro n c hc
    rw [List.mem_singleton.mp (Code.mem_indent hc)]
    rfl
  simp only [Options.indentUnit] at h
  split at h
  · cases h
    exact fun c hc => List.mem_singleton.mp hc ▸ rfl
  · split at h
    · rename_i n _
      simp only [Text.repeated?] at h
      split at h
      · cases h
      · cases h
        exact hspaces n
    · rename_i b _
      cases h
      cases b with
      | false => exact hspaces 0
      | true => exact hspaces 1
    · cases h

theorem Style.isIndent_unit {o : Options} {style : Style} (h : Style.ofOptions o = .ok style) :
    ∀ c ∈ style.unit, Text.isIndent c = true := by
  simp only [Style.ofOptions] at h
  cases hunit : o.indentUnit with
  | error e =>
      rw [hunit] at h
      cases h
  | ok unit =>
      rw [hunit] at h
      cases h
      exact isIndent_indentUnit hunit

-- The style of the options as they come.
def Style.plain : Style where
  unit := "    ".toList
  textDomain := "text-domain".toList
  imageSize := "full".toList
  gallerySize := "thumbnail".toList

theorem Style.ofOptions_plain : Style.ofOptions {} = .ok .plain := by decide +kernel

end FieldTemplates.Snippet
