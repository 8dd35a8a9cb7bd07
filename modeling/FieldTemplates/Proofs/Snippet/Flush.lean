import FieldTemplates.Proofs.Code.Deepen
import FieldTemplates.Proofs.Snippet.Shown

namespace FieldTemplates

namespace Php

theorem newline_notMem_flatMap {f : Char → List Char} (hf : ∀ c, '\n' ∈ f c → c = '\n')
    {cs : List Char} (h : '\n' ∉ cs) : '\n' ∉ cs.flatMap f := by
  rw [List.mem_flatMap]
  rintro ⟨c, hc, hmem⟩
  exact h (hf c hmem ▸ hc)

theorem eq_newline_of_mem_quoteChar (c : Char) (h : '\n' ∈ quoteChar c) : c = '\n' := by
  simp only [quoteChar] at h
  split at h
  · simpa [eq_comm] using h
  · exact (List.mem_singleton.mp h).symm

theorem eq_newline_of_mem_attributeChar (c : Char) (h : '\n' ∈ attributeChar c) : c = '\n' := by
  simp only [attributeChar] at h
  split at h
  · exact absurd h (by decide)
  · exact eq_newline_of_mem_quoteChar c h

end Php

namespace Field

mutual

-- The names of a field, of the fields inside and of the layouts.
def names : Field → List String
  | ⟨_, name, _, _, subFields, layouts, _⟩ => name :: (namesAll subFields ++ namesIn layouts)

def namesAll : List Field → List String
  | [] => []
  | f :: fs => names f ++ namesAll fs

def namesIn : List Layout → List String
  | [] => []
  | ⟨_, name, _, subFields, _⟩ :: ls => name :: (namesAll subFields ++ namesIn ls)

end

end Field

namespace Snippet

open Code (Line)

structure Style.Unbroken (style : Style) : Prop where
  textDomain : '\n' ∉ style.textDomain
  imageSize : '\n' ∉ style.imageSize
  gallerySize : '\n' ∉ style.gallerySize

def OneLine (names : List String) : Prop := ∀ name ∈ names, '\n' ∉ name.toList

-- The code of a row is on one line and does not start with white space.
def spelledEven (spelled : List (List Char ⊕ Piece)) : Bool :=
  spelled.all (Sum.elim (!·.contains '\n') fun _ => true) &&
    spelled.head?.any (Sum.elim Text.isFlush fun _ => false)

open Renderer in
set_option maxRecDepth 20000 in
-- The kernel is slow at taking literals of text apart, so they are spelled out first.
theorem standard_rows_even : ∀ r ∈ standardPlans, (r.rows.map Row.spell).all spelledEven = true := by
  simp only [standardPlans, standardRenderers, List.map, List.forall_mem_cons, unsupported, text, url,
    password, image, file, wysiwyg, oembed, gallery, select, checkbox, buttonGroup, trueFalse, link,
    postObject, pageLink, relationship, taxonomy, user, googleMap, datePicker, dateTimePicker,
    timePicker, colorPicker, repeater, flexibleContent, group, clone, uiOnly]
  simp only [paragraph, assigned, richContent, moment, figure, Renderer.guarded, either, each, listed,
    listedAs, row, fixed, deeper, rowsGuard, rowsLoop, rowsEnd, rows, Step.rows, Row.spell, Piece.spell,
    List.map, List.flatMap_cons, List.flatMap_nil, List.cons_append, List.nil_append, List.append_nil]
  simp (disch := rfl) only [toList_of_eq]
  decide +kernel

-- A block starts at the level of its field.
def Step.startsFlush : Step → Bool
  | block rows => rows.head?.any (·.1 == 0)
  | line .. | children _ | splice | branches => true

theorem standard_startsFlush : ∀ r ∈ standardPlans, r.steps.all Step.startsFlush = true := by
  decide +kernel

theorem even_of_mem_frameRows {row : Row} (h : row ∈ frameRows) : spelledEven row.spell = true := by
  have hall : ∀ row ∈ frameRows, spelledEven row.spell = true := by decide +kernel
  exact hall row h

theorem even_of_mem_rows {r : Renderer} (hr : r ∈ standardPlans) {row : Row} (hrow : row ∈ r.rows) :
    spelledEven row.spell = true :=
  List.all_eq_true.mp (standard_rows_even r hr) _ (List.mem_map_of_mem hrow)

section

variable {style : Style} {a : Accessor} {subject : Subject} {row : Row}

theorem isFlush_rowText (h : spelledEven row.spell = true) :
    Text.isFlush (rowText style a subject row) = true := by
  obtain ⟨-, hhead⟩ := Bool.and_eq_true_iff.mp h
  cases row with
  | nil => cases hhead
  | cons p row =>
      cases p with
      | code t =>
          obtain ⟨c, cs, htext, hc⟩ := Text.exists_of_isFlush hhead
          have hrow : rowText style a subject (.code t :: row) =
              c :: (cs ++ rowText style a subject row) := by
            rw [rowText, List.flatMap_cons, Piece.text, htext]
            rfl
          rw [hrow, Text.isFlush, List.head?_cons, Option.any_some, hc]
          rfl
      | value | literalName | className | commentName | commentType | bareName | textDomain
      | imageSize | gallerySize => cases hhead

theorem rowText_ne_nil (h : spelledEven row.spell = true) : rowText style a subject row ≠ [] := by
  have hflush : Text.isFlush (rowText style a subject row) = true := isFlush_rowText h
  obtain ⟨c, cs, htext, -⟩ := Text.exists_of_isFlush hflush
  rw [htext]
  exact List.cons_ne_nil c cs

theorem newline_notMem_of_even (hstyle : style.Unbroken) (hname : '\n' ∉ subject.name.toList)
    (h : spelledEven row.spell = true) : '\n' ∉ rowText style a subject row := by
  obtain ⟨hcode, -⟩ := Bool.and_eq_true_iff.mp h
  have hquoted : ∀ {cs : List Char}, '\n' ∉ cs → '\n' ∉ Php.quoted cs :=
    Php.newline_notMem_flatMap Php.eq_newline_of_mem_quoteChar
  rw [rowText, List.mem_flatMap]
  rintro ⟨p, hp, hmem⟩
  cases p with
  | code t =>
      have hone := List.all_eq_true.mp hcode _ (List.mem_map_of_mem hp)
      simp only [Piece.spell, Sum.elim_inl, Bool.not_eq_true', List.contains_eq_mem,
        decide_eq_false_iff_not] at hone
      exact hone hmem
  | value =>
      have hfront : ∀ sub, '\n' ∉ accessText sub := by decide
      have hsplit : a.value subject.name = accessText a.isSubField ++ Php.quoted subject.name.toList ++
        "')".toList := rfl
      rw [Piece.text, hsplit, List.mem_append, List.mem_append] at hmem
      rcases hmem with (hmem | hmem) | hmem
      · exact hfront _ hmem
      · exact hquoted hname hmem
      · exact absurd hmem (by decide)
  | literalName => exact hquoted hname hmem
  | className => exact Php.newline_notMem_flatMap Php.eq_newline_of_mem_attributeChar hname hmem
  | commentName | commentType => exact Php.newline_notMem_comment _ hmem
  | bareName => exact hname hmem
  | textDomain => exact hquoted hstyle.textDomain hmem
  | imageSize => exact hquoted hstyle.imageSize hmem
  | gallerySize => exact hquoted hstyle.gallerySize hmem

end

mutual

-- The lines of a field among the rows of `parent`, at the margin. The fields inside stand deeper.
def flushField (c : Catalog) (style : Style) (parent : String) : Field → List Line
  | ⟨_, name, label, type, subFields, layouts, _⟩ =>
    match c.resolve type with
    | .error _ => []
    | .ok r => heading 0 label type :: (r.steps.flatMap fun
      | .line offset row => [⟨offset, rowText style (.nested {} parent) ⟨name, type⟩ row⟩]
      | .block rows => rows.map fun q => ⟨q.1, rowText style (.nested {} parent) ⟨name, type⟩ q.2⟩
      | .children offset => (flushFields c style name subFields).map (Line.deepen offset)
      | .splice => flushFields c style parent subFields
      | .branches => flushBranches c style name true layouts ++ branchesEnd 0 layouts) ++ [Code.blank]

def flushFields (c : Catalog) (style : Style) (parent : String) : List Field → List Line
  | [] => []
  | f :: fs => flushField c style parent f ++ flushFields c style parent fs

def flushBranches (c : Catalog) (style : Style) (parent : String) (first : Bool) : List Layout → List Line
  | [] => []
  | ⟨_, name, _, subFields, _⟩ :: ls => branchOpening first 0 name ++
    (flushFields c style parent subFields).map (Line.deepen 4) ++ branchClosing 0 ++
    flushBranches c style parent false ls

end

-- The lines of a step.
def flushStep (c : Catalog) (style : Style) (parent : String) (f : Field) : Step → List Line
  | .line offset row => [⟨offset, rowText style (.nested {} parent) ⟨f.name, f.type⟩ row⟩]
  | .block rows => rows.map fun q => ⟨q.1, rowText style (.nested {} parent) ⟨f.name, f.type⟩ q.2⟩
  | .children offset => (flushFields c style f.name f.subFields).map (Line.deepen offset)
  | .splice => flushFields c style parent f.subFields
  | .branches => flushBranches c style f.name true f.layouts ++ branchesEnd 0 f.layouts

theorem flushField_of_resolve {c : Catalog} {f : Field} {r : Renderer} (hr : c.resolve f.type = .ok r)
    (style : Style) (parent : String) : flushField c style parent f =
      [heading 0 f.label f.type] ++ r.steps.flatMap (flushStep c style parent f) ++ [Code.blank] := by
  obtain ⟨key, name, label, type, subFields, layouts, extra⟩ := f
  simp only [flushField, hr]
  rfl

-- A unit of indentation and the key of the group do not tell in a row.
theorem rowText_handed (style : Style) (unit : List Char) (k parent : String) (subject : Subject)
    (row : Row) : rowText { style with unit } (.nested { groupKey := k } parent) subject row =
      rowText style (.nested {} parent) subject row :=
  List.flatMap_congr fun p _ => by cases p <;> rfl

-- The rows of a block are its lines.
theorem block_flush {style : Style} (hstyle : style.Unbroken) (a : Accessor) (subject : Subject)
    (hname : '\n' ∉ subject.name.toList) {rows : List (Nat × Row)}
    (hstart : (Step.block rows).startsFlush = true)
    (heven : ∀ q ∈ rows, spelledEven q.2.spell = true) (depth : Int) :
    Code.block depth (blockText style a subject rows) =
      rows.map fun q => ⟨depth + q.1, rowText style a subject q.2⟩ := by
  let rs : Text.Indented := rows.map fun q => (q.1, rowText style a subject q.2)
  have hrs : ∀ r ∈ rs, Text.isFlush r.2 = true ∧ '\n' ∉ r.2 := by
    intro r hr
    obtain ⟨q, hq, rfl⟩ := List.mem_map.mp hr
    exact ⟨isFlush_rowText (heven q hq), newline_notMem_of_even hstyle hname (heven q hq)⟩
  have hfirst : rs.head?.any (·.1 == 0) = true := by
    rw [List.head?_map, Option.any_map]
    exact hstart
  have htext : blockText style a subject rows =
      '\n' :: Text.ended (Text.Indented.rows 8 (rs.map fun r => (4 * r.1, r.2))) ++ spaces 8 := by
    simp only [blockText, Text.ended, Text.Indented.rows, rs, List.flatMap_map]
    rfl
  rw [htext]
  refine (Code.block_rows depth 8 hfirst (fun r hr => (hrs r hr).1) fun r hr => (hrs r hr).2).trans ?_
  rw [List.map_map]
  rfl

-- Lines that are these at some depth.
def StandsAt (depth : Int) (lines : Except CatalogError (List Line)) (ls : List Line) : Prop :=
  lines = .ok (ls.map (Line.deepen depth))

section

variable (style : Style) {depth : Int}

theorem StandsAt.append {first rest : Except CatalogError (List Line)} {ls more : List Line}
    (hfirst : StandsAt depth first ls) (hrest : StandsAt depth rest more) :
    StandsAt depth (joined first rest) (ls ++ more) := by
  subst hfirst hrest
  simp only [StandsAt, List.map_append]
  rfl

theorem rowLine_standsAt (a : Accessor) (subject : Subject) (offset : Nat) {row : Row}
    (heven : spelledEven row.spell = true) :
    StandsAt depth (.ok [rowLine style a subject depth offset row])
      [rowLine style a subject 0 offset row] := by
  rw [StandsAt, List.map_singleton, rowLine, rowLine, Line.deepen_of_ne_nil (rowText_ne_nil heven),
    Int.zero_add]

include style

theorem heading_standsAt (label type : String) :
    StandsAt depth (.ok [heading depth label type]) [heading 0 label type] := by
  rw [heading_eq style, heading_eq style]
  exact rowLine_standsAt _ {} _ 0 (even_of_mem_frameRows (by simp [frameRows]))

theorem branchOpening_standsAt (first : Bool) (layout : String) :
    StandsAt depth (.ok (branchOpening first depth layout)) (branchOpening first 0 layout) := by
  have hbranch : spelledEven (branchRow first).spell = true :=
    even_of_mem_frameRows (by cases first <;> simp [frameRows])
  have hlayout : spelledEven layoutRow.spell = true := even_of_mem_frameRows (by simp [frameRows])
  rw [branchOpening_eq style, branchOpening_eq style]
  exact (rowLine_standsAt style {} _ 2 hbranch).append (rowLine_standsAt style {} _ 3 hlayout)

theorem branchClosing_standsAt :
    StandsAt depth (.ok (branchClosing depth)) (branchClosing 0) := by
  rw [branchClosing_eq style, branchClosing_eq style]
  exact rowLine_standsAt style {} _ 3 (even_of_mem_frameRows (by simp [frameRows]))

theorem branchesEnd_standsAt (layouts : List Layout) :
    StandsAt depth (.ok (branchesEnd depth layouts)) (branchesEnd 0 layouts) := by
  rw [branchesEnd_eq style, branchesEnd_eq style]
  split
  · rfl
  · exact rowLine_standsAt style {} _ 2 (even_of_mem_frameRows (by simp [frameRows]))

end

theorem OneLine.append {names more : List String} (h : OneLine (names ++ more)) :
    OneLine names ∧ OneLine more := List.forall_mem_append.mp h

theorem OneLine.cons {name : String} {names : List String} (h : OneLine (name :: names)) :
    '\n' ∉ name.toList ∧ OneLine names := List.forall_mem_cons.mp h

-- At any depth, in any group and for any unit of indentation the lines of fields are those at the margin.
theorem lines_flush {style : Style} (hstyle : style.Unbroken) (unit : List Char) (k : String) :
    let s : Setting := ⟨.standard, { style with unit }⟩
    (∀ f : Field, OneLine f.names → ∀ parent depth, StandsAt depth
        (fieldLines s (.nested { groupKey := k } parent) depth f)
        (flushField .standard style parent f)) ∧
      (∀ fs, OneLine (Field.namesAll fs) → ∀ parent depth, StandsAt depth
        (fieldsLines s (.nested { groupKey := k } parent) depth fs)
        (flushFields .standard style parent fs)) ∧
      (∀ ls, OneLine (Field.namesIn ls) → ∀ parent depth first, StandsAt depth
        (branchLines s (.nested { groupKey := k } parent) depth first ls)
        (flushBranches .standard style parent first ls)) := by
  intro s
  refine Field.tree_induction ?_ ?_ ?_ ?_ ?_
  · intro key name label type subFields layouts extra hsub hlayouts hnames parent depth
    obtain ⟨hname, hnames⟩ := hnames.cons
    obtain ⟨hsubNames, hlayoutNames⟩ := hnames.append
    obtain ⟨r, hmem, hr⟩ := Catalog.standard_resolve type
    let f : Field := ⟨key, name, label, type, subFields, layouts, extra⟩
    let a : Accessor := .nested { groupKey := k } parent
    have hsteps : ∀ step ∈ r.steps, StandsAt depth (stepLines s a depth name type subFields layouts step)
        (flushStep .standard style parent f step) := by
      intro step hstep
      have heven : ∀ row ∈ step.rows, spelledEven row.spell = true := fun row hrow =>
        even_of_mem_rows hmem (List.mem_flatMap.mpr ⟨step, hstep, hrow⟩)
      cases step with
      | line offset row =>
          have hne : rowText style (.nested {} parent) ⟨name, type⟩ row ≠ [] :=
            rowText_ne_nil (heven row List.mem_cons_self)
          simp only [StandsAt, stepLines, flushStep, rowLine, List.map_singleton, s, a, f,
            rowText_handed, Line.deepen_of_ne_nil hne]
      | block rows =>
          have hstart := List.all_eq_true.mp (standard_startsFlush r hmem) _ hstep
          have hrows : ∀ q ∈ rows, spelledEven q.2.spell = true := fun q hq =>
            heven q.2 (List.mem_map_of_mem hq)
          have hunit : ({ style with unit } : Style).Unbroken := ⟨hstyle.1, hstyle.2, hstyle.3⟩
          have hblock := block_flush hunit a ⟨name, type⟩ hname hstart hrows depth
          simp only [StandsAt, stepLines, flushStep, s, hblock, List.map_map]
          refine congrArg _ (List.map_congr_left fun q hq => ?_)
          have hne : rowText style (.nested {} parent) ⟨name, type⟩ q.2 ≠ [] :=
            rowText_ne_nil (hrows q hq)
          simp only [Function.comp_apply, a, f, rowText_handed, Line.deepen_of_ne_nil hne]
      | children offset =>
          have hchildren := hsub hsubNames name (depth + offset)
          rw [StandsAt, flushStep, Code.map_deepen_map_deepen]
          exact hchildren
      | splice =>
          have hsplice := hsub hsubNames parent depth
          rw [stepLines, Accessor.enclosing_nested]
          exact hsplice
      | branches => exact (hlayouts hlayoutNames name depth true).append (branchesEnd_standsAt style layouts)
    have hblank : StandsAt depth (.ok [Code.blank]) [Code.blank] := rfl
    have hall := ((heading_standsAt style label type).append
      (steps_closed (P := StandsAt depth) rfl StandsAt.append hsteps)).append hblank
    rw [fieldLines_of_resolve (s := s) hr, flushField_of_resolve (f := f) hr]
    exact hall
  · exact fun _ parent depth => rfl
  · intro f fs hf hfs hnames parent depth
    obtain ⟨hfirst, hrest⟩ := hnames.append
    rw [fieldsLines_cons, flushFields]
    exact (hf hfirst parent depth).append (hfs hrest parent depth)
  · exact fun _ parent depth first => rfl
  · intro key name label subFields extra ls hsub hlayouts hnames parent depth first
    obtain ⟨-, hnames⟩ := hnames.cons
    obtain ⟨hsubNames, hlayoutNames⟩ := hnames.append
    have hinside : StandsAt depth
        (fieldsLines s (.nested { groupKey := k } parent) (depth + 4) subFields)
        ((flushFields .standard style parent subFields).map (Line.deepen 4)) := by
      rw [StandsAt, Code.map_deepen_map_deepen]
      exact hsub hsubNames parent (depth + 4)
    have hall := (((branchOpening_standsAt style first name).append hinside).append
      (branchClosing_standsAt style)).append (hlayouts hlayoutNames parent depth false)
    rw [branchLines_cons, flushBranches]
    exact hall

end Snippet

end FieldTemplates
