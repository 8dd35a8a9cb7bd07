import FieldTemplates.Proofs.Snippet.Flush

namespace FieldTemplates.Snippet

open Code (Line)
open Text (isIndent push)

-- All of these are lines of code proper.
def Proper (ls : List Line) : Prop := ∀ l ∈ ls, l.Proper

namespace Proper

variable {ls more : List Line}

theorem append (h : Proper ls) (hmore : Proper more) : Proper (ls ++ more) :=
  List.forall_mem_append.mpr ⟨h, hmore⟩

theorem deepen (h : Proper ls) (levels : Nat) : Proper (ls.map (Line.deepen levels)) := by
  intro l hl
  obtain ⟨l, hmem, rfl⟩ := List.mem_map.mp hl
  obtain ⟨hlevel, hbreak, hflush⟩ := h l hmem
  refine ⟨?_, by rwa [Code.Line.content_deepen], by rwa [Code.Line.content_deepen]⟩
  simp only [Line.deepen, Line.raise]
  split
  · exact hlevel
  · exact Int.add_nonneg hlevel (Int.natCast_nonneg levels)

end Proper

section

variable {style : Style} {a : Accessor} {subject : Subject} {row : Row}

theorem proper_row (hstyle : style.Unbroken) (hname : '\n' ∉ subject.name.toList)
    (heven : spelledEven row.spell = true) (level : Nat) :
    Line.Proper ⟨level, rowText style a subject row⟩ where
  level := Int.natCast_nonneg level
  unbroken := newline_notMem_of_even hstyle hname heven
  flush := .inr (isFlush_rowText heven)

theorem proper_rowLine (hstyle : style.Unbroken) (hname : '\n' ∉ subject.name.toList)
    (heven : spelledEven row.spell = true) (offset : Nat) :
    Proper [rowLine style a subject 0 offset row] := by
  intro l hl
  rw [List.mem_singleton.mp hl, rowLine, Int.zero_add]
  exact proper_row hstyle hname heven offset

end

-- A label is made harmless for its comment, line ends included.
theorem proper_heading (label type : String) : Proper [heading 0 label type] := by
  have hflush : Text.isFlush (heading 0 label type).content = true := by
    rw [heading_eq ⟨[], [], [], []⟩]
    exact isFlush_rowText (even_of_mem_frameRows (by simp [frameRows]))
  have hbreak : '\n' ∉ (heading 0 label type).content := by
    simp [heading, Php.newline_notMem_comment]
  intro l hl
  rw [List.mem_singleton.mp hl]
  exact ⟨Int.le_refl 0, hbreak, .inr hflush⟩

theorem flush_proper {style : Style} (hstyle : style.Unbroken) :
    (∀ f : Field, OneLine f.names → ∀ parent, Proper (flushField .standard style parent f)) ∧
      (∀ fs, OneLine (Field.namesAll fs) → ∀ parent,
        Proper (flushFields .standard style parent fs)) ∧
      (∀ ls, OneLine (Field.namesIn ls) → ∀ parent first,
        Proper (flushBranches .standard style parent first ls)) := by
  have hempty : '\n' ∉ "".toList := by decide
  have hframe : ∀ row ∈ frameRows, spelledEven row.spell = true := fun _ => even_of_mem_frameRows
  refine Field.tree_induction ?_ ?_ ?_ ?_ ?_
  · intro key name label type subFields layouts extra hsub hlayouts hnames parent
    obtain ⟨hname, hnames⟩ := hnames.cons
    obtain ⟨hsubNames, hlayoutNames⟩ := hnames.append
    obtain ⟨r, hmem, hr⟩ := Catalog.standard_resolve type
    let f : Field := ⟨key, name, label, type, subFields, layouts, extra⟩
    have hsteps : Proper (r.steps.flatMap (flushStep .standard style parent f)) := by
      intro l hl
      obtain ⟨step, hstep, hl⟩ := List.mem_flatMap.mp hl
      have heven : ∀ row ∈ step.rows, spelledEven row.spell = true := fun row hrow =>
        even_of_mem_rows hmem (List.mem_flatMap.mpr ⟨step, hstep, hrow⟩)
      cases step with
      | line offset row =>
          rw [List.mem_singleton.mp hl]
          exact proper_row hstyle hname (heven row List.mem_cons_self) offset
      | block rows =>
          obtain ⟨q, hq, rfl⟩ := List.mem_map.mp hl
          exact proper_row hstyle hname (heven q.2 (List.mem_map_of_mem hq)) q.1
      | children offset => exact (hsub hsubNames name).deepen offset l hl
      | splice => exact hsub hsubNames parent l hl
      | branches =>
          have hend : Proper (branchesEnd 0 layouts) := by
            rw [branchesEnd_eq style]
            split
            · exact fun _ hnone => absurd hnone List.not_mem_nil
            · exact proper_rowLine hstyle hempty (hframe _ (by simp [frameRows])) 2
          exact ((hlayouts hlayoutNames name true).append hend) l hl
    have hblank : Proper [Code.blank] := by
      intro l hl
      rw [List.mem_singleton.mp hl]
      exact ⟨Int.le_refl 0, List.not_mem_nil, .inl rfl⟩
    rw [flushField_of_resolve (f := f) hr]
    exact ((proper_heading label type).append hsteps).append hblank
  · exact fun _ _ _ hnone => absurd hnone List.not_mem_nil
  · intro f fs hf hfs hnames parent
    obtain ⟨hfirst, hrest⟩ := hnames.append
    exact (hf hfirst parent).append (hfs hrest parent)
  · exact fun _ _ _ _ hnone => absurd hnone List.not_mem_nil
  · intro key name label subFields extra ls hsub hlayouts hnames parent first
    obtain ⟨hname, hnames⟩ := hnames.cons
    obtain ⟨hsubNames, hlayoutNames⟩ := hnames.append
    have hopening : Proper (branchOpening first 0 name) := by
      rw [branchOpening_eq style]
      exact (proper_rowLine hstyle hname (hframe _ (by cases first <;> simp [frameRows])) 2).append
        (proper_rowLine hstyle hname (hframe _ (by simp [frameRows])) 3)
    have hclosing : Proper (branchClosing 0) := by
      rw [branchClosing_eq style]
      exact proper_rowLine hstyle hempty (hframe _ (by simp [frameRows])) 3
    rw [flushBranches]
    exact ((hopening.append ((hsub hsubNames parent).deepen 4)).append hclosing).append
      (hlayouts hlayoutNames parent false)

-- The lines of fields at the margin are put together from those of the fields inside. What stands around
-- these does not depend on them.
structure Composes (style : Style) : Prop where
  cons : ∀ parent f fs, flushFields .standard style parent (f :: fs) =
    flushField .standard style parent f ++ flushFields .standard style parent fs
  rows : ∀ parent (f : Field), Text.lower f.type ∈ ["repeater", "group"] → ∃ front back, ∀ subFields,
    flushField .standard style parent { f with subFields } =
      front ++ (flushFields .standard style f.name subFields).map (Line.deepen 3) ++ back
  clone : ∀ parent (f : Field), Text.lower f.type = "clone" → ∃ front back, ∀ subFields,
    flushField .standard style parent { f with subFields } =
      front ++ flushFields .standard style parent subFields ++ back
  layouts : ∀ parent (f : Field), Text.lower f.type = "flexible_content" → ∃ front back, ∀ layouts,
    flushField .standard style parent { f with layouts } =
      front ++ flushBranches .standard style f.name true layouts ++ branchesEnd 0 layouts ++ back
  layout : ∀ parent first (l : Layout) ls, flushBranches .standard style parent first (l :: ls) =
    branchOpening first 0 l.name ++
      (flushFields .standard style parent l.subFields).map (Line.deepen 4) ++ branchClosing 0 ++
      flushBranches .standard style parent false ls

-- What stands in front of a step of a renderer, and what stands behind it.
def flushFront (style : Style) (parent : String) (f : Field) (steps : List Step) : List Line :=
  heading 0 f.label f.type :: steps.flatMap (flushStep .standard style parent f)

def flushBack (style : Style) (parent : String) (f : Field) (steps : List Step) : List Line :=
  steps.flatMap (flushStep .standard style parent f) ++ [Code.blank]

theorem flushField_around {f : Field} {r : Renderer} (hr : Catalog.standard.resolve f.type = .ok r)
    {n : Nat} {step : Step} (hstep : r.steps[n]? = some step) (style : Style) (parent : String) :
    flushField .standard style parent f = flushFront style parent f (r.steps.take n) ++
      flushStep .standard style parent f step ++ flushBack style parent f (r.steps.drop (n + 1)) := by
  obtain ⟨hn, rfl⟩ := List.getElem?_eq_some_iff.mp hstep
  have hsplit : r.steps = r.steps.take n ++ r.steps[n] :: r.steps.drop (n + 1) := by
    rw [← List.drop_eq_getElem_cons hn, List.take_append_drop]
  rw [flushField_of_resolve hr, flushFront, flushBack]
  conv => lhs; rw [hsplit]
  simp only [List.flatMap_append, List.flatMap_cons, List.append_assoc, List.cons_append,
    List.nil_append]

theorem flush_composes (style : Style) : Composes style where
  cons _ _ _ := rfl
  rows parent f htype := by
    obtain ⟨hrepeater, hgroup, -⟩ := standard_composite f.type
    rcases List.mem_pair.mp htype with htype | htype
    · have hstep : Renderer.repeater.steps[4]? = some (.children 3) := rfl
      exact ⟨flushFront style parent f (Renderer.repeater.steps.take 4),
        flushBack style parent f (Renderer.repeater.steps.drop 5), fun subFields =>
        flushField_around (f := { f with subFields }) (hrepeater htype) hstep style parent⟩
    · have hstep : Renderer.group.steps[3]? = some (.children 3) := rfl
      exact ⟨flushFront style parent f (Renderer.group.steps.take 3),
        flushBack style parent f (Renderer.group.steps.drop 4), fun subFields =>
        flushField_around (f := { f with subFields }) (hgroup htype) hstep style parent⟩
  clone parent f htype := by
    have hclone := (standard_composite f.type).2.2.1 htype
    have hstep : Renderer.clone.steps[1]? = some .splice := rfl
    exact ⟨flushFront style parent f (Renderer.clone.steps.take 1),
      flushBack style parent f (Renderer.clone.steps.drop 2), fun subFields =>
      flushField_around (f := { f with subFields }) hclone hstep style parent⟩
  layouts parent f htype := by
    have hflexible := (standard_composite f.type).2.2.2 htype
    have hstep : Renderer.flexibleContent.steps[3]? = some .branches := rfl
    refine ⟨flushFront style parent f (Renderer.flexibleContent.steps.take 3),
      flushBack style parent f (Renderer.flexibleContent.steps.drop 4), fun layouts => ?_⟩
    rw [List.append_assoc (flushFront ..)]
    exact flushField_around (f := { f with layouts }) hflexible hstep style parent
  layout _ _ l _ := by
    obtain ⟨key, name, label, subFields, extra⟩ := l
    rfl

-- The code of fields is that of their lines at the margin, moved to the depth.
theorem renderLevel_eq {style : Style} (hstyle : style.Unbroken) {fs : List Field}
    (hnames : OneLine (Field.namesAll fs)) (unit : List Char) (k parent : String) (depth : Int) :
    (renderLevel ⟨.standard, { style with unit }⟩ k depth parent fs).text =
      (Code.text? unit ((flushFields .standard style parent fs).map (Line.deepen depth))).mapError
        .indentation := by
  have hlines := (lines_flush hstyle unit k).2.1 fs hnames parent depth
  exact Trace.text_of_lines hlines unit

theorem text?_of_renderLevel {style : Style} (hstyle : style.Unbroken) {fs : List Field}
    (hnames : OneLine (Field.namesAll fs)) {unit : List Char} {k parent : String} {depth : Int}
    {code : List Char}
    (h : (renderLevel ⟨.standard, { style with unit }⟩ k depth parent fs).text = .ok code) :
    Code.text? unit ((flushFields .standard style parent fs).map (Line.deepen depth)) = .ok code := by
  rw [renderLevel_eq hstyle hnames] at h
  cases htext : Code.text? unit ((flushFields .standard style parent fs).map (Line.deepen depth)) with
  | error e =>
      rw [htext] at h
      cases h
  | ok text =>
      rw [htext] at h
      exact congrArg _ (Except.ok.inj h)

-- Where names and settings are on one line, the code of fields is a list of lines that depends on the
-- fields, the field around them and the other settings than the unit of indentation. At any depth and for
-- any unit each of its lines is written behind the units of the depth and of its level; so more depth is
-- more units in front of rows, and another unit changes the indentation only.
theorem rendered_at_any_depth {style : Style} (hstyle : style.Unbroken) {fs : List Field}
    (hnames : OneLine (Field.namesAll fs)) (parent : String) :
    let flush : Style := { style with unit := [] }
    let lines := flushFields .standard flush parent fs
    let render := fun (unit : List Char) (k : String) (depth : Int) =>
      (renderLevel ⟨.standard, { style with unit }⟩ k depth parent fs).text
    Proper lines ∧ Composes flush ∧
      (∀ unit k depth,
        render unit k depth = (Code.written? unit depth lines).mapError .indentation) ∧
      (∀ unit k (depth more : Nat) code, '\n' ∉ unit → render unit k (depth + more : Nat) = .ok code →
        ∃ code', render unit k depth = .ok code' ∧ Text.lines code =
          (Text.lines code').map (push (List.replicate more unit).flatten)) ∧
      (∀ unit unit' k depth code code', (∀ c ∈ unit, isIndent c = true) →
        (∀ c ∈ unit', isIndent c = true) →
        render unit k depth = .ok code → render unit' k depth = .ok code' →
        (Text.lines code).map (·.dropWhile isIndent) =
          (Text.lines code').map (·.dropWhile isIndent)) := by
  intro flush lines render
  have hflush : flush.Unbroken := ⟨hstyle.1, hstyle.2, hstyle.3⟩
  have hproper : Proper lines := (flush_proper hflush).2.1 fs hnames parent
  have hbreaks : ∀ levels : Int, ∀ l ∈ lines.map (Line.deepen levels), '\n' ∉ l.content := by
    intro levels l hl
    obtain ⟨l, hmem, rfl⟩ := List.mem_map.mp hl
    rw [Code.Line.content_deepen]
    exact (hproper l hmem).unbroken
  refine ⟨hproper, flush_composes flush, ?_, ?_, ?_⟩
  · intro unit k depth
    rw [← Code.text?_map_deepen]
    exact renderLevel_eq hflush hnames unit k parent depth
  · intro unit k depth more code hunit hcode
    obtain ⟨code', hcode', hrows⟩ :=
      Code.text?_deepen_add hunit hproper (text?_of_renderLevel hflush hnames hcode)
    refine ⟨code', ?_, hrows⟩
    exact (renderLevel_eq hflush hnames unit k parent depth).trans (congrArg _ hcode')
  · intro unit unit' k depth code code' hunit hunit' hcode hcode'
    obtain ⟨-, rfl⟩ := Code.text?_eq_ok_iff.mp (text?_of_renderLevel hflush hnames hcode)
    obtain ⟨-, rfl⟩ := Code.text?_eq_ok_iff.mp (text?_of_renderLevel hflush hnames hcode')
    exact Code.lines_text_of_units hunit hunit' (hbreaks depth)

-- A clone among rows, and a layout.
def steppedFields : List Field := [
  ⟨"field_rows", "rows", "Rows", "repeater", [
    ⟨"field_copy", "copy", "Copy", "clone", [
      ⟨"field_note", "note", "Note", "url", [], [], []⟩], [], []⟩], [], []⟩,
  ⟨"field_sections", "sections", "Sections", "flexible_content", [],
    [⟨"layout_list", "list", "List", [⟨"field_tag", "tag", "Tag", "text", [], [], []⟩], []⟩], []⟩]

def tabbed : Setting := ⟨.standard, { Style.plain with unit := ['\t'] }⟩

theorem rendered_at_any_depth_of_steppedFields :
    Style.plain.Unbroken ∧ OneLine (Field.namesAll steppedFields) ∧ ∃ code code',
      (renderLevel tabbed "group_page" 2 "" steppedFields).text = .ok code ∧
      (renderLevel tabbed "group_page" 0 "" steppedFields).text = .ok code' ∧
      Text.lines code = (Text.lines code').map (push ['\t', '\t']) := by
  have hstyle : Style.plain.Unbroken := ⟨by decide, by decide, by decide⟩
  have hnames : OneLine (Field.namesAll steppedFields) := by
    have hall : (Field.namesAll steppedFields).all (!·.toList.contains '\n') = true := by decide +kernel
    simpa [OneLine] using hall
  have hok : (renderLevel tabbed "group_page" 2 "" steppedFields).text.isOk = true := by decide +kernel
  obtain ⟨-, -, -, hdeeper, -⟩ := rendered_at_any_depth hstyle hnames ""
  cases hcode : (renderLevel tabbed "group_page" 2 "" steppedFields).text with
  | error e =>
      rw [hcode] at hok
      cases hok
  | ok code =>
      obtain ⟨code', hcode', hrows⟩ := hdeeper ['\t'] "group_page" 0 2 code (by decide) hcode
      exact ⟨hstyle, hnames, code, code', rfl, hcode', hrows⟩

end FieldTemplates.Snippet
