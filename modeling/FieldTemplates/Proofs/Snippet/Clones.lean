import FieldTemplates.Proofs.Code.Deepen
import FieldTemplates.Proofs.Code.Remarks
import FieldTemplates.Proofs.Snippet.Levels
import FieldTemplates.Proofs.Snippet.Shown

namespace FieldTemplates

namespace Field

mutual

-- The fields that stand for a field: those of a clone, or the field itself with no clones among the
-- fields that it shows.
def uncloned : Field → List Field
  | ⟨key, name, label, type, subFields, layouts, extra⟩ =>
    if Text.lower type = "clone" then unclonedAll subFields
    else [⟨key, name, label, type,
      if Text.lower type ∈ ["repeater", "group"] then unclonedAll subFields else subFields,
      unclonedLayouts layouts, extra⟩]

def unclonedAll : List Field → List Field
  | [] => []
  | f :: fs => uncloned f ++ unclonedAll fs

def unclonedLayouts : List Layout → List Layout
  | [] => []
  | ⟨key, name, label, subFields, extra⟩ :: ls =>
    ⟨key, name, label, unclonedAll subFields, extra⟩ :: unclonedLayouts ls

end

theorem shownAll_append (fs gs : List Field) : shownAll (fs ++ gs) = shownAll fs ++ shownAll gs := by
  induction fs with
  | nil => rfl
  | cons f fs ih => rw [List.cons_append, shownAll, shownAll, ih, List.append_assoc]

-- No clone is left among the fields that have code of their own.
theorem shown_uncloned :
    (∀ f : Field, ∀ g ∈ shownAll f.uncloned, g.isClone = false) ∧
      (∀ fs, ∀ g ∈ shownAll (unclonedAll fs), g.isClone = false) ∧
      (∀ ls, ∀ g ∈ shownIn (unclonedLayouts ls), g.isClone = false) := by
  refine tree_induction ?_ ?_ ?_ ?_ ?_
  · intro key name label type subFields layouts extra hsub hlayouts g hg
    by_cases hclone : Text.lower type = "clone"
    · rw [uncloned, if_pos hclone] at hg
      exact hsub g hg
    · rw [uncloned, if_neg hclone, shownAll, shownAll, List.append_nil, shown] at hg
      rcases List.mem_cons.mp hg with rfl | hg
      · exact beq_eq_false_iff_ne.mpr hclone
      · split_ifs at hg with hholds hrows hflexible
        · exact hsub g hg
        · have hnone : Text.lower type ∉ ["repeater", "group", "clone"] := by
            simpa [hclone] using hrows
          exact absurd hholds hnone
        · exact hlayouts g hg
        · cases hg
  · exact fun g hg => absurd hg List.not_mem_nil
  · intro f fs hf hfs g hg
    rw [unclonedAll, shownAll_append] at hg
    exact (List.mem_append.mp hg).elim (hf g) (hfs g)
  · exact fun g hg => absurd hg List.not_mem_nil
  · intro key name label subFields extra ls hsub hlayouts g hg
    rw [unclonedLayouts, shownIn] at hg
    exact (List.mem_append.mp hg).elim (hsub g) (hlayouts g)

end Field

namespace Snippet

open Code (Line)

-- Lines of which some are left out; no row of code is lost with these.
def Thins (unit : List Char) (lines fewer : Except CatalogError (List Line)) : Prop :=
  ∃ ls ls', lines = .ok ls ∧ fewer = .ok ls' ∧ List.Sublist ls' ls ∧
    ls.flatMap (Line.codeRows unit) = ls'.flatMap (Line.codeRows unit)

namespace Thins

variable {unit : List Char} {lines fewer rest fewerRest : Except CatalogError (List Line)}

theorem same (ls : List Line) : Thins unit (.ok ls) (.ok ls) := ⟨ls, ls, rfl, rfl, .refl ls, rfl⟩

theorem dropped {l : Line} (h : l.codeRows unit = []) : Thins unit (.ok [l]) (.ok []) := by
  refine ⟨[l], [], rfl, rfl, List.nil_sublist _, ?_⟩
  rw [List.flatMap_singleton, h]
  rfl

theorem append (h : Thins unit lines fewer) (hrest : Thins unit rest fewerRest) :
    Thins unit (joined lines rest) (joined fewer fewerRest) := by
  obtain ⟨ls, ls', rfl, rfl, hsub, hrows⟩ := h
  obtain ⟨more, more', rfl, rfl, hsubRest, hrowsRest⟩ := hrest
  refine ⟨ls ++ more, ls' ++ more', rfl, rfl, hsub.append hsubRest, ?_⟩
  rw [List.flatMap_append, List.flatMap_append, hrows, hrowsRest]

end Thins

variable {s : Setting}

section

variable (hunit : ∀ c ∈ s.style.unit, Text.isIndent c = true)
include hunit

theorem heading_dropped (depth : Int) (label type : String) :
    Thins s.style.unit (.ok [heading depth label type]) (.ok []) := by
  let inside := " Field: ".toList ++ (Php.comment label.toList ++ (" (".toList ++
    (Php.comment type.toList ++ ") ".toList)))
  have hline : heading depth label type = ⟨depth, '/' :: '*' :: (inside ++ Code.commentEnd)⟩ := by
    simp [heading, inside, Code.commentEnd]
  have happart : Php.Apart '*' '/' inside :=
    Php.apart_comment label.toList (by decide)
      (Php.apart_comment type.toList (by decide) (Php.apart_of_notMem (by decide)) (by decide)) (by simp)
  have hbreak : '\n' ∉ inside := by simp [inside, Php.newline_notMem_comment]
  rw [hline]
  exact .dropped (Code.codeRows_comment hunit hbreak happart depth)

theorem cloneLine_dropped (a : Accessor) (depth : Int) (subject : Subject) :
    Thins s.style.unit (.ok [rowLine s.style a subject depth 0
      ["/* Clone field: ", .commentName, " */"]]) (.ok []) := by
  let inside := " Clone field: ".toList ++ (Php.comment subject.name.toList ++ " ".toList)
  have hline : rowLine s.style a subject depth 0 ["/* Clone field: ", .commentName, " */"] =
      ⟨depth, '/' :: '*' :: (inside ++ Code.commentEnd)⟩ := by
    simp [rowLine, rowText, Piece.text, inside, Code.commentEnd]
  have happart : Php.Apart '*' '/' inside :=
    Php.apart_comment subject.name.toList (by decide) (Php.apart_of_notMem (by decide)) (by decide)
  have hbreak : '\n' ∉ inside := by simp [inside, Php.newline_notMem_comment]
  rw [hline]
  exact .dropped (Code.codeRows_comment hunit hbreak happart depth)

-- A field and the fields that stand for it have the same rows of code.
theorem lines_thin (hcatalog : s.catalog = .standard) (k : String) :
    (∀ (f : Field) parent depth, Thins s.style.unit
        (fieldLines s (.nested { groupKey := k } parent) depth f)
        (fieldsLines s (.nested { groupKey := k } parent) depth f.uncloned)) ∧
      (∀ fs parent depth, Thins s.style.unit
        (fieldsLines s (.nested { groupKey := k } parent) depth fs)
        (fieldsLines s (.nested { groupKey := k } parent) depth (Field.unclonedAll fs))) ∧
      (∀ ls parent depth first, Thins s.style.unit
        (branchLines s (.nested { groupKey := k } parent) depth first ls)
        (branchLines s (.nested { groupKey := k } parent) depth first
          (Field.unclonedLayouts ls))) := by
  refine Field.tree_induction ?_ ?_ ?_ ?_ ?_
  · intro key name label type subFields layouts extra hsub hlayouts parent depth
    obtain ⟨r, -, hr⟩ := Catalog.standard_resolve type
    rw [← hcatalog] at hr
    let a : Accessor := .nested { groupKey := k } parent
    by_cases hclone : Text.lower type = "clone"
    · obtain rfl : r = .clone := by
        have hr' := (standard_composite type).2.2.1 hclone
        rw [hcatalog, hr'] at hr
        exact (Except.ok.inj hr).symm
      have hall := (((heading_dropped hunit depth label type).append
        ((cloneLine_dropped hunit a depth ⟨name, type⟩).append (hsub parent depth))).append
          (.dropped (Code.codeRows_blank _)))
      have hsteps : stepsLines (stepLines s a depth name type subFields layouts) Renderer.clone.steps =
          joined (.ok [rowLine s.style a ⟨name, type⟩ depth 0 ["/* Clone field: ", .commentName, " */"]])
            (fieldsLines s a depth subFields) := by
        rw [Renderer.clone, stepsLines_cons, stepsLines_cons, stepLines, stepLines,
          Accessor.enclosing_nested]
        exact congrArg _ (joined_nil _)
      rw [fieldLines_of_resolve hr, Field.uncloned, if_pos hclone, hsteps]
      rw [nil_joined, nil_joined, joined_nil] at hall
      exact hall
    · let inside := if Text.lower type ∈ ["repeater", "group"] then Field.unclonedAll subFields
        else subFields
      have hsteps : ∀ step ∈ r.steps, Thins s.style.unit
          (stepLines s a depth name type subFields layouts step)
          (stepLines s a depth name type inside (Field.unclonedLayouts layouts) step) := by
        intro step hstep
        have hholds := standard_holds (hcatalog ▸ hr) step hstep
        cases step with
        | line offset row => exact .same _
        | block rows => exact .same _
        | children offset =>
            have hinside : inside = Field.unclonedAll subFields := if_pos hholds.2
            rw [hinside]
            exact hsub name (depth + offset)
        | splice => exact absurd hholds hclone
        | branches =>
            have hend : branchesEnd depth (Field.unclonedLayouts layouts) = branchesEnd depth layouts := by
              rcases layouts with _ | ⟨⟨_, _, _, _, _⟩, _⟩ <;> rfl
            rw [stepLines, stepLines, hend]
            exact (hlayouts name depth true).append (.same _)
      have hall := ((Thins.same [heading depth label type]).append
        (steps_related (.same []) Thins.append hsteps)).append (.same [Code.blank])
      rw [Field.uncloned, if_neg hclone, fieldsLines_singleton, fieldLines_of_resolve hr,
        fieldLines_of_resolve hr]
      exact hall
  · exact fun parent depth => .same []
  · intro f fs hf hfs parent depth
    rw [Field.unclonedAll, fieldsLines_append, fieldsLines_cons]
    exact (hf parent depth).append (hfs parent depth)
  · exact fun parent depth first => .same []
  · intro key name label subFields extra ls hsub hlayouts parent depth first
    have hall := (((Thins.same (branchOpening first depth name)).append
      (hsub parent (depth + 4))).append (.same (branchClosing depth))).append (hlayouts parent depth false)
    rw [Field.unclonedLayouts, branchLines_cons, branchLines_cons]
    exact hall

end

-- Of lines that are written all that is left is written, and has the same rows of code.
theorem Thins.text {unit : List Char} {t u : Trace} (h : Thins unit t.lines? u.lines?) :
    (∃ e, (t.rendered unit).text = .error (.indentation e)) ∨
      ∃ code code', (t.rendered unit).text = .ok code ∧ (u.rendered unit).text = .ok code' ∧
        Code.codeLines code = Code.codeLines code' := by
  obtain ⟨ls, ls', hlines, hlines', hsub, hrows⟩ := h
  rw [Trace.text_of_lines hlines, Trace.text_of_lines hlines']
  cases hcode : Code.text? unit ls with
  | error e => exact .inl ⟨e, rfl⟩
  | ok code =>
      obtain ⟨hwritten, rfl⟩ := Code.text?_eq_ok_iff.mp hcode
      have hleft : Code.text? unit ls' = .ok (Code.text unit ls') :=
        Code.text?_eq_ok_iff.mpr ⟨fun l hl => hwritten l (hsub.subset hl), rfl⟩
      refine .inr ⟨_, _, rfl, by rw [hleft]; rfl, ?_⟩
      rw [Code.codeLines_text, Code.codeLines_text, hrows]

-- With the fields of clones in the place of the clones, code has the same rows but for blank ones and
-- those that are comments only; no clone is shown then. There is code unless it stands too deep for any
-- memory.
theorem clones_transparent {o : Options} {style : Style} (hstyle : Style.ofOptions o = .ok style)
    (k : String) (depth : Int) (parent : String) (fs : List Field) :
    let render := fun fs => (renderLevel ⟨.standard, style⟩ k depth parent fs).text
    (∀ g ∈ Field.shownAll (Field.unclonedAll fs), g.isClone = false) ∧
      ((∃ e, render fs = .error (.indentation e) ∧ (0 ≤ depth → TooDeep style depth fs)) ∨
        ∃ code code', render fs = .ok code ∧ render (Field.unclonedAll fs) = .ok code' ∧
          Code.codeLines code = Code.codeLines code') := by
  let s : Setting := ⟨.standard, style⟩
  have hthin := (lines_thin (s := s) (Style.isIndent_unit hstyle) rfl k).2.1 fs parent depth
  refine ⟨Field.shown_uncloned.2.1 fs, hthin.text.imp_left ?_⟩
  rintro ⟨e, he⟩
  exact ⟨e, he, fun hdepth => tooDeep_of_refused (s := s) rfl hdepth he⟩

-- Clones in clones, among the rows of a field and in a layout.
def clonedFields : List Field := [
  ⟨"field_outer", "outer", "Outer", "Clone", [
    ⟨"field_rows", "rows", "Rows", "repeater", [
      ⟨"field_inner", "inner", "Inner", "clone", [
        ⟨"field_note", "note", "Note", "url", [], [], []⟩], [], []⟩], [], []⟩], [], []⟩,
  ⟨"field_sections", "sections", "Sections", "flexible_content", [], [
    ⟨"layout_list", "list", "List", [
      ⟨"field_copy", "copy", "Copy", "clone", [
        ⟨"field_tag", "tag", "Tag", "text", [], [], []⟩], [], []⟩], []⟩], []⟩]

theorem clones_transparent_of_clonedFields : Style.ofOptions {} = .ok .plain ∧
    ∃ code code', (renderLevel ⟨.standard, .plain⟩ "group_page" 1 "" clonedFields).text = .ok code ∧
      (renderLevel ⟨.standard, .plain⟩ "group_page" 1 "" (Field.unclonedAll clonedFields)).text =
        .ok code' ∧ Code.codeLines code = Code.codeLines code' := by
  have hok : (renderLevel ⟨.standard, .plain⟩ "group_page" 1 "" clonedFields).text.isOk = true := by
    decide +kernel
  refine ⟨Style.ofOptions_plain, ?_⟩
  obtain ⟨-, ⟨e, he, -⟩ | hsame⟩ :=
    clones_transparent Style.ofOptions_plain "group_page" 1 "" clonedFields
  · simp only at he
    rw [he] at hok
    cases hok
  · exact hsame

end Snippet

end FieldTemplates
