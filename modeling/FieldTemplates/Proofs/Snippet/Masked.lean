import FieldTemplates.Proofs.Code.Veiled
import FieldTemplates.Proofs.Snippet.Types

namespace FieldTemplates

namespace Field

mutual

-- The field without the names and the labels of the passwords in it.
def masked : Field → Field
  | ⟨key, name, label, type, subFields, layouts, extra⟩ =>
    if Text.lower type = "password" then
      ⟨key, "", "", type, maskedAll subFields, maskedLayouts layouts, extra⟩
    else ⟨key, name, label, type, maskedAll subFields, maskedLayouts layouts, extra⟩

def maskedAll : List Field → List Field
  | [] => []
  | f :: fs => masked f :: maskedAll fs

def maskedLayouts : List Layout → List Layout
  | [] => []
  | ⟨key, name, label, subFields, extra⟩ :: ls =>
    ⟨key, name, label, maskedAll subFields, extra⟩ :: maskedLayouts ls

end

end Field

namespace Snippet

open Code (IsRemark Line Veiled)
open Php (Token)
open Text (isIndent)

def Piece.isUnbroken : Piece → Bool
  | code s => !s.toList.contains '\n'
  | commentName | commentType => true
  | _ => false

def Piece.endsComment : Piece → Bool
  | code s => s.toList.getLast? == some '/'
  | _ => false

-- A row of comments that takes one line, whatever is told in them.
def Row.isOnlyRemark (row : Row) : Bool :=
  isSafe row && row.all Piece.isUnbroken && row.getLast?.any Piece.endsComment &&
    (rowOutline false row).isEmpty && (rowOutline true row).isEmpty

def passwordRow : Row := ["/* Password field: ", .commentName, " (not displayed for security) */"]

theorem remark_rows : Row.isOnlyRemark headingRow = true ∧ Row.isOnlyRemark passwordRow = true := by
  decide +kernel

theorem newline_notMem_rowText {row : Row} (h : row.all Piece.isUnbroken = true) (style : Style)
    (a : Accessor) (subject : Subject) : '\n' ∉ rowText style a subject row := by
  rw [rowText, List.mem_flatMap]
  rintro ⟨p, hp, hmem⟩
  have hpiece := List.all_eq_true.mp h p hp
  cases p with
  | code s => simp_all [Piece.isUnbroken, Piece.text]
  | commentName | commentType => exact Php.newline_notMem_comment _ hmem
  | value | literalName | className | bareName | textDomain | imageSize | gallerySize => cases hpiece

theorem rowText_endsComment {row : Row} (h : row.getLast?.any Piece.endsComment = true)
    (style : Style) (a : Accessor) (subject : Subject) :
    ∃ cs, rowText style a subject row = cs ++ ['/'] := by
  obtain ⟨p, hlast, hp⟩ := (Option.any_eq_true _ _).mp h
  obtain ⟨front, rfl⟩ := List.getLast?_eq_some_iff.mp hlast
  cases p with
  | code s =>
      obtain ⟨cs, hcs⟩ := List.getLast?_eq_some_iff.mp (beq_iff_eq.mp hp)
      refine ⟨rowText style a subject front ++ cs, ?_⟩
      rw [rowText, List.flatMap_append, List.flatMap_singleton, Piece.text, hcs, ← List.append_assoc]
      rfl
  | value | literalName | className | commentName | commentType | bareName | textDomain
  | imageSize | gallerySize => cases hp

-- Lines that are there, stand equally deep and differ in their comments only.
def Covers (unit : List Char) (lines other : Except CatalogError (List Line)) : Prop :=
  ∃ ls ls', lines = .ok ls ∧ other = .ok ls' ∧
    Veiled (ls.map (Line.row unit)) (ls'.map (Line.row unit)) ∧
    ls.map (Line.error? unit) = ls'.map (Line.error? unit)

namespace Covers

variable {unit : List Char} {lines other rest more : Except CatalogError (List Line)}

theorem nil : Covers unit (.ok []) (.ok []) := ⟨[], [], rfl, rfl, .nil, rfl⟩

theorem append (h : Covers unit lines other) (hrest : Covers unit rest more) :
    Covers unit (joined lines rest) (joined other more) := by
  obtain ⟨ls, ls', rfl, rfl, hveiled, herrors⟩ := h
  obtain ⟨ms, ms', rfl, rfl, hveiled', herrors'⟩ := hrest
  refine ⟨ls ++ ms, ls' ++ ms', rfl, rfl, ?_, ?_⟩
  · rw [List.map_append, List.map_append]
    exact hveiled.append hveiled'
  · rw [List.map_append, List.map_append, herrors, herrors']

theorem of_sets {style : Style} {ps : List Placed} (h : Sets style lines ps) :
    Covers style.unit lines lines := by
  obtain ⟨ls, rfl, hls⟩ := h
  rw [Code.text_eq_ended] at hls
  exact ⟨ls, ls, rfl, rfl, .same hls, rfl⟩

theorem steps {f g : Step → Except CatalogError (List Line)} {steps : List Step}
    (h : ∀ step ∈ steps, Covers unit (f step) (g step)) :
    Covers unit (stepsLines f steps) (stepsLines g steps) := steps_related nil append h

end Covers

-- Texts that both fail to be written over the same indentation, or are there and are related.
def Paired {α : Type} (R : α → α → Prop) (first second : Except RenderError α) : Prop :=
  (∃ e, first = .error (.indentation e) ∧ second = .error (.indentation e)) ∨
    ∃ a b, first = .ok a ∧ second = .ok b ∧ R a b

theorem Covers.text {unit : List Char} {t u : Trace} (h : Covers unit t.lines? u.lines?) :
    Paired (fun cs ds => Veiled (Text.lines cs) (Text.lines ds)) (t.rendered unit).text
      (u.rendered unit).text := by
  obtain ⟨ls, ls', hlines, hlines', hveiled, herrors⟩ := h
  have hfind : ls.findSome? (Line.error? unit) = ls'.findSome? (Line.error? unit) := by
    have hid : ∀ ls : List Line, ls.findSome? (Line.error? unit) =
        (ls.map (Line.error? unit)).findSome? id := fun ls => by rw [List.findSome?_map]; rfl
    rw [hid, hid, herrors]
  rw [Trace.text_of_lines hlines, Trace.text_of_lines hlines', Code.text?, Code.text?, hfind]
  cases ls'.findSome? (Line.error? unit) with
  | some e => exact .inl ⟨e, rfl, rfl⟩
  | none =>
      have hlines := hveiled.lines.append .blank
      rw [← Text.lines_ended, ← Text.lines_ended, ← Code.text_eq_ended, ← Code.text_eq_ended] at hlines
      exact .inr ⟨_, _, rfl, rfl, hlines⟩

theorem branchesEnd_masked (depth : Int) (layouts : List Layout) :
    branchesEnd depth (Field.maskedLayouts layouts) = branchesEnd depth layouts := by
  rcases layouts with _ | ⟨⟨_, _, _, _, _⟩, _⟩ <;> rfl

theorem Catalog.standard_resolve_password {type : String} (h : Text.lower type = "password") :
    Catalog.standard.resolve type = .ok .password := by
  have hname : (standardTable.find? "password").map Renderer.name = some Renderer.password.name := by
    decide +kernel
  obtain ⟨r, hr, hsame⟩ := Option.map_eq_some_iff.mp hname
  have hmem : r ∈ standardPlans := mem_standardPlans (Table.mem_of_find? hr)
  have hpassword : Renderer.password ∈ standardPlans := by simp [standardPlans, standardRenderers]
  rw [standard_resolve_eq, h, hr, Option.getD_some, name_inj_plans hmem hpassword hsame]

section

variable {s : Setting} (hunit : ∀ c ∈ s.style.unit, isIndent c = true)
include hunit

theorem rowLine_isRemark {row : Row} (h : row.isOnlyRemark = true) (a : Accessor) (subject : Subject)
    (depth : Int) (offset : Nat) :
    IsRemark ((rowLine s.style a subject depth offset row).row s.style.unit) := by
  simp only [Row.isOnlyRemark, Bool.and_eq_true, List.isEmpty_iff] at h
  obtain ⟨⟨⟨⟨hsafe, hunbroken⟩, hlast⟩, htop⟩, hsub⟩ := h
  obtain ⟨cs, hcs⟩ := rowText_endsComment hlast s.style a subject
  have hreads := reads_outline s.style a subject hsafe
  have hnone : rowOutline a.isSubField row = [] := by
    cases a.isSubField with
    | false => exact htop
    | true => exact hsub
  rw [hnone] at hreads
  exact Line.isRemark hunit hcs (newline_notMem_rowText hunbroken s.style a subject) hreads

theorem heading_isRemark (depth : Int) (label type : String) :
    IsRemark ((heading depth label type).row s.style.unit) := by
  rw [heading_eq s.style]
  exact rowLine_isRemark hunit remark_rows.1 {} _ depth 0

variable (hcatalog : s.catalog = .standard)
include hcatalog

-- A password is two comments and a blank line.
omit hunit in
theorem password_lines {type : String} (h : Text.lower type = "password") (a : Accessor) (depth : Int)
    (key name label : String) (subFields : List Field) (layouts : List Layout)
    (extra : List (String × Value)) :
    fieldLines s a depth ⟨key, name, label, type, subFields, layouts, extra⟩ =
      .ok [heading depth label type, rowLine s.style a ⟨name, type⟩ depth 0 passwordRow, Code.blank] := by
  have hr : s.catalog.resolve type = .ok .password := by
    rw [hcatalog, Catalog.standard_resolve_password h]
  rw [fieldLines_of_resolve hr]
  rfl

theorem password_covers {type : String} (h : Text.lower type = "password") (a : Accessor) (depth : Int)
    (key name label name' label' : String) (subFields subFields' : List Field)
    (layouts layouts' : List Layout) (extra : List (String × Value)) :
    Covers s.style.unit (fieldLines s a depth ⟨key, name, label, type, subFields, layouts, extra⟩)
      (fieldLines s a depth ⟨key, name', label', type, subFields', layouts', extra⟩) := by
  have hheading := heading_isRemark hunit depth label type
  have hheading' := heading_isRemark hunit depth label' type
  have hrow := rowLine_isRemark hunit remark_rows.2 a ⟨name, type⟩ depth 0
  have hrow' := rowLine_isRemark hunit remark_rows.2 a ⟨name', type⟩ depth 0
  rw [password_lines hcatalog h, password_lines hcatalog h]
  refine ⟨_, _, rfl, rfl, .remark hheading hheading' (.remark hrow hrow' .blank), ?_⟩
  simp only [List.map_cons, Line.error?_of_isRemark, hheading, hheading', hrow, hrow']
  rfl

theorem lines_masked :
    (∀ f a depth, Covers s.style.unit (fieldLines s a depth f) (fieldLines s a depth f.masked)) ∧
      (∀ fs a depth, Covers s.style.unit (fieldsLines s a depth fs)
        (fieldsLines s a depth (Field.maskedAll fs))) ∧
      (∀ ls a depth first, Covers s.style.unit (branchLines s a depth first ls)
        (branchLines s a depth first (Field.maskedLayouts ls))) := by
  refine Field.tree_induction ?_ ?_ ?_ ?_ ?_
  · intro key name label type subFields layouts extra hsub hlayouts a depth
    by_cases hpassword : Text.lower type = "password"
    · simp only [Field.masked, hpassword, if_true]
      exact password_covers hunit hcatalog hpassword a depth ..
    · simp only [Field.masked, hpassword, if_false]
      obtain ⟨r, hr, hsafe⟩ : ∃ r, s.catalog.resolve type = .ok r ∧ r.safe = true :=
        hcatalog ▸ Catalog.standard_safe type
      have hsteps : ∀ step ∈ r.steps, Covers s.style.unit
          (stepLines s a depth name type subFields layouts step)
          (stepLines s a depth name type (Field.maskedAll subFields) (Field.maskedLayouts layouts)
            step) := by
        intro step hstep
        have hs := Renderer.safe_step hsafe hstep
        cases step with
        | line offset row =>
            exact .of_sets (rowLine_sets hunit a _ depth offset (Step.isSafe_row hs))
        | block rows => exact .of_sets (block_sets hunit a _ depth (Step.isSafe_rows hs))
        | children offset => exact hsub _ _
        | splice => exact hsub _ _
        | branches =>
            have hend := Covers.of_sets (branchesEnd_sets hunit depth layouts)
            have hall := (hlayouts (a.nested name) depth true).append hend
            rw [stepLines, stepLines, branchesEnd_masked]
            exact hall
      have hall := ((Covers.of_sets (heading_sets hunit depth label type)).append
        (Covers.steps hsteps)).append (.of_sets (blank_sets hunit))
      rw [fieldLines_of_resolve hr, fieldLines_of_resolve hr]
      exact hall
  · exact fun a depth => .nil
  · intro f fs hf hfs a depth
    rw [Field.maskedAll, fieldsLines_cons, fieldsLines_cons]
    exact (hf a depth).append (hfs a depth)
  · exact fun a depth first => .nil
  · intro key name label subFields extra ls hsub hlayouts a depth first
    have hopening := Covers.of_sets (branchOpening_sets hunit first depth name)
    have hclosing := Covers.of_sets (branchClosing_sets hunit depth)
    have hall := ((hopening.append (hsub a (depth + 4))).append hclosing).append
      (hlayouts a depth false)
    rw [Field.maskedLayouts, branchLines_cons, branchLines_cons]
    exact hall

end

end Snippet

end FieldTemplates
