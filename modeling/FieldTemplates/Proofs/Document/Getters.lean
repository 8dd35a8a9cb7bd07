import FieldTemplates.Proofs.Document.Names
import FieldTemplates.Proofs.Snippet.Levels
import FieldTemplates.Proofs.Snippet.Calls

namespace FieldTemplates

namespace Snippet

-- The function that reads the value of a field, among rows or on the page.
def getter (sub : Bool) : List Char := (if sub then "get_sub_field" else "get_field").toList

def isGetter (f : List Char) : Bool := f == getter true || f == getter false

def Piece.isValue : Piece → Bool
  | value => true
  | _ => false

def Row.valueCount (row : Row) : Nat := row.countP Piece.isValue

-- How often a renderer reads the value of its field.
def Renderer.valueCount (r : Renderer) : Nat := (r.rows.map Row.valueCount).sum

def Catalog.valueCount (c : Catalog) (type : String) : Nat :=
  match c.resolve type with
  | .error _ => 0
  | .ok r => r.valueCount

theorem Catalog.valueCount_of_resolve {c : Catalog} {type : String} {r : Renderer}
    (hr : c.resolve type = .ok r) : c.valueCount type = r.valueCount := by
  rw [Catalog.valueCount, hr]

-- What the renderer of a field reads of its value.
def Field.getters (sub : Bool) (f : Field) : List (List Char × String) :=
  List.replicate (Catalog.standard.valueCount f.type) (getter sub, f.name)

-- In rows from the row, else from the page.
def Spot.getters (p : Spot) : List (List Char × String) := Field.getters (p.owner != "") p.field

theorem isGetter_getter (sub : Bool) : isGetter (getter sub) = true := by cases sub <;> rfl

theorem filter_spelledReaders (sub : Bool) (spelled : List (List Char ⊕ Piece)) :
    (spelledReaders sub spelled).filter isGetter =
      List.replicate (spelled.countP (Sum.elim (fun _ => false) Piece.isValue)) (getter sub) := by
  fun_induction spelledReaders sub spelled with
  | case1 => rfl
  | case2 xs ih =>
      have hvalue : isGetter (if sub then "get_sub_field" else "get_field").toList = true :=
        isGetter_getter sub
      rw [List.filter_cons_of_pos hvalue, ih, List.countP_cons_of_pos (by rfl), List.replicate_succ]
      rfl
  | case3 cs xs ih =>
      have hother : isGetter (if cs = "get_row_layout() == '".toList then Php.layoutReader
          else "have_rows".toList) = false := by split <;> decide
      rw [List.filter_cons_of_neg (Bool.eq_false_iff.mp hother), ih,
        List.countP_cons_of_neg (by simp), List.countP_cons_of_neg (by simp [Piece.isValue])]
  | case4 x xs hvalue _ ih =>
      have hnone : Sum.elim (fun _ => false) Piece.isValue x = false := by
        rcases x with cs | p
        · rfl
        · cases p <;> first | rfl | exact absurd rfl hvalue
      rw [ih, List.countP_cons_of_neg (Bool.eq_false_iff.mp hnone)]

theorem filter_readers (sub : Bool) (row : Row) :
    (row.readers sub).filter isGetter = List.replicate row.valueCount (getter sub) := by
  have hspell : row.spell.countP (Sum.elim (fun _ => false) Piece.isValue) = row.valueCount := by
    rw [Row.spell, List.countP_map]
    exact List.countP_congr fun p _ => by cases p <;> rfl
  rw [Row.readers, filter_spelledReaders, hspell]

-- What a row reads of values.
def Placed.getters (p : Placed) : List (List Char × String) := p.reads.filter (isGetter ·.1)

theorem Placed.getters_eq (p : Placed) :
    p.getters = List.replicate p.row.valueCount (getter p.sub, p.subject.name) := by
  rw [Placed.getters, Placed.reads, List.filter_map]
  exact (congrArg _ (filter_readers p.sub p.row)).trans List.map_replicate

-- Values are read in the rows of renderers that hold no other fields, and in no other rows.
theorem valueCount_frame : ∀ row ∈ frameRows, row.valueCount = 0 := by decide

theorem valueCount_composite : ∀ r ∈ standardPlans, r.isLeaf = true ∨
    ∀ row ∈ r.rows, row.valueCount = 0 := by
  decide +kernel

theorem flatMap_replicate {α β : Type} (count : α → Nat) (b : β) (xs : List α) :
    xs.flatMap (fun a => List.replicate (count a) b) = List.replicate (xs.map count).sum b := by
  induction xs with
  | nil => rfl
  | cons a xs ih => rw [List.flatMap_cons, ih, List.map_cons, List.sum_cons, List.replicate_add]

theorem gathers_getters : Gathers Placed.getters Field.getters where
  frame p hrow _ := by rw [Placed.getters_eq, valueCount_frame p.row hrow, List.replicate_zero]
  leaf f r _ hr _ sub := by
    have hheading : Placed.getters (headingOf f.label f.type) = [] := rfl
    rw [hheading, List.nil_append, Field.getters, Catalog.valueCount_of_resolve hr]
    simp only [Placed.getters_eq]
    exact flatMap_replicate Row.valueCount _ r.rows
  composite f r hmem hr hleaf sub := by
    have hrows := (valueCount_composite r hmem).resolve_left (Bool.eq_false_iff.mp hleaf)
    refine ⟨?_, fun row hrow => by rw [Placed.getters_eq, hrows row hrow, List.replicate_zero]⟩
    have hnone : r.valueCount = 0 := by
      rw [Renderer.valueCount, List.map_eq_replicate_iff.mpr hrows]
      exact List.sum_replicate_nat.trans (Nat.mul_zero _)
    rw [Field.getters, Catalog.valueCount_of_resolve hr, hnone, List.replicate_zero]
    rfl

variable {s : Setting}

-- The code of a level of fields, if it is there, is read with the tokens of their rows.
theorem renderLevel_tokens (hunit : ∀ c ∈ s.style.unit, Text.isIndent c = true)
    (hcatalog : s.catalog.Safe) (k : String) (depth : Int) (parent : String) (fs : List Field) :
    (∃ e, (renderLevel s k depth parent fs).text = .error (.indentation e)) ∨
      ∃ code ts, (renderLevel s k depth parent fs).text = .ok code ∧
        Php.scan .code code = some (ts, .code) ∧ Php.gist ts =
          Php.gist ((fieldsRows s.catalog (.nested { groupKey := k } parent) fs).flatMap
            (Placed.tokens s.style)) := by
  obtain ⟨ls, hls, htells⟩ := (lines_set hunit hcatalog).2.1 fs (.nested { groupKey := k } parent) depth
  rcases Trace.text_ok hls s.style.unit with hfail | htext
  · exact .inl hfail
  · obtain ⟨ts, hscan, hts⟩ := htells.exists_scan
    exact .inr ⟨_, ts, htext, hscan, hts⟩

end Snippet

namespace Document

open Php (calls scan)
open Snippet (Accessor Catalog Placed Setting Style Trace fieldsRows getter isGetter renderLevel)

-- The calls in code that read values are those of some fields, in order.
theorem getters_of_gist {ts : List Php.Token} {style : Style} {ps : List Placed}
    (hhas : ∀ p ∈ ps, Catalog.standard.Has p.row)
    (h : Php.gist ts = Php.gist (ps.flatMap (Placed.tokens style))) :
    List.Forall₂ Names ((calls ts).filter (isGetter ·.function)) (ps.flatMap Placed.getters) := by
  have hcalls : (calls ts).map (Php.Call.map Text.settle) =
      (ps.flatMap Placed.reads).map fun read => (callFor read).map Text.settle := by
    rw [← Php.rewords_gist.calls_map, ← Php.gist, h, Php.gist, Php.rewords_gist.calls_map,
      calls_placed style hhas, List.map_map]
    rfl
  have hsame := List.forall₂_eq_eq_eq ▸ hcalls
  have hnames : List.Forall₂ Names (calls ts) (ps.flatMap Placed.reads) :=
    (List.forall₂_map_right_iff.mp (List.forall₂_map_left_iff.mp hsame)).imp fun _ _ => names_of_settled
  have hgetters : ps.flatMap Placed.getters = (ps.flatMap Placed.reads).filter (isGetter ·.1) :=
    List.filter_flatMap.symm
  rw [hgetters]
  have hsame : ∀ {call : Php.Call} {read}, Names call read →
      (isGetter call.function = true ↔ isGetter read.1 = true) := fun hcall => by rw [hcall.function]
  exact List.rel_filter (R := Names) (fun _ _ => hsame) hnames

-- At any nesting a renderer is handed that it reads from rows exactly where the nearest field around
-- that is no clone has a name, with that name and the key of the group. The renderers are called for the
-- fields that are shown, in their order; where there is code all of them are, and the code reads values
-- as they are told. There is code unless it stands too deep for any memory.
theorem renderers_handed_owner {o : Options} {style : Style} (hstyle : Style.ofOptions o = .ok style)
    (k : String) (depth : Int) (fs : List Field) :
    let r := renderLevel ⟨.standard, style⟩ k depth "" fs
    let spots := Field.spotsAll [] fs
    let handed := r.calls.map fun c => (c.field, c.accessor)
    let told := spots.map fun p => (p.field, (⟨p.owner != "", p.owner, k⟩ : Accessor))
    handed <+: told ∧
      ((∃ e, r.text = .error (.indentation e) ∧ (0 ≤ depth → Snippet.TooDeep style depth fs)) ∨
        ∃ code ts, r.text = .ok code ∧ handed = told ∧ scan .code code = some (ts, .code) ∧
          List.Forall₂ Names ((calls ts).filter (isGetter ·.function))
            (spots.flatMap Snippet.Spot.getters)) := by
  intro r spots handed told
  let s : Setting := ⟨.standard, style⟩
  let t : Trace := Snippet.fieldsTrace s (.nested { groupKey := k } "") depth fs
  have hhanded : Snippet.Hands k t spots := (Snippet.fields_handed k style).2.1 fs depth []
  have hfirst : handed <+: told := by
    have hcalls := (t.calls_rendered style.unit).map fun c => (c.field, c.accessor)
    rw [hhanded.calls] at hcalls
    exact hcalls
  refine ⟨hfirst, ?_⟩
  rcases Snippet.renderLevel_tokens (s := s) (Style.isIndent_unit hstyle) Catalog.standard_safe k depth ""
    fs with ⟨e, he⟩ | ⟨code, ts, hcode, hscan, hts⟩
  · exact .inl ⟨e, he, fun hdepth => Snippet.tooDeep_of_refused (s := s) rfl hdepth he⟩
  · have hall : handed = told := (congrArg (List.map _) (Trace.calls_of_text hcode)).trans hhanded.calls
    refine .inr ⟨code, ts, hcode, hall, hscan, ?_⟩
    have hrows : (fieldsRows .standard (.nested { groupKey := k } "") fs).flatMap Placed.getters =
        spots.flatMap Snippet.Spot.getters := (Snippet.gathers_getters.rows k).2.1 fs []
    have hgetters := getters_of_gist ((Snippet.has_of_mem_rows .standard).2.1 fs _) hts
    rw [hrows] at hgetters
    exact hgetters

-- A clone among rows, and in it a group without a name, whose fields are read from the page.
def wovenFields : List Field := [
  ⟨"field_rows", "rows", "Rows", "repeater", [
    ⟨"field_copy", "copy", "Copy", "Clone", [
      ⟨"field_note", "note", "Note", "url", [], [], []⟩,
      ⟨"field_plain", "", "Plain", "group", [
        ⟨"field_tag", "tag", "Tag", "url", [], [], []⟩], [], []⟩], [], []⟩], [], []⟩,
  ⟨"field_body", "body", "Body", "url", [], [], []⟩]

theorem renderers_handed_owner_of_wovenFields : Style.ofOptions {} = .ok .plain ∧
    ∃ code ts, (renderLevel ⟨.standard, .plain⟩ "group_page" 0 "" wovenFields).text = .ok code ∧
      (renderLevel ⟨.standard, .plain⟩ "group_page" 0 "" wovenFields).calls.map (·.accessor) =
        [⟨false, "", "group_page"⟩, ⟨true, "rows", "group_page"⟩, ⟨true, "rows", "group_page"⟩,
          ⟨true, "rows", "group_page"⟩, ⟨false, "", "group_page"⟩, ⟨false, "", "group_page"⟩] ∧
      scan .code code = some (ts, .code) ∧
      List.Forall₂ Names ((calls ts).filter (isGetter ·.function))
        [("get_sub_field".toList, "note"), ("get_field".toList, "tag"), ("get_field".toList, "body")] := by
  have hok : (renderLevel ⟨.standard, .plain⟩ "group_page" 0 "" wovenFields).text.isOk = true := by
    decide +kernel
  have hgetters : (Field.spotsAll [] wovenFields).flatMap Snippet.Spot.getters =
      [("get_sub_field".toList, "note"), ("get_field".toList, "tag"),
        ("get_field".toList, "body")] := by
    decide +kernel
  refine ⟨Style.ofOptions_plain, ?_⟩
  rcases (renderers_handed_owner Style.ofOptions_plain "group_page" 0 wovenFields).2 with
    ⟨e, he, -⟩ | ⟨code, ts, hcode, htold, hscan, hnames⟩
  · rw [he] at hok
    cases hok
  · have haccessors := congrArg (List.map Prod.snd) htold
    rw [List.map_map, List.map_map] at haccessors
    exact ⟨code, ts, hcode, haccessors.trans (by decide), hscan, hgetters ▸ hnames⟩

end Document

end FieldTemplates
