import FieldTemplates.Proofs.Code.Levels
import FieldTemplates.Proofs.Snippet.Standard
import Mathlib.Algebra.GroupWithZero.Nat

namespace FieldTemplates.Php

theorem count_flatMap_of_single {f : Char → List Char} {d : Char}
    (h : ∀ c, (f c).count d = [c].count d) (cs : List Char) : (cs.flatMap f).count d = cs.count d := by
  induction cs with
  | nil => rfl
  | cons c cs ih =>
      rw [List.flatMap_cons, List.count_append, h, ih, ← List.count_append, List.singleton_append]

-- Nothing that is escaped is a space, and nothing that is put in its place has one.
theorem count_space_quoteChar (c : Char) : (quoteChar c).count ' ' = [c].count ' ' := by
  simp only [quoteChar, Bool.or_eq_true, decide_eq_true_eq]
  split_ifs with h
  · rcases h with rfl | rfl <;> decide
  · rfl

theorem count_space_quoted (cs : List Char) : (quoted cs).count ' ' = cs.count ' ' :=
  count_flatMap_of_single count_space_quoteChar cs

theorem count_space_inAttribute (cs : List Char) : (inAttribute cs).count ' ' = cs.count ' ' := by
  refine count_flatMap_of_single (fun c => ?_) cs
  simp only [attributeChar]
  split_ifs with h
  · rw [h]
    decide
  · exact count_space_quoteChar c

end FieldTemplates.Php

namespace FieldTemplates

-- The size of fields: each counts with its name.
def Field.size (fs : List Field) : Nat := (fs.map fun f => f.name.length + 1).sum

theorem Field.size_append (fs gs : List Field) : size (fs ++ gs) = size fs + size gs := by
  rw [Field.size, List.map_append, List.sum_append, size, size]

namespace Snippet

open Code (Line)

def Style.size (style : Style) : Nat :=
  style.textDomain.length + style.imageSize.length + style.gallerySize.length

-- The spaces of code.
def Mark.room : Mark → Nat
  | code cs => cs.count ' '
  | _ => 0

def Mark.isText : Mark → Bool
  | code _ => false
  | _ => true

-- Texts in comments get new spaces, all others keep theirs.
theorem Piece.count_text_le {p : Piece} (hp : p.mark ≠ .inComment) (style : Style) (a : Accessor)
    (subject : Subject) : (p.text style a subject).count ' ' ≤
      p.mark.room + if p.mark.isText then subject.name.length + style.size else 0 := by
  have hname : subject.name.toList.count ' ' ≤ subject.name.length :=
    String.length_toList ▸ List.count_le_length
  have hvalue : (a.value subject.name).count ' ' = subject.name.toList.count ' ' := by
    have hfront : ∀ sub, (accessText sub).count ' ' = 0 := by decide
    have hend : "')".toList.count ' ' = 0 := by decide
    have hsplit : a.value subject.name =
        accessText a.isSubField ++ Php.quoted subject.name.toList ++ "')".toList := rfl
    rw [hsplit, List.count_append, List.count_append, hfront, hend, Php.count_space_quoted]
    omega
  have htextDomain := List.count_le_length (a := ' ') (l := style.textDomain)
  have himageSize := List.count_le_length (a := ' ') (l := style.imageSize)
  have hgallerySize := List.count_le_length (a := ' ') (l := style.gallerySize)
  cases p with
  | code t => exact Nat.le_add_right _ _
  | commentName | commentType => exact absurd rfl hp
  | value =>
      simp only [text, hvalue, mark, Mark.isText, if_true]
      omega
  | literalName | className | bareName | textDomain | imageSize | gallerySize =>
      simp only [text, Php.count_space_quoted, Php.count_space_inAttribute, mark, Mark.isText, if_true,
        Style.size]
      omega

def marksRoom (ms : List Mark) : Nat := (ms.map Mark.room).sum

theorem count_rowText_le {row : Row} (h : .inComment ∉ row.map Piece.mark) (style : Style)
    (a : Accessor) (subject : Subject) : (rowText style a subject row).count ' ' ≤ marksRoom (row.map Piece.mark) +
      (row.map Piece.mark).countP Mark.isText * (subject.name.length + style.size) := by
  induction row with
  | nil => exact Nat.zero_le _
  | cons p row ih =>
      obtain ⟨hp, hrow⟩ := List.ne_and_not_mem_of_not_mem_cons h
      have hfirst := p.count_text_le hp.symm style a subject
      have hrest := ih hrow
      rw [rowText, List.flatMap_cons, List.count_append, List.map_cons, marksRoom, List.map_cons,
        List.sum_cons, List.countP_cons, Nat.add_mul]
      rw [rowText, marksRoom] at hrest
      split_ifs at hfirst ⊢ <;> omega

-- A block without the texts in it.
abbrev Marked := List (Nat × List Mark)

def marked (rows : List (Nat × Row)) : Marked := rows.map fun r => (r.1, r.2.map Piece.mark)

-- The spaces of its code with those of the margins.
def Marked.room (rows : Marked) : Nat := (rows.map fun r => 8 + 4 * r.1 + marksRoom r.2).sum + 8

def Marked.texts (rows : Marked) : Nat := (rows.map fun r => r.2.countP Mark.isText).sum

theorem count_blockText_le {rows : List (Nat × Row)} (h : ∀ r ∈ marked rows, .inComment ∉ r.2)
    (style : Style) (a : Accessor) (subject : Subject) : (blockText style a subject rows).count ' ' ≤
      (marked rows).room + (marked rows).texts * (subject.name.length + style.size) := by
  have hrows : (rows.flatMap fun r => spaces (8 + 4 * r.1) ++ rowText style a subject r.2 ++
      ['\n']).count ' ' + 8 ≤
        (marked rows).room + (marked rows).texts * (subject.name.length + style.size) := by
    induction rows with
    | nil => exact Nat.le_add_right _ _
    | cons r rows ih =>
        obtain ⟨hr, hrows⟩ := List.forall_mem_cons.mp h
        have hfirst := count_rowText_le hr style a subject
        have hrest := ih hrows
        have hspaces : (spaces (8 + 4 * r.1)).count ' ' = 8 + 4 * r.1 := List.count_replicate_self
        have hbreak : ['\n'].count ' ' = 0 := by decide
        rw [List.flatMap_cons, List.count_append, List.count_append, List.count_append, hspaces, hbreak,
          marked, List.map_cons, Marked.room, Marked.texts, List.map_cons, List.map_cons, List.sum_cons,
          List.sum_cons, Nat.add_mul]
        rw [marked, Marked.room, Marked.texts] at hrest
        dsimp only
        omega
  have hmargin : (spaces 8).count ' ' = 8 := by decide
  have hbreak : (if '\n' == ' ' then 1 else 0) = 0 := by decide
  rw [blockText, List.cons_append, List.count_cons, hbreak, List.count_append, hmargin]
  exact hrows

-- A block with little code, and with no text that gets new spaces.
def Marked.isClose (rows : Marked) : Bool :=
  rows.all (·.2.all (· ≠ .inComment)) && rows.room ≤ 600 && rows.texts ≤ 4

def Step.marked? : Step → Option Marked
  | block rows => some (marked rows)
  | line .. | children _ | splice | branches => none

-- How far below its field a step goes itself.
def Step.offset : Step → Nat
  | line offset _ | children offset => offset
  | block _ | splice | branches => 0

theorem standard_offset : ∀ r ∈ standardPlans, ∀ step ∈ r.steps, step.offset ≤ 4 := by
  decide

open Renderer in
set_option maxRecDepth 20000 in
-- The kernel is slow at taking literals of text apart, so they are spelled out first.
theorem standard_close : ∀ r ∈ standardPlans,
    (r.steps.filterMap Step.marked?).all Marked.isClose = true := by
  simp only [standardPlans, standardRenderers, List.map, List.forall_mem_cons, unsupported, text, url,
    password, image, file, wysiwyg, oembed, gallery, select, checkbox, buttonGroup, trueFalse, link,
    postObject, pageLink, relationship, taxonomy, user, googleMap, datePicker, dateTimePicker,
    timePicker, colorPicker, repeater, flexibleContent, group, clone, uiOnly]
  simp only [paragraph, assigned, richContent, moment, figure, guarded, either, each, listed, listedAs,
    row, fixed, deeper, rowsGuard, rowsLoop, rowsEnd, Step.marked?, marked, Piece.mark, List.map,
    List.filterMap_cons, List.filterMap_nil, List.cons_append, List.nil_append]
  simp (disch := rfl) only [toList_of_eq]
  decide

-- Lines that stand no further out than the margin and no deeper than a limit, if there are any.
def Within (limit : Int) (lines : Except CatalogError (List Line)) : Prop :=
  ∀ ls, lines = .ok ls → ∀ l ∈ ls, 0 ≤ l.level ∧ l.level ≤ limit

theorem Within.mono {limit wider : Int} {lines : Except CatalogError (List Line)}
    (h : Within limit lines) (hle : limit ≤ wider) : Within wider lines := by
  intro ls hls l hl
  obtain ⟨hlow, hhigh⟩ := h ls hls l hl
  exact ⟨hlow, Int.le_trans hhigh hle⟩

theorem Within.append {limit : Int} {first rest : Except CatalogError (List Line)}
    (hfirst : Within limit first) (hrest : Within limit rest) :
    Within limit (joined first rest) := by
  intro ls hls l hl
  obtain ⟨front, back, hfront, hback, rfl⟩ := joined_eq_ok_iff.mp hls
  rcases List.mem_append.mp hl with hl | hl
  · exact hfirst front hfront l hl
  · exact hrest back hback l hl

theorem within_of_lines {limit : Int} {ls : List Line}
    (h : ∀ l ∈ ls, 0 ≤ l.level ∧ l.level ≤ limit) : Within limit (.ok ls) := by
  intro ls hls
  cases hls
  exact h

theorem steps_within {limit : Int} {f : Step → Except CatalogError (List Line)} {steps : List Step}
    (h : ∀ step ∈ steps, Within limit (f step)) : Within limit (stepsLines f steps) :=
  steps_closed (P := fun lines (_ : List Unit) => Within limit lines)
    (within_of_lines fun _ hl => absurd hl List.not_mem_nil) Within.append (g := fun _ => []) h

variable {s : Setting}

-- The lines of a block stand as deep as its code and its texts have spaces, four to a level.
theorem block_within {r : Renderer} (hr : r ∈ standardPlans) {rows : List (Nat × Row)}
    (hrows : .block rows ∈ r.steps) (a : Accessor) (subject : Subject) {depth : Int}
    (hdepth : 0 ≤ depth) :
    Within (depth + (subject.name.length + s.style.size + 150 : Nat))
      (.ok (Code.block depth (blockText s.style a subject rows))) := by
  have hmem : marked rows ∈ r.steps.filterMap Step.marked? := List.mem_filterMap.mpr ⟨_, hrows, rfl⟩
  have hclose := List.all_eq_true.mp (standard_close r hr) _ hmem
  simp only [Marked.isClose, Bool.and_eq_true, decide_eq_true_eq, List.all_eq_true] at hclose
  obtain ⟨⟨htight, hroom⟩, htexts⟩ := hclose
  have hcount := count_blockText_le (fun r hr hmem => htight r hr _ hmem rfl) s.style a subject
  have htexts := Nat.mul_le_mul_right (subject.name.length + s.style.size) htexts
  refine within_of_lines fun l hl => ?_
  obtain ⟨hlow, hhigh⟩ := Code.block_level hl
  omega

-- Each field takes the lines below it four levels deeper at most, and its own lines as far as its name
-- and the style are long.
theorem lines_within (hcatalog : s.catalog = .standard) :
    (∀ f a depth, 0 ≤ depth →
        Within (depth + (4 * Field.size f.flatten + s.style.size + 150 : Nat))
          (fieldLines s a depth f)) ∧
      (∀ fs a depth, 0 ≤ depth →
        Within (depth + (4 * Field.size (Field.flattenAll fs) + s.style.size + 150 : Nat))
          (fieldsLines s a depth fs)) ∧
      (∀ ls a depth first, 0 ≤ depth →
        Within (depth + (4 * Field.size (Field.flattenLayouts ls) + s.style.size + 154 : Nat))
          (branchLines s a depth first ls)) := by
  refine Field.tree_induction ?_ ?_ ?_ ?_ ?_
  · intro key name label type subFields layouts extra hsub hlayouts a depth hdepth
    obtain ⟨r, hmem, hr⟩ := Catalog.standard_resolve type
    rw [← hcatalog] at hr
    have hsize : Field.size (Field.flatten ⟨key, name, label, type, subFields, layouts, extra⟩) =
        name.length + 1 + (Field.size (Field.flattenAll subFields) +
          Field.size (Field.flattenLayouts layouts)) := by
      rw [Field.flatten, Field.size, List.map_cons, List.sum_cons, ← Field.size_append]
      rfl
    let limit := depth + (4 * Field.size (Field.flatten ⟨key, name, label, type, subFields, layouts,
      extra⟩) + s.style.size + 150 : Nat)
    have hsteps : ∀ step ∈ r.steps,
        Within limit (stepLines s a depth name type subFields layouts step) := by
      intro step hstep
      have hoffset := standard_offset r hmem step hstep
      cases step with
      | line offset row =>
          refine within_of_lines fun l hl => ?_
          have hoffset : offset ≤ 4 := hoffset
          rw [List.mem_singleton.mp hl]
          simp only [rowLine]
          omega
      | block rows =>
          exact (block_within hmem hstep a ⟨name, type⟩ hdepth).mono (by simp only; omega)
      | children offset =>
          have hoffset : offset ≤ 4 := hoffset
          exact (hsub (a.nested name) (depth + offset) (by omega)).mono (by omega)
      | splice => exact (hsub (a.nested a.enclosing) depth hdepth).mono (by omega)
      | branches =>
          have hend : Within limit (.ok (branchesEnd depth layouts)) := by
            refine within_of_lines fun l hl => ?_
            simp only [branchesEnd] at hl
            split at hl
            · cases hl
            · rw [List.mem_singleton.mp hl]
              simp only
              omega
          exact ((hlayouts (a.nested name) depth true hdepth).mono (by omega)).append hend
    have hheading : Within limit (.ok [heading depth label type]) := within_of_lines fun l hl => by
      rw [List.mem_singleton.mp hl]
      simp only [heading]
      omega
    have hblank : Within limit (.ok [Code.blank]) := within_of_lines fun l hl => by
      rw [List.mem_singleton.mp hl]
      simp only [Code.blank]
      omega
    have hall := (hheading.append (steps_within hsteps)).append hblank
    rw [fieldLines_of_resolve hr]
    exact hall
  · intro a depth hdepth ls hls l hl
    cases hls
    cases hl
  · intro f fs hf hfs a depth hdepth
    rw [fieldsLines_cons, Field.flattenAll, Field.size_append]
    exact ((hf a depth hdepth).mono (by omega)).append ((hfs a depth hdepth).mono (by omega))
  · intro a depth first hdepth ls hls l hl
    cases hls
    cases hl
  · intro key name label subFields extra ls hsub hlayouts a depth first hdepth
    let limit := depth + (4 * Field.size (Field.flattenAll subFields ++ Field.flattenLayouts ls) +
      s.style.size + 154 : Nat)
    have hsize := Field.size_append (Field.flattenAll subFields) (Field.flattenLayouts ls)
    have hopening : Within limit (.ok (branchOpening first depth name)) := by
      refine within_of_lines fun l hl => ?_
      simp only [branchOpening, List.mem_cons, List.not_mem_nil, or_false] at hl
      rcases hl with rfl | rfl <;> simp only <;> omega
    have hclosing : Within limit (.ok (branchClosing depth)) := within_of_lines fun l hl => by
      rw [List.mem_singleton.mp hl]
      simp only
      omega
    have hinside : Within limit (fieldsLines s a (depth + 4) subFields) :=
      (hsub a (depth + 4) (by omega)).mono (by omega)
    have hrest : Within limit (branchLines s a depth false ls) :=
      (hlayouts a depth false hdepth).mono (by omega)
    have hall := ((hopening.append hinside).append hclosing).append hrest
    rw [branchLines_cons, Field.flattenLayouts]
    exact hall

-- More indentation than memory holds: the code is deep, or names, settings or the unit are long.
def TooDeep (style : Style) (depth : Int) (fs : List Field) : Prop :=
  Text.maxLength < (style.unit.length + 1) *
    (depth + (4 * Field.size (Field.flattenAll fs) + style.size + 150 : Nat))

theorem tooDeep_of_refused (hcatalog : s.catalog = .standard) {a : Accessor} {depth : Int}
    (hdepth : 0 ≤ depth) {fs : List Field} {e : Text.RepeatError}
    (h : ((fieldsTrace s a depth fs).rendered s.style.unit).text = .error (.indentation e)) :
    TooDeep s.style depth fs := by
  have htotal : ∀ type, ∃ r, s.catalog.resolve type = .ok r := fun type =>
    hcatalog ▸ (Catalog.standard_resolve type).imp fun r hr => hr.2
  obtain ⟨ls, hlines⟩ := (exists_lines htotal).2.1 fs a depth
  cases htext : Code.text? s.style.unit ls with
  | ok code =>
      rw [Trace.text_of_lines hlines, htext] at h
      cases h
  | error d =>
      obtain ⟨l, hl, hrefused⟩ := Code.error_of_text? htext
      obtain ⟨hlow, hhigh⟩ := (lines_within hcatalog).2.1 fs a depth hdepth ls hlines l hl
      have hroom := Code.level_of_error hlow hrefused
      exact Int.lt_of_lt_of_le hroom (Int.mul_le_mul_of_nonneg_left hhigh (by omega))

-- At the margin fields whose text is refused are of enormous size, or the style is.
theorem size_of_refused (hcatalog : s.catalog = .standard) (hunit : s.style.unit.length ≤ 16)
    {a : Accessor} {fs : List Field} {e : Text.RepeatError}
    (h : ((fieldsTrace s a 0 fs).rendered s.style.unit).text = .error (.indentation e)) :
    2 ^ 26 ≤ Field.size (Field.flattenAll fs) + s.style.size := by
  have hdeep := tooDeep_of_refused hcatalog (Int.le_refl 0) h
  have hlength : Text.maxLength = 0x1FFFFFFFF := rfl
  let size := 4 * Field.size (Field.flattenAll fs) + s.style.size + 150
  have hunits : ((s.style.unit.length : Int) + 1) * (0 + size) ≤ 17 * (0 + size) :=
    Int.mul_le_mul_of_nonneg_right (by omega) (by omega)
  have hroom : (Text.maxLength : Int) < 17 * (0 + size) := Int.lt_of_lt_of_le hdeep hunits
  omega

end Snippet

end FieldTemplates
