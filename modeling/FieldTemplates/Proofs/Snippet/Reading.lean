import FieldTemplates.Proofs.Php.Parts
import FieldTemplates.Proofs.Snippet.Signs
import FieldTemplates.Proofs.Snippet.Types

namespace FieldTemplates.Snippet

open Php (Call Token calls comments isSign remarks scan)

-- A row with its code taken apart.
def Piece.spell : Piece → List Char ⊕ Piece
  | code t => .inl t.toList
  | p => .inr p

def Row.spell (row : Row) : List (List Char ⊕ Piece) := row.map Piece.spell

def spelledText (sub : Bool) (spelled : List (List Char ⊕ Piece)) : List Char :=
  spelled.flatMap (Sum.elim id (Piece.signed sub))

theorem spelledText_spell (sub : Bool) (row : Row) :
    spelledText sub row.spell = signedText sub row := by
  rw [spelledText, Row.spell, List.flatMap_map]
  exact List.flatMap_congr fun p _ => by cases p <;> rfl

-- The functions that are called with the name, in order.
def spelledReaders (sub : Bool) : List (List Char ⊕ Piece) → List (List Char)
  | [] => []
  | .inr .value :: xs =>
    (if sub then "get_sub_field" else "get_field").toList :: spelledReaders sub xs
  | .inl cs :: .inr .literalName :: xs =>
    (if cs = "get_row_layout() == '".toList then Php.layoutReader else "have_rows".toList) ::
      spelledReaders sub xs
  | _ :: xs => spelledReaders sub xs

def Row.readers (sub : Bool) (row : Row) : List (List Char) := spelledReaders sub row.spell

-- One line, with no texts but those made harmless for comments.
def isRemark (w : List Char) : Bool := w.all fun c =>
  c != '\n' && (!isSign c || c == Slot.commentName.sign || c == Slot.commentType.sign)

-- How comments of renderers start: with a word of their own, with that of the fallback, or with the
-- type and a space.
def opens (fallback free : Bool) : List Char → Bool
  | ' ' :: c :: w => c == 'P' || c == 'N' || c == 'C' || (fallback && c == 'U') ||
    (free && c == Slot.commentType.sign && w.head? == some ' ')
  | _ => false

def spelledFits (check : List Char → Bool) (spelled : List (List Char ⊕ Piece)) : Bool :=
  spelled.all (Sum.elim (·.all (!isSign ·)) fun _ => true) &&
    [false, true].all fun sub =>
      match scan .code (spelledText sub spelled ++ ['\n']) with
      | none => false
      | some (ts, _) =>
        calls ts = (spelledReaders sub spelled).map (fun f => ⟨f, some [Slot.name.sign]⟩) &&
          ((remarks ts).isEmpty && (comments ts).all fun w => isRemark w && check w)

-- What is known of a row by its signs alone.
structure Row.Fits (check : List Char → Bool) (row : Row) : Prop where
  plain : row.all Piece.isPlain = true
  calls : ∀ sub, calls (signedTokens sub row) =
    (row.readers sub).map fun f => ⟨f, some [Slot.name.sign]⟩
  remarks : ∀ sub, remarks (signedTokens sub row) = []
  comments : ∀ sub, ∀ w ∈ comments (signedTokens sub row), isRemark w = true ∧ check w = true

theorem Row.fits_of_spelled {check : List Char → Bool} {row : Row}
    (h : spelledFits check row.spell = true) : row.Fits check := by
  simp only [spelledFits, Bool.and_eq_true, List.all_eq_true (l := [false, true])] at h
  obtain ⟨hplain, hsub⟩ := h
  have hread : ∀ sub, calls (signedTokens sub row) =
      (row.readers sub).map (fun f => ⟨f, some [Slot.name.sign]⟩) ∧
      remarks (signedTokens sub row) = [] ∧ ∀ w ∈ comments (signedTokens sub row), isRemark w = true ∧ check w = true := by
    intro sub
    have hone := hsub sub (by cases sub <;> simp)
    rw [spelledText_spell] at hone
    simp only [signedTokens]
    split at hone
    · cases hone
    · rename_i ts s hscan
      simpa [hscan, Row.readers] using hone
  refine ⟨?_, fun sub => (hread sub).1, fun sub => (hread sub).2.1, fun sub => (hread sub).2.2⟩
  rw [Row.spell, List.all_map] at hplain
  rw [← hplain]
  exact List.all_congr rfl fun p => by cases p <;> rfl

open Renderer in
set_option maxRecDepth 20000 in
-- The kernel is slow at taking literals of text apart, so they are spelled out first.
theorem standard_fits : ∀ r ∈ standardPlans, (r.rows.map Row.spell).all
    (spelledFits (opens (r.name == "render_unsupported") (r.name == "render_ui_only"))) = true := by
  simp only [standardPlans, standardRenderers, List.map, List.forall_mem_cons, unsupported, text, url,
    password, image, file, wysiwyg, oembed, gallery, select, checkbox, buttonGroup, trueFalse, link,
    postObject, pageLink, relationship, taxonomy, user, googleMap, datePicker, dateTimePicker,
    timePicker, colorPicker, repeater, flexibleContent, group, clone, uiOnly, String.reduceBEq]
  simp only [paragraph, assigned, richContent, moment, figure, Renderer.guarded, either, each, listed,
    listedAs, row, fixed, deeper, rowsGuard, rowsLoop, rowsEnd, rows, Step.rows, Row.spell, Piece.spell,
    List.map, List.flatMap_cons, List.flatMap_nil, List.cons_append, List.nil_append, List.append_nil]
  simp (disch := rfl) only [toList_of_eq]
  decide +kernel

theorem Row.Fits.imp {check other : List Char → Bool} {row : Row} (h : row.Fits check)
    (himp : ∀ w, check w = true → other w = true) : row.Fits other :=
  ⟨h.plain, h.calls, h.remarks, fun sub w hw => (h.comments sub w hw).imp_right (himp w)⟩

theorem frameRows_fit : ∀ row ∈ frameRows, row.Fits fun _ => true := by
  have hall : ∀ row ∈ frameRows, spelledFits (fun _ => true) row.spell = true := by decide +kernel
  exact fun row hrow => Row.fits_of_spelled (hall row hrow)

theorem Renderer.fits_row {r : Renderer} (hr : r ∈ standardPlans) {row : Row} (hrow : row ∈ r.rows) :
    row.Fits (opens (r.name == "render_unsupported") (r.name == "render_ui_only")) := by
  have hall := List.all_eq_true.mp (standard_fits r hr)
  exact Row.fits_of_spelled (hall _ (List.mem_map_of_mem hrow))

theorem Catalog.standard_fits {row : Row} (h : Catalog.standard.Has row) : row.Fits fun _ => true := by
  rcases h with h | ⟨type, r, hr, hrow⟩
  · exact frameRows_fit row h
  · obtain ⟨q, hq, hres⟩ := standard_resolve type
    obtain rfl : r = q := Except.ok.inj (hr.symm.trans hres)
    exact (Renderer.fits_row hq hrow).imp fun _ _ => rfl

section

variable (style : Style) {p : Placed} (h : Catalog.standard.Has p.row)
include h

theorem Placed.tokens_eq : p.tokens style =
    (signedTokens p.sub p.row).map (Token.fill (Slot.meant style p.subject)) :=
  rowTokens_eq (Catalog.standard_safe.isSafe h) (Catalog.standard_fits h).plain

-- Each call in a row names the subject of the row.
theorem Placed.calls_tokens : calls (p.tokens style) =
    (p.row.readers p.sub).map fun f => ⟨f, some p.subject.name.toList⟩ := by
  have hname : [Slot.name.sign].flatMap (Slot.meant style p.subject) = p.subject.name.toList := by
    rw [List.flatMap_singleton, Slot.meant_sign, Slot.text]
  rw [tokens_eq style h, (Php.rewords_fill _).calls_map, (Catalog.standard_fits h).calls, List.map_map]
  refine List.map_congr_left fun f _ => ?_
  simp only [Function.comp_apply, Call.map, Option.map_some, hname]

theorem Placed.comments_tokens : comments (p.tokens style) =
    (comments (signedTokens p.sub p.row)).map (·.flatMap (Slot.meant style p.subject)) := by
  rw [tokens_eq style h, (Php.rewords_fill _).comments_map]

theorem Placed.remarks_tokens : remarks (p.tokens style) = [] := by
  rw [tokens_eq style h, (Php.rewords_fill _).remarks_map_eq_nil]
  exact (Catalog.standard_fits h).remarks _

-- Comments are lines.
theorem Placed.newline_notMem_comments : ∀ w ∈ comments (p.tokens style), '\n' ∉ w := by
  intro w hw hmem
  rw [comments_tokens style h] at hw
  obtain ⟨v, hv, rfl⟩ := List.mem_map.mp hw
  obtain ⟨c, hc, hmem⟩ := List.mem_flatMap.mp hmem
  have hremark := List.all_eq_true.mp ((Catalog.standard_fits h).comments _ v hv).1 c hc
  simp only [Bool.and_eq_true, bne_iff_ne, Bool.or_eq_true, Bool.not_eq_true', beq_iff_eq] at hremark
  obtain ⟨hne, (hplain | rfl) | rfl⟩ := hremark
  · rw [Slot.meant_plain style p.subject hplain] at hmem
    exact hne (List.mem_singleton.mp hmem).symm
  · rw [Slot.meant_sign] at hmem
    exact absurd (Php.comment_unbroken _ _ hmem) (by decide)
  · rw [Slot.meant_sign] at hmem
    exact absurd (Php.comment_unbroken _ _ hmem) (by decide)

end

end FieldTemplates.Snippet
