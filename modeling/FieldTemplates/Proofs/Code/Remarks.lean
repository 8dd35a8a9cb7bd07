import FieldTemplates.Proofs.Code.Block
import FieldTemplates.Proofs.Php.Comment
import FieldTemplates.Proofs.Text.Fence

namespace FieldTemplates

namespace Php

-- Put together, two texts in which `b` never follows `a` are one if the second does not start with
-- `b`.
theorem Apart.append {a b : Char} {cs ds : List Char} (hcs : Apart a b cs) (hds : Apart a b ds)
    (hstart : ds.head? ≠ some b) : Apart a b (cs ++ ds) := by
  refine List.isChain_append.mpr ⟨hcs, hds, fun c _ d hd => ?_⟩
  rintro ⟨-, rfl⟩
  exact hstart hd

theorem Apart.behind {a b : Char} {cs ds : List Char} (hcs : Apart a b cs) (hds : Apart a b ds)
    (hend : cs.getLast? ≠ some a) : Apart a b (cs ++ ds) := by
  refine List.isChain_append.mpr ⟨hcs, hds, fun c hc d _ => ?_⟩
  rintro ⟨rfl, -⟩
  exact hend hc

-- A text made harmless does not help to end a comment early.
theorem apart_comment (text : List Char) {front back : List Char} (hfront : '*' ∉ front)
    (hback : Apart '*' '/' back) (hstart : back.head? ≠ some '/') :
    Apart '*' '/' (front ++ (comment text ++ back)) :=
  (apart_of_notMem hfront).behind ((comment_apart_star text).append hback hstart) fun hlast =>
    hfront (List.mem_of_getLast? hlast)

end Php

namespace Code

open Text (isBlank isIndent)

def commentEnd : List Char := ['*', '/']

-- A row with a block comment and nothing else but blanks: the comment that opens it ends it.
def isCommentRow (row : List Char) : Bool :=
  match Text.trim row with
  | '/' :: '*' :: cs => (Text.breakOn commentEnd cs).any (·.2.isEmpty)
  | _ => false

def isCodeRow (row : List Char) : Bool := !row.all isBlank && !isCommentRow row

-- The rows of a text that are not passed over.
def codeLines (cs : List Char) : List (List Char) := (Text.lines cs).filter isCodeRow

theorem isBlank_of_isIndent {c : Char} (hc : isIndent c = true) : isBlank c = true := by
  simp only [isIndent, Bool.or_eq_true, beq_iff_eq] at hc
  rcases hc with rfl | rfl <;> decide

theorem isCommentRow_of_apart {w inside : List Char} (hw : ∀ c ∈ w, isIndent c = true)
    (h : Php.Apart '*' '/' inside) : isCommentRow (w ++ '/' :: '*' :: (inside ++ commentEnd)) = true := by
  have hunbordered : Text.Unbordered commentEnd := by decide
  have hbreak := Text.breakOn_first hunbordered h.not_infix []
  have htrim : Text.trim (w ++ '/' :: '*' :: (inside ++ commentEnd)) =
      '/' :: '*' :: (inside ++ commentEnd) := by
    have hfront : Text.trimLeft w = [] :=
      List.dropWhile_eq_nil_iff.mpr fun c hc => isBlank_of_isIndent (hw c hc)
    have hsplit : '*' :: (inside ++ commentEnd) = ('*' :: (inside ++ ['*'])) ++ '/' :: [] := by
      simp [commentEnd]
    have hall := Text.trim_between (c := '/') (d := '/') (by decide) (by decide) w
      ('*' :: (inside ++ ['*'])) []
    rw [hsplit, hall, hfront]
    rfl
  rw [List.append_nil] at hbreak
  rw [isCommentRow, htrim]
  simp only [hbreak]
  rfl

section

variable (unit : List Char)

-- What a line adds to the rows that matter.
def Line.codeRows (l : Line) : List (List Char) := (Text.lines (l.row unit)).filter isCodeRow

theorem codeLines_text (ls : List Line) :
    codeLines (text unit ls) = ls.flatMap (Line.codeRows unit) := by
  have hlast : [[]].filter isCodeRow = [] := rfl
  rw [codeLines, text_eq_ended, Text.lines_ended, List.filter_append, hlast, List.append_nil,
    List.filter_flatMap, List.flatMap_map]
  rfl

theorem codeRows_blank : blank.codeRows unit = [] := rfl

end

theorem codeRows_comment {unit : List Char} (hunit : ∀ c ∈ unit, isIndent c = true) {inside : List Char}
    (hbreak : '\n' ∉ inside) (h : Php.Apart '*' '/' inside) (level : Int) :
    Line.codeRows unit ⟨level, '/' :: '*' :: (inside ++ commentEnd)⟩ = [] := by
  have hindent : ∀ c ∈ indent unit level, isIndent c = true := fun c hc => hunit c (mem_indent hc)
  have hrow : Line.row unit ⟨level, '/' :: '*' :: (inside ++ commentEnd)⟩ =
      indent unit level ++ '/' :: '*' :: (inside ++ commentEnd) := rfl
  have hone : '\n' ∉ indent unit level ++ '/' :: '*' :: (inside ++ commentEnd) := by
    have hfront : '\n' ∉ indent unit level := fun hmem => absurd (hindent _ hmem) (by decide)
    simp [hfront, hbreak, commentEnd]
  rw [Line.codeRows, hrow, Text.lines_of_no_newline hone, List.filter_singleton, isCodeRow,
    isCommentRow_of_apart hindent h]
  simp

end Code

end FieldTemplates
