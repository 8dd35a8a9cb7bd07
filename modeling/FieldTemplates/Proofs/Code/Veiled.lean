import FieldTemplates.Proofs.Code.Block
import FieldTemplates.Proofs.Php.Comment
import FieldTemplates.Proofs.Php.Stripped
import FieldTemplates.Proofs.Text.Trim

namespace FieldTemplates.Code

open Php (Reads State Tells Token codeRows)
open Text (ended isIndent)

-- A row of nothing but comments, which stays as it is when blanks are taken from line ends.
structure IsRemark (row : List Char) : Prop where
  reads : Reads .code (row ++ ['\n']) [] .code
  ne_nil : row ≠ []
  unbroken : '\n' ∉ row
  trimRight_eq : Text.trimRight row = row

theorem IsRemark.codeRows {row : List Char} (h : IsRemark row) (rows : List (List Char)) :
    Php.codeRows .code (row :: rows) = Php.codeRows .code rows := by
  obtain ⟨ts, t, hscan, hts, hbare⟩ := h.reads.exists_scan
  obtain rfl := State.eq_code_of_bare hbare
  exact Php.codeRows_of_outline_nil hscan hts rows

inductive Veiled : List (List Char) → List (List Char) → Prop
  | nil : Veiled [] []
  | code {rows more more' : List (List Char)} {ts : List Token} (h : Tells .code (ended rows) ts .code)
      (hmore : Veiled more more') : Veiled (rows ++ more) (rows ++ more')
  | remark {row row' : List Char} {more more' : List (List Char)} (h : IsRemark row)
      (h' : IsRemark row') (hmore : Veiled more more') : Veiled (row :: more) (row' :: more')

namespace Veiled

variable {rows rows' more more' : List (List Char)}

theorem same {ts : List Token} (h : Tells .code (ended rows) ts .code) : Veiled rows rows := by
  have hall := code h nil
  rwa [List.append_nil] at hall

theorem blank : Veiled [[]] [[]] := same (show Tells .code (ended [[]]) [] .code by decide)

theorem append (h : Veiled rows rows') (hmore : Veiled more more') :
    Veiled (rows ++ more) (rows' ++ more') := by
  induction h with
  | nil => exact hmore
  | code h _ ih =>
      rw [List.append_assoc, List.append_assoc]
      exact code h ih
  | remark h h' _ ih => exact remark h h' ih

-- The lines of the rows differ in the same way.
theorem lines (h : Veiled rows rows') :
    Veiled (rows.flatMap Text.lines) (rows'.flatMap Text.lines) := by
  have hended : ∀ rows : List (List Char), ended (rows.flatMap Text.lines) = ended rows := by
    intro rows
    rw [ended, List.flatMap_assoc]
    exact congrArg (rows.flatMap ·) (funext Text.ended_lines)
  induction h with
  | nil => exact nil
  | @code rows more more' ts h _ ih =>
      rw [List.flatMap_append, List.flatMap_append]
      exact code (by rwa [hended]) ih
  | remark h h' _ ih =>
      rw [List.flatMap_cons, List.flatMap_cons, Text.lines_of_no_newline h.unbroken,
        Text.lines_of_no_newline h'.unbroken]
      exact remark h h' ih

theorem codeRows (h : Veiled rows rows') : ∃ kept, Php.codeRows .code rows = some (kept, .code) ∧
    Php.codeRows .code rows' = some (kept, .code) := by
  induction h with
  | nil => exact ⟨[], rfl, rfl⟩
  | code h _ ih =>
      obtain ⟨us, hscan, -⟩ := h.exists_scan
      obtain ⟨front, hfront⟩ := Php.codeRows_of_scan hscan
      obtain ⟨kept, hkept, hkept'⟩ := ih
      refine ⟨front ++ kept, ?_, ?_⟩
      · rw [Php.codeRows_append, hfront, Option.bind_some, hkept, Option.map_some]
      · rw [Php.codeRows_append, hfront, Option.bind_some, hkept', Option.map_some]
  | remark h h' _ ih =>
      rw [h.codeRows, h'.codeRows]
      exact ih

end Veiled

theorem scan_indent {w : List Char} (hw : ∀ c ∈ w, isIndent c = true) (cs : List Char) :
    Php.scan .code (w ++ cs) = Php.scan .code cs := by
  induction w with
  | nil => rfl
  | cons c w ih =>
      obtain ⟨hc, hw⟩ := List.forall_mem_cons.mp hw
      have hstep : Php.step .code c = some ([], .code) := by
        simp only [isIndent, Bool.or_eq_true, beq_iff_eq] at hc
        rcases hc with rfl | rfl <;> rfl
      rw [List.cons_append, Php.scan_of_step hstep, ih hw]

-- A line of nothing but comments, with its indentation.
theorem Line.isRemark {unit : List Char} (hunit : ∀ c ∈ unit, isIndent c = true) {l : Line}
    {cs : List Char} (hend : l.content = cs ++ ['/']) (hbreak : '\n' ∉ l.content)
    (h : Reads .code (l.content ++ ['\n']) [] .code) : IsRemark (l.row unit) := by
  have hindent : ∀ c ∈ indent unit l.level, isIndent c = true := fun c hc => hunit c (mem_indent hc)
  have hrow : l.row unit = indent unit l.level ++ l.content := by
    have hempty : l.content.isEmpty = false := by
      rw [hend]
      simp
    simp only [Line.row, hempty]
    rfl
  refine ⟨?_, ?_, ?_, ?_⟩
  · rw [hrow, List.append_assoc]
    exact (Php.outlineView.read_of_scan (scan_indent hindent _)).trans h
  · rw [hrow, hend]
    simp
  · rw [hrow, List.mem_append, not_or]
    exact ⟨fun hmem => absurd (hindent _ hmem) (by decide), hbreak⟩
  · rw [hrow, hend, ← List.append_assoc]
    exact Text.trimRight_concat (by decide) _

theorem Line.error?_of_isRemark {unit : List Char} {l : Line} (h : IsRemark (l.row unit)) :
    l.error? unit = Text.repeatError? unit.length l.level := by
  cases hcontent : l.content.isEmpty with
  | true =>
      have hrow : l.row unit = [] := by simp only [Line.row, hcontent, if_true]
      exact absurd hrow h.ne_nil
  | false => simp only [Line.error?, hcontent, Bool.false_eq_true, if_false]

end FieldTemplates.Code
