import FieldTemplates.Document.Tidy
import FieldTemplates.Proofs.Php.Layout
import FieldTemplates.Proofs.Text.Rows
import FieldTemplates.Proofs.Text.Trim
import Mathlib.Data.List.TakeWhile

namespace FieldTemplates.Document

open Php (State Tells Token View)
open Text (ended)

def isBlankLine (line : List Char) : Bool := line.all Text.isBlank

theorem isEmpty_trimRight (l : List Char) : (Text.trimRight l).isEmpty = isBlankLine l := by
  rw [Bool.eq_iff_iff, List.isEmpty_iff, Text.trimRight_eq_nil_iff, isBlankLine, List.all_eq_true]

theorem squeeze_text (blanks : Nat) {l : List Char} (hl : isBlankLine l = false)
    (ls : List (List Char)) : squeeze blanks (l :: ls) = Text.trimRight l :: squeeze 0 ls := by
  rw [squeeze, isEmpty_trimRight, hl]
  rfl

theorem squeeze_blank (blanks : Nat) {l : List Char} (hl : isBlankLine l = true)
    (ls : List (List Char)) : squeeze blanks (l :: ls) =
      if blanks < 2 then [] :: squeeze (blanks + 1) ls else squeeze (blanks + 1) ls := by
  rw [squeeze, isEmpty_trimRight, hl]
  rfl

theorem trimRight_split (row : List Char) :
    ∃ w, row = Text.trimRight row ++ w ∧ ∀ c ∈ w, Text.isBlank c = true := by
  refine ⟨(row.reverse.takeWhile Text.isBlank).reverse, ?_, ?_⟩
  · rw [Text.trimRight, ← List.reverse_append, List.takeWhile_append_dropWhile,
      List.reverse_reverse]
  · intro c hc
    exact List.mem_takeWhile_imp (List.mem_reverse.mp hc)

theorem tells_trimRight {s t : State} {row : List Char} {ts : List Token}
    (h : Tells s (row ++ ['\n']) ts t) : Tells s (Text.trimRight row ++ ['\n']) ts t := by
  obtain ⟨w, hrow, hw⟩ := trimRight_split row
  rw [hrow] at h
  exact Tells.trim_row hw h

-- A blank row is only dropped behind another row, where a line end changes nothing.
theorem tells_squeeze {s t : State} {blanks : Nat} (hs : blanks = 0 ∨ s.Fresh)
    {rows : List (List Char)} {ts : List Token} (h : Tells s (ended rows) ts t) :
    Tells s (ended (squeeze blanks rows)) ts t := by
  induction rows generalizing s blanks ts with
  | nil => exact h
  | cons row rows ih =>
      obtain ⟨us, m, vs, hrow, hrest, rfl⟩ := View.reads_append_iff.mp h
      have hm : m.Fresh := Tells.fresh hrow
      have hkept := tells_trimRight hrow
      simp only [squeeze]
      split_ifs with hempty hblanks
      · rw [List.isEmpty_iff.mp hempty] at hkept
        exact hkept.append (ih (.inr hm) hrest)
      · have hfresh : s.Fresh := hs.resolve_left (by omega)
        rw [List.isEmpty_iff.mp hempty] at hkept
        have hboth := hkept.append hrest
        rw [View.Reads, List.append_assoc, List.nil_append, List.singleton_append,
          Php.tell_space hfresh rfl] at hboth
        exact ih (.inr hfresh) hboth
      · exact hkept.append (ih (.inl rfl) hrest)

-- Rows hand on nothing but a count of blank rows.
theorem squeeze_append (blanks : Nat) (rows : List (List Char)) :
    ∃ after, ∀ more, squeeze blanks (rows ++ more) = squeeze blanks rows ++ squeeze after more := by
  induction rows generalizing blanks with
  | nil => exact ⟨blanks, fun more => rfl⟩
  | cons row rows ih =>
      obtain ⟨after, hafter⟩ := ih (if (Text.trimRight row).isEmpty then blanks + 1 else 0)
      refine ⟨after, fun more => ?_⟩
      simp only [List.cons_append, squeeze]
      split_ifs at hafter ⊢ <;> simp only [hafter, List.cons_append]

-- A row that is not blank hands on none.
theorem squeeze_cons (blanks : Nat) {row : List Char} (htrim : Text.trimRight row = row)
    (hne : row ≠ []) (more : List (List Char)) :
    squeeze blanks (row :: more) = row :: squeeze 0 more := by
  have htext : isBlankLine row = false := by
    rw [← isEmpty_trimRight, htrim]
    exact List.isEmpty_eq_false_iff.mpr hne
  rw [squeeze_text blanks htext, htrim]

-- The empty row behind the last line feed stays, or there are enough empty rows before it.
theorem squeeze_snoc (blanks : Nat) (rows : List (List Char)) :
    (2 ≤ blanks ∧ squeeze blanks (rows ++ [[]]) = []) ∨
      ∃ kept, squeeze blanks (rows ++ [[]]) = kept ++ [[]] := by
  have hblank : (Text.trimRight []).isEmpty = true := rfl
  induction rows generalizing blanks with
  | nil =>
      by_cases hlt : blanks < 2
      · exact .inr ⟨[], by simp [squeeze, hblank, hlt]⟩
      · exact .inl ⟨by omega, by simp [squeeze, hblank, hlt]⟩
  | cons row rows ih =>
      simp only [List.cons_append, squeeze]
      split_ifs with hempty hlt
      · rcases ih (blanks + 1) with ⟨-, hnil⟩ | ⟨kept, hkept⟩
        · exact .inr ⟨[], by rw [hnil]; rfl⟩
        · exact .inr ⟨[] :: kept, by rw [hkept]; rfl⟩
      · rcases ih (blanks + 1) with ⟨-, hnil⟩ | ⟨kept, hkept⟩
        · exact .inl ⟨by omega, hnil⟩
        · exact .inr ⟨kept, hkept⟩
      · rcases ih 0 with ⟨hle, -⟩ | ⟨kept, hkept⟩
        · omega
        · exact .inr ⟨Text.trimRight row :: kept, by rw [hkept]; rfl⟩

theorem tidy_newline (cs : List Char) : ∃ kept, tidy (cs ++ ['\n']) = ended kept ∧
    squeeze 0 (Text.lines cs ++ [[]]) = kept ++ [[]] := by
  rcases squeeze_snoc 0 (Text.lines cs) with ⟨hle, -⟩ | ⟨kept, hkept⟩
  · omega
  · refine ⟨kept, ?_, hkept⟩
    rw [tidy, Text.lines_append, show Text.lines [] = [[]] from rfl, hkept, Text.unlines_ended]

theorem fresh_ended {rows : List (List Char)} {t : State} {ts : List Token}
    (h : Tells .code (ended rows) ts t) : t.Fresh := by
  rcases List.eq_nil_or_concat rows with rfl | ⟨front, row, rfl⟩
  · cases h
    trivial
  · have hlast : ended (front.concat row) = (ended front ++ row) ++ ['\n'] := by simp [ended]
    rw [hlast] at h
    exact Tells.fresh h

-- An empty row at the end tells nothing.
theorem tells_ended_snoc {rows : List (List Char)} {ts : List Token}
    (h : Tells .code (ended (rows ++ [[]])) ts .code) : Tells .code (ended rows) ts .code := by
  rw [Text.ended_append] at h
  obtain ⟨us, m, vs, hfront, hend, rfl⟩ := View.reads_append_iff.mp h
  have hm := fresh_ended hfront
  rw [View.Reads, show ended [[]] = '\n' :: [] from rfl, Php.tell_space hm rfl,
    View.read_nil] at hend
  obtain ⟨rfl, hgist⟩ := Prod.mk.inj (Option.some.inj hend)
  obtain rfl := Php.State.eq_code_of_gist hgist
  rwa [List.append_nil]

-- Rows tell the same when they are squeezed with an empty row behind them.
theorem tells_squeeze_snoc {rows : List (List Char)} {ts : List Token}
    (h : Tells .code (ended rows) ts .code) :
    Tells .code (ended (squeeze 0 (rows ++ [[]]))) ts .code := by
  refine tells_squeeze (.inl rfl) ?_
  have hend : Tells .code (ended [[]]) [] .code := by decide
  rw [Text.ended_append]
  simpa using h.append hend

-- A text of whole lines tells the same when it is tidied.
theorem tells_tidy {cs : List Char} {ts : List Token} (h : Tells .code (cs ++ ['\n']) ts .code) :
    Tells .code (tidy (cs ++ ['\n'])) ts .code := by
  obtain ⟨kept, htidy, hkept⟩ := tidy_newline cs
  rw [← Text.ended_lines] at h
  have hsqueezed := tells_squeeze_snoc h
  rw [hkept] at hsqueezed
  rw [htidy]
  exact tells_ended_snoc hsqueezed

theorem squeeze_ne_nil {rows : List (List Char)} (h : rows ≠ []) : squeeze 0 rows ≠ [] := by
  obtain ⟨row, rows, rfl⟩ := List.exists_cons_of_ne_nil h
  simp only [squeeze]
  split_ifs with hempty hlt
  · exact List.cons_ne_nil _ _
  · omega
  · exact List.cons_ne_nil _ _

theorem newline_notMem_squeeze {rows : List (List Char)} (h : ∀ row ∈ rows, '\n' ∉ row) (blanks : Nat) :
    ∀ row ∈ squeeze blanks rows, '\n' ∉ row := by
  induction rows generalizing blanks with
  | nil => exact fun row hrow => absurd hrow List.not_mem_nil
  | cons first rows ih =>
      obtain ⟨hfirst, hrows⟩ := List.forall_mem_cons.mp h
      have hkept : '\n' ∉ Text.trimRight first := by
        obtain ⟨w, hsplit, -⟩ := trimRight_split first
        rw [hsplit, List.mem_append, not_or] at hfirst
        exact hfirst.1
      simp only [squeeze]
      split_ifs
      · exact List.forall_mem_cons.mpr ⟨List.not_mem_nil, ih hrows _⟩
      · exact ih hrows _
      · exact List.forall_mem_cons.mpr ⟨hkept, ih hrows _⟩

theorem lines_tidy (cs : List Char) : Text.lines (tidy cs) = squeeze 0 (Text.lines cs) :=
  Text.lines_unlines (squeeze_ne_nil (Text.lines_ne_nil cs))
    (newline_notMem_squeeze (fun _ => Text.newline_notMem_lines) 0)

theorem tidy_opening (cs : List Char) : tidy (Php.opening ++ cs) = Php.opening ++ tidy cs := by
  have hfirst : Text.lines (Php.opening ++ cs) = "<?php".toList :: Text.lines cs :=
    Text.lines_append "<?php".toList cs
  have hsqueeze : squeeze 0 ("<?php".toList :: Text.lines cs) =
      "<?php".toList :: squeeze 0 (Text.lines cs) := by
    have htrim : Text.trimRight "<?php".toList = "<?php".toList := by decide
    simp only [squeeze, htrim]
    rfl
  obtain ⟨row, rows, hrows⟩ := List.exists_cons_of_ne_nil (squeeze_ne_nil (Text.lines_ne_nil cs))
  rw [tidy, tidy, hfirst, hsqueeze, hrows]
  rfl

end FieldTemplates.Document
