import FieldTemplates.Code.Line
import FieldTemplates.Proofs.Text.Dedent
import Mathlib.Tactic.SplitIfs

namespace FieldTemplates.Text

theorem glue_sublist {f : List Char → List Char} (hf : ∀ row, (f row).Sublist row) (sep : Char)
    (rows : List (List Char)) : (glue sep (rows.map f)).Sublist (glue sep rows) := by
  induction rows with
  | nil => exact List.nil_sublist _
  | cons row rows ih =>
      cases rows with
      | nil => exact hf row
      | cons next rows => exact (hf row).append (ih.cons_cons sep)

theorem mem_glue_sublist (sep : Char) {rows : List (List Char)} {row : List Char} (h : row ∈ rows) :
    row.Sublist (glue sep rows) := by
  induction rows with
  | nil => cases h
  | cons first rows ih =>
      cases rows with
      | nil =>
          rw [List.mem_singleton.mp h]
          exact List.Sublist.refl _
      | cons next rows =>
          rcases List.mem_cons.mp h with rfl | h
          · exact List.sublist_append_left _ _
          · exact ((ih h).cons sep).trans (List.sublist_append_right _ _)

theorem mem_lines_sublist {cs row : List Char} (h : row ∈ lines cs) : row.Sublist cs := by
  have hrow := mem_glue_sublist '\n' h
  rwa [← unlines, unlines_lines] at hrow

theorem dedent_sublist (cs : List Char) : (dedent cs).Sublist cs := by
  let start := margin ((lines cs).map clearIndentOnly)
  have hrows := (glue_sublist (dropStart_sublist start) '\n' ((lines cs).map clearIndentOnly)).trans
    (glue_sublist clearIndentOnly_sublist '\n' (lines cs))
  have hlines : glue '\n' (lines cs) = cs := unlines_lines cs
  rw [hlines] at hrows
  exact hrows

end FieldTemplates.Text

namespace FieldTemplates.Code

theorem trimBreaks_sublist (cs : List Char) : (trimBreaks cs).Sublist cs := by
  have hback : ((dropBreaks (dropBreaks cs).reverse).reverse).Sublist (dropBreaks cs) := by
    have hdrop : (dropBreaks (dropBreaks cs).reverse).Sublist (dropBreaks cs).reverse :=
      List.dropWhile_sublist _
    simpa using hdrop.reverse
  exact hback.trans (List.dropWhile_sublist _)

-- Only the spaces in front of a row deepen it.
theorem blockLine_level (depth : Int) (row : List Char) :
    depth ≤ (blockLine depth row).level ∧
      (blockLine depth row).level ≤ depth + (row.count ' ' / 4 : Nat) := by
  have hsplit : (row.takeWhile (· == ' ')).length + (row.dropWhile (· == ' ')).length = row.length := by
    rw [← List.length_append, List.takeWhile_append_dropWhile]
  have hfront : (row.takeWhile (· == ' ')).count ' ' = (row.takeWhile (· == ' ')).length := by
    refine List.count_eq_length.mpr fun c hc => ?_
    have hspace : (c == ' ') = true := List.mem_takeWhile_imp (p := (· == ' ')) hc
    exact (beq_iff_eq.mp hspace).symm
  have hcount := (List.takeWhile_sublist (· == ' ') (l := row)).count_le ' '
  simp only [blockLine]
  omega

theorem block_level {depth : Int} {cs : List Char} {l : Line} (h : l ∈ block depth cs) :
    depth ≤ l.level ∧ l.level ≤ depth + (cs.count ' ' / 4 : Nat) := by
  obtain ⟨row, hrow, rfl⟩ := List.mem_map.mp h
  have hsublist := (Text.mem_lines_sublist hrow).trans
    ((trimBreaks_sublist _).trans (Text.dedent_sublist cs))
  have hcount := hsublist.count_le ' '
  obtain ⟨hlow, hhigh⟩ := blockLine_level depth row
  omega

-- Only a level that is out of all proportion is refused.
theorem level_of_error {unit : List Char} {l : Line} (hl : 0 ≤ l.level) {e : Text.RepeatError}
    (h : l.error? unit = some e) : Text.maxLength < (unit.length + 1) * l.level := by
  obtain ⟨level, content⟩ := l
  obtain ⟨n, rfl⟩ := Int.eq_ofNat_of_zero_le hl
  have hroom : ((unit.length : Int) + 1) * n = (unit.length * n : Nat) + n := by
    rw [Int.add_mul, Int.one_mul, Int.natCast_mul]
  have hword : Text.maxWord = 0x7FFFFFFFFFFFFFFF := rfl
  have hlength : Text.maxLength = 0x1FFFFFFFF := rfl
  simp only [Line.error?, Text.repeatError?, Int.toNat_natCast] at h
  rw [hroom]
  split_ifs at h <;> omega

theorem error_of_text? {unit : List Char} {ls : List Line} {e : Text.RepeatError}
    (h : text? unit ls = .error e) : ∃ l ∈ ls, l.error? unit = some e := by
  simp only [text?] at h
  split at h
  · rename_i d hfind
    obtain rfl := Except.error.inj h
    exact List.exists_of_findSome?_eq_some hfind
  · cases h

end FieldTemplates.Code
