import FieldTemplates.Proofs.Text.Rows
import FieldTemplates.Text.Dedent
import Mathlib.Data.List.TakeWhile

namespace FieldTemplates.Text

theorem clearIndentOnly_sublist (row : List Char) : (clearIndentOnly row).Sublist row := by
  simp only [clearIndentOnly]
  split
  · exact List.nil_sublist _
  · exact List.Sublist.refl _

theorem dropStart_sublist (start row : List Char) : (dropStart start row).Sublist row := by
  simp only [dropStart]
  split
  · exact List.drop_sublist _ _
  · exact List.Sublist.refl _

theorem dropStart_nil (start : List Char) : dropStart start [] = [] :=
  List.sublist_nil.mp (dropStart_sublist start [])

theorem dropStart_append (start rest : List Char) : dropStart start (start ++ rest) = rest := by
  rw [dropStart, if_pos (List.isPrefixOf_iff_prefix.mpr (List.prefix_append start rest)),
    List.drop_left]

theorem isPrefix_commonStart_iff {w cs ds : List Char} :
    w <+: commonStart cs ds ↔ w <+: cs ∧ w <+: ds := by
  induction w generalizing cs ds with
  | nil => simp only [List.nil_prefix, and_self]
  | cons e w ih =>
      cases cs with
      | nil => simp [commonStart]
      | cons c cs =>
          cases ds with
          | nil => simp [commonStart]
          | cons d ds =>
              rw [commonStart]
              split
              · rename_i hcd
                subst hcd
                simp only [List.cons_prefix_cons, ih]
                exact and_and_left
              · rename_i hcd
                refine iff_of_false (by simp) fun h => hcd ?_
                exact (List.cons_prefix_cons.mp h.1).1.symm.trans (List.cons_prefix_cons.mp h.2).1

theorem isPrefix_foldl_commonStart_iff {w start : List Char} {is : List (List Char)} :
    w <+: is.foldl commonStart start ↔ w <+: start ∧ ∀ i ∈ is, w <+: i := by
  induction is generalizing start with
  | nil => simp
  | cons i is ih => rw [List.foldl_cons, ih, isPrefix_commonStart_iff, List.forall_mem_cons, and_assoc]

theorem margin_of_empty {rows : List (List Char)} (h : ∀ row ∈ rows, row = []) : margin rows = [] := by
  have hfilter : rows.filter (!·.isEmpty) = [] := by simpa [List.filter_eq_nil_iff] using h
  rw [margin, hfilter]
  rfl

-- The margin is the longest text that the indentation of every row begins with.
theorem isPrefix_margin_iff {w : List Char} {rows : List (List Char)}
    (hsome : ∃ row ∈ rows, row ≠ []) :
    w <+: margin rows ↔ ∀ row ∈ rows, row ≠ [] → w <+: indentOf row := by
  have hfull : ∀ row, row ∈ rows.filter (!·.isEmpty) ↔ row ∈ rows ∧ row ≠ [] := by
    simp [List.mem_filter]
  obtain ⟨first, rest, hrows⟩ : ∃ first rest, rows.filter (!·.isEmpty) = first :: rest := by
    obtain ⟨row, hrow⟩ := hsome
    exact List.exists_cons_of_ne_nil (List.ne_nil_of_mem ((hfull row).mpr hrow))
  have hmargin : margin rows = (rest.map indentOf).foldl commonStart (indentOf first) := by
    rw [margin, hrows]
    rfl
  rw [hmargin, isPrefix_foldl_commonStart_iff, List.forall_mem_map]
  calc (w <+: indentOf first ∧ ∀ row ∈ rest, w <+: indentOf row)
      ↔ ∀ row ∈ first :: rest, w <+: indentOf row := by rw [List.forall_mem_cons]
    _ ↔ ∀ row ∈ rows, row ≠ [] → w <+: indentOf row := by simp only [← hrows, hfull, and_imp]

theorem margin_isPrefix {rows : List (List Char)} {row : List Char} (h : row ∈ rows)
    (hne : row ≠ []) : margin rows <+: indentOf row :=
  (isPrefix_margin_iff ⟨row, h, hne⟩).mp (List.prefix_refl _) row h hne

-- A margin holds nothing but spaces and tabs.
theorem margin_isIndent (rows : List (List Char)) : ∀ c ∈ margin rows, isIndent c = true := by
  intro c hc
  by_cases hsome : ∃ row ∈ rows, row ≠ []
  · obtain ⟨row, hrow, hne⟩ := hsome
    exact List.mem_takeWhile_imp ((margin_isPrefix hrow hne).subset hc)
  · have hempty : ∀ row ∈ rows, row = [] := fun row hrow =>
      not_not.mp fun hne => hsome ⟨row, hrow, hne⟩
    rw [margin_of_empty hempty] at hc
    cases hc

theorem dropWhile_isIndent_append {w : List Char} (hw : ∀ c ∈ w, isIndent c = true)
    (cs : List Char) : (w ++ cs).dropWhile isIndent = cs.dropWhile isIndent :=
  List.dropWhile_append_of_pos hw

theorem dropWhile_clearIndentOnly (row : List Char) :
    (clearIndentOnly row).dropWhile isIndent = row.dropWhile isIndent := by
  simp only [clearIndentOnly]
  split
  · rename_i hall
    exact (List.dropWhile_eq_nil_iff.mpr (List.all_eq_true.mp hall)).symm
  · rfl

theorem dropWhile_dropStart {start : List Char} (hstart : ∀ c ∈ start, isIndent c = true)
    (row : List Char) : (dropStart start row).dropWhile isIndent = row.dropWhile isIndent := by
  simp only [dropStart]
  split
  · rename_i hp
    obtain ⟨rest, rfl⟩ := List.isPrefixOf_iff_prefix.mp hp
    rw [List.drop_left, dropWhile_isIndent_append hstart]
  · rfl

-- A row with more in front of it; an empty row stays empty.
def push (front row : List Char) : List Char := if row.isEmpty then [] else front ++ row

theorem push_nil (front : List Char) : push front [] = [] := rfl

theorem push_of_ne_nil (front : List Char) {row : List Char} (h : row ≠ []) :
    push front row = front ++ row := by
  rw [push, if_neg (by simpa using h)]

section

variable {w : List Char} (hw : ∀ c ∈ w, isIndent c = true)

include hw

theorem clearIndentOnly_append (row : List Char) :
    clearIndentOnly (w ++ row) = push w (clearIndentOnly row) := by
  have hall : (w ++ row).all isIndent = row.all isIndent := by
    rw [List.all_append, List.all_eq_true.mpr hw, Bool.true_and]
  rw [clearIndentOnly, clearIndentOnly, hall]
  split
  · rfl
  · rename_i hrow
    refine (push_of_ne_nil w ?_).symm
    rintro rfl
    exact hrow rfl

theorem indentOf_append (row : List Char) : indentOf (w ++ row) = w ++ indentOf row :=
  List.takeWhile_append_of_pos hw

-- Rows that all have more in front of them have as much more of a margin.
theorem margin_push {rows : List (List Char)} (hsome : ∃ row ∈ rows, row ≠ []) :
    margin (rows.map (push w)) = w ++ margin rows := by
  have hfull : ∀ row ∈ rows, row ≠ [] → w ++ row ∈ rows.map (push w) := by
    intro row hrow hne
    rw [← push_of_ne_nil w hne]
    exact List.mem_map_of_mem hrow
  have hpushed : ∃ row ∈ rows.map (push w), row ≠ [] := by
    obtain ⟨row, hrow, hne⟩ := hsome
    exact ⟨w ++ row, hfull row hrow hne, by simp [hne]⟩
  have hlong : w ++ margin rows <+: margin (rows.map (push w)) := by
    rw [isPrefix_margin_iff hpushed, List.forall_mem_map]
    intro row hrow hne
    have hrowne : row ≠ [] := fun hnil => hne (hnil ▸ push_nil w)
    rw [push_of_ne_nil w hrowne, indentOf_append hw, List.prefix_append_right_inj]
    exact margin_isPrefix hrow hrowne
  obtain ⟨more, hmore⟩ := (List.prefix_append w _).trans hlong
  have hshort : more <+: margin rows := by
    rw [isPrefix_margin_iff hsome]
    intro row hrow hne
    have hrest := margin_isPrefix (hfull row hrow hne) (by simp [hne])
    rwa [indentOf_append hw, ← hmore, List.prefix_append_right_inj] at hrest
  rw [← hmore, List.prefix_append_right_inj] at hlong
  rw [← hmore, hshort.eq_of_length_le hlong.length_le]

-- What is put in front of every row comes off with the margin.
theorem map_dropStart_push (rows : List (List Char)) :
    (rows.map (push w)).map (dropStart (margin (rows.map (push w)))) =
      rows.map (dropStart (margin rows)) := by
  rw [List.map_map]
  refine List.map_congr_left fun row hrow => ?_
  rw [Function.comp_apply]
  by_cases hne : row = []
  · rw [hne, push_nil, dropStart_nil, dropStart_nil]
  · obtain ⟨rest, hrest⟩ := (margin_isPrefix hrow hne).trans (List.takeWhile_prefix isIndent)
    have hplain : dropStart (margin rows) row = rest := by rw [← hrest, dropStart_append]
    have hpushed : dropStart (w ++ margin rows) (w ++ row) = rest := by
      rw [← hrest, ← List.append_assoc, dropStart_append]
    rw [margin_push hw ⟨row, hrow, hne⟩, push_of_ne_nil w hne, hpushed, hplain]

theorem dedent_indented (cs : List Char) : dedent (unlines ((lines cs).map (w ++ ·))) = dedent cs := by
  have hbreak : '\n' ∉ w := fun hmem => absurd (hw _ hmem) (by decide)
  have hlines : lines (unlines ((lines cs).map (w ++ ·))) = (lines cs).map (w ++ ·) := by
    refine lines_unlines (by simpa using lines_ne_nil cs) ?_
    rw [List.forall_mem_map]
    intro row hrow
    rw [List.mem_append, not_or]
    exact ⟨hbreak, newline_notMem_lines hrow⟩
  have hclear : ((lines cs).map (w ++ ·)).map clearIndentOnly =
      ((lines cs).map clearIndentOnly).map (push w) := by
    rw [List.map_map, List.map_map]
    exact List.map_congr_left fun row _ => clearIndentOnly_append hw row
  rw [dedent, dedent, hlines, hclear]
  simp only [map_dropStart_push hw]

end

theorem lines_dedent (cs : List Char) :
    lines (dedent cs) = ((lines cs).map clearIndentOnly).map
      (dropStart (margin ((lines cs).map clearIndentOnly))) := by
  rw [dedent]
  refine lines_unlines (by simpa using lines_ne_nil cs) ?_
  rw [List.forall_mem_map, List.forall_mem_map]
  intro row hrow hmem
  exact newline_notMem_lines hrow
    (((dropStart_sublist _ _).trans (clearIndentOnly_sublist row)).subset hmem)

-- Without the margin no row is left that holds nothing but spaces and tabs.
theorem mem_lines_dedent {cs row : List Char} (h : row ∈ lines (dedent cs)) :
    row = [] ∨ row.dropWhile isIndent ≠ [] := by
  rw [lines_dedent, List.mem_map] at h
  obtain ⟨cleared, hcleared, rfl⟩ := h
  rw [dropWhile_dropStart (margin_isIndent _)]
  obtain ⟨line, -, rfl⟩ := List.mem_map.mp hcleared
  rw [clearIndentOnly]
  split
  · exact .inl (dropStart_nil _)
  · rename_i hall
    exact .inr fun hnil => hall (List.all_eq_true.mpr (List.dropWhile_eq_nil_iff.mp hnil))

end FieldTemplates.Text
