import FieldTemplates.Text.Lines

namespace FieldTemplates.Text

def ended (rows : List (List Char)) : List Char := rows.flatMap (· ++ ['\n'])

theorem ended_cons (row : List Char) (rows : List (List Char)) :
    ended (row :: rows) = row ++ ['\n'] ++ ended rows := rfl

theorem ended_append (rows more : List (List Char)) :
    ended (rows ++ more) = ended rows ++ ended more := List.flatMap_append

theorem ended_eq_unlines {rows : List (List Char)} (h : rows ≠ []) :
    ended rows = unlines rows ++ ['\n'] := by
  induction rows with
  | nil => exact absurd rfl h
  | cons row rows ih =>
      cases rows with
      | nil => exact List.append_nil _
      | cons next rows =>
          rw [ended_cons, ih (List.cons_ne_nil _ _)]
          simp only [unlines, glue, List.append_assoc, List.cons_append, List.nil_append]

theorem unlines_concat (rows : List (List Char)) (row : List Char) :
    unlines (rows ++ [row]) = ended rows ++ row := by
  have hne : rows ++ [row] ≠ [] := by simp
  have h := ended_eq_unlines hne
  rw [ended_append, ended_cons, ← List.append_assoc] at h
  exact (List.append_cancel_right (by simpa [ended] using h)).symm

theorem unlines_ended (rows : List (List Char)) : unlines (rows ++ [[]]) = ended rows := by
  rw [unlines_concat, List.append_nil]

section

variable {sep : Char} {cs p : List Char} {ps : List (List Char)}

theorem pieces_ne_nil (sep : Char) (cs : List Char) : pieces sep cs ≠ [] := by
  cases cs with
  | nil => exact List.cons_ne_nil _ _
  | cons c cs =>
      simp only [pieces]
      split
      · exact List.cons_ne_nil _ _
      · split <;> exact List.cons_ne_nil _ _

theorem pieces_sep (sep : Char) (cs : List Char) : pieces sep (sep :: cs) = [] :: pieces sep cs := by
  simp only [pieces, ite_true]

theorem pieces_cons {c : Char} (hc : c ≠ sep) (h : pieces sep cs = p :: ps) :
    pieces sep (c :: cs) = (c :: p) :: ps := by
  simp only [pieces, hc, ite_false, h]

theorem pieces_plain_append {before : List Char} (hbefore : sep ∉ before) (h : pieces sep cs = p :: ps) :
    pieces sep (before ++ cs) = (before ++ p) :: ps := by
  induction before with
  | nil => exact h
  | cons c before ih =>
      obtain ⟨hc, hrest⟩ := List.ne_and_not_mem_of_not_mem_cons hbefore
      exact pieces_cons hc.symm (ih hrest)

theorem pieces_of_notMem (h : sep ∉ cs) : pieces sep cs = [cs] := by
  have hempty : pieces sep [] = [[]] := rfl
  have hpieces := pieces_plain_append h hempty
  rwa [List.append_nil] at hpieces

theorem pieces_append_sep {before : List Char} (h : sep ∉ before) (cs : List Char) :
    pieces sep (before ++ sep :: cs) = before :: pieces sep cs := by
  rw [pieces_plain_append h (pieces_sep sep cs), List.append_nil]

end

theorem lines_ne_nil (cs : List Char) : lines cs ≠ [] := pieces_ne_nil '\n' cs

theorem lines_newline (cs : List Char) : lines ('\n' :: cs) = [] :: lines cs := pieces_sep '\n' cs

theorem lines_cons {c : Char} {cs row : List Char} {rows : List (List Char)} (hc : c ≠ '\n')
    (h : lines cs = row :: rows) : lines (c :: cs) = (c :: row) :: rows := pieces_cons hc h

theorem lines_append (cs ds : List Char) :
    lines (cs ++ '\n' :: ds) = lines cs ++ lines ds := by
  induction cs with
  | nil => exact lines_newline ds
  | cons c cs ih =>
      by_cases hc : c = '\n'
      · subst hc
        rw [List.cons_append, lines_newline, lines_newline, ih, List.cons_append]
      · obtain ⟨row, rows, hrows⟩ := List.exists_cons_of_ne_nil (lines_ne_nil cs)
        rw [hrows, List.cons_append] at ih
        rw [List.cons_append, lines_cons hc ih, lines_cons hc hrows, List.cons_append]

theorem unlines_lines (cs : List Char) : unlines (lines cs) = cs := by
  induction cs with
  | nil => rfl
  | cons c cs ih =>
      obtain ⟨row, rows, hrows⟩ := List.exists_cons_of_ne_nil (lines_ne_nil cs)
      rw [hrows] at ih
      by_cases hc : c = '\n'
      · subst hc
        rw [lines_newline, hrows]
        simp only [unlines, glue, List.nil_append] at ih ⊢
        rw [ih]
      · rw [lines_cons hc hrows]
        cases rows with
        | nil => exact congrArg (c :: ·) ih
        | cons next rows => exact congrArg (c :: ·) ih

theorem ended_lines (cs : List Char) : ended (lines cs) = cs ++ ['\n'] := by
  rw [ended_eq_unlines (lines_ne_nil cs), unlines_lines]

theorem ended_flatMap_lines (rows : List (List Char)) : ended (rows.flatMap lines) = ended rows := by
  induction rows with
  | nil => rfl
  | cons row rows ih => rw [List.flatMap_cons, ended_append, ended_lines, ih, ended_cons]

theorem lines_of_no_newline {row : List Char} (h : '\n' ∉ row) : lines row = [row] := pieces_of_notMem h

theorem newline_notMem_lines {cs row : List Char} (h : row ∈ lines cs) : '\n' ∉ row := by
  induction cs generalizing row with
  | nil =>
      rw [List.mem_singleton.mp h]
      exact List.not_mem_nil
  | cons c cs ih =>
      by_cases hc : c = '\n'
      · rw [hc, lines_newline] at h
        rcases List.mem_cons.mp h with rfl | h
        · exact List.not_mem_nil
        · exact ih h
      · obtain ⟨first, rows, hrows⟩ := List.exists_cons_of_ne_nil (lines_ne_nil cs)
        rw [lines_cons hc hrows] at h
        rw [hrows] at ih
        rcases List.mem_cons.mp h with rfl | h
        · exact List.not_mem_cons_of_ne_of_not_mem (Ne.symm hc) (ih List.mem_cons_self)
        · exact ih (List.mem_cons_of_mem _ h)

-- Behind the last line feed there is one more line, which is empty.
theorem lines_ended (rows : List (List Char)) : lines (ended rows) = rows.flatMap lines ++ [[]] := by
  induction rows with
  | nil => rfl
  | cons row rows ih =>
      rw [ended_cons, List.append_assoc, List.singleton_append, lines_append, ih, List.flatMap_cons,
        List.append_assoc]

theorem flatMap_lines {rows : List (List Char)} (h : ∀ row ∈ rows, '\n' ∉ row) :
    rows.flatMap lines = rows := by
  induction rows with
  | nil => rfl
  | cons row rows ih =>
      obtain ⟨hrow, hrows⟩ := List.forall_mem_cons.mp h
      rw [List.flatMap_cons, lines_of_no_newline hrow, ih hrows, List.singleton_append]

theorem lines_unlines {rows : List (List Char)} (hne : rows ≠ []) (h : ∀ row ∈ rows, '\n' ∉ row) :
    lines (unlines rows) = rows := by
  have hended := lines_ended rows
  rw [ended_eq_unlines hne, lines_append, flatMap_lines h] at hended
  exact List.append_cancel_right hended

end FieldTemplates.Text
