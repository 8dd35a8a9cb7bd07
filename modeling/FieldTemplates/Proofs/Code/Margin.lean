import FieldTemplates.Code.Line
import FieldTemplates.Proofs.Text.Dedent

namespace FieldTemplates.Text

-- A row that starts with neither a space nor a tab.
def isFlush (row : List Char) : Bool := row.head?.any (!isIndent ·)

theorem exists_of_isFlush {row : List Char} (h : isFlush row = true) :
    ∃ c cs, row = c :: cs ∧ isIndent c = false := by
  obtain ⟨c, hhead, hc⟩ := (Option.any_eq_true _ _).mp h
  obtain ⟨cs, rfl⟩ := List.head?_eq_some_iff.mp hhead
  exact ⟨c, cs, rfl, by simpa using hc⟩

def spaced (n : Nat) (row : List Char) : List Char := List.replicate n ' ' ++ row

variable {row : List Char}

theorem isIndent_spaces (n : Nat) : ∀ c ∈ List.replicate n ' ', isIndent c = true := fun _ hc =>
  List.eq_of_mem_replicate hc ▸ rfl

theorem spaced_add (m n : Nat) (row : List Char) :
    spaced (m + n) row = List.replicate m ' ' ++ spaced n row := by
  rw [spaced, spaced, ← List.append_assoc, List.replicate_append_replicate]

theorem head?_ne_of_isFlush (h : isFlush row = true) : row.head? ≠ some ' ' := by
  obtain ⟨c, cs, rfl, hc⟩ := exists_of_isFlush h
  intro hhead
  rw [List.head?_cons, Option.some_inj] at hhead
  rw [hhead] at hc
  cases hc

theorem takeWhile_spaced (n : Nat) (h : row.head? ≠ some ' ') :
    (spaced n row).takeWhile (· == ' ') = List.replicate n ' ' := by
  have hspaces : ∀ c ∈ List.replicate n ' ', (c == ' ') = true := by simp
  have hrow : row.takeWhile (· == ' ') = [] := by
    cases row with
    | nil => rfl
    | cons c cs => exact List.takeWhile_cons_of_neg (by simpa using h)
  rw [spaced, List.takeWhile_append_of_pos hspaces, hrow, List.append_nil]

theorem dropWhile_spaced (n : Nat) (h : row.head? ≠ some ' ') :
    (spaced n row).dropWhile (· == ' ') = row := by
  have hsplit := List.takeWhile_append_dropWhile (p := (· == ' ')) (l := spaced n row)
  rw [takeWhile_spaced n h] at hsplit
  exact List.append_cancel_left hsplit

theorem exists_spaced (row : List Char) :
    ∃ n content, content.head? ≠ some ' ' ∧ spaced n content = row := by
  refine ⟨(row.takeWhile (· == ' ')).length, row.dropWhile (· == ' '), ?_, ?_⟩
  · intro hhead
    have hnot := List.head?_dropWhile_not (· == ' ') row
    rw [hhead] at hnot
    cases hnot
  · have hspaces : List.replicate (row.takeWhile (· == ' ')).length ' ' = row.takeWhile (· == ' ') := by
      refine (List.eq_replicate_iff.mpr ⟨rfl, fun c hc => ?_⟩).symm
      exact beq_iff_eq.mp (List.mem_takeWhile_imp (p := (· == ' ')) hc)
    rw [spaced, hspaces, List.takeWhile_append_dropWhile]

theorem clearIndentOnly_spaced (n : Nat) (h : isFlush row = true) :
    clearIndentOnly (spaced n row) = spaced n row := by
  obtain ⟨c, cs, rfl, hc⟩ := exists_of_isFlush h
  have hall : (spaced n (c :: cs)).all isIndent = false := by simp [spaced, hc]
  rw [clearIndentOnly, hall]
  rfl

-- Rows with their places behind the margin.
abbrev Indented := List (Nat × List Char)

def Indented.rows (m : Nat) (rs : Indented) : List (List Char) := rs.map fun r => spaced (m + r.1) r.2

variable {rs : Indented}

theorem margin_rows (hfirst : rs.head?.any (·.1 == 0) = true) (hflush : ∀ r ∈ rs, isFlush r.2 = true) :
    margin ([] :: rs.rows 0 ++ [[]]) = [] := by
  cases rs with
  | nil => cases hfirst
  | cons r rs =>
      obtain ⟨c, cs, hrow, hc⟩ := exists_of_isFlush (hflush r List.mem_cons_self)
      have hzero : r.1 = 0 := beq_iff_eq.mp hfirst
      have hmem : c :: cs ∈ [] :: Indented.rows 0 (r :: rs) ++ [[]] := by
        simp [Indented.rows, spaced, hzero, hrow]
      have hmargin := margin_isPrefix hmem (List.cons_ne_nil _ _)
      rw [indentOf, List.takeWhile_cons_of_neg (by simp [hc])] at hmargin
      exact List.prefix_nil.mp hmargin

theorem newline_notMem_spaced (n : Nat) (h : '\n' ∉ row) : '\n' ∉ spaced n row := by
  simp [spaced, h, List.mem_replicate]

theorem newline_notMem_rows (m : Nat) (h : ∀ r ∈ rs, '\n' ∉ r.2) : ∀ row ∈ rs.rows m, '\n' ∉ row := by
  intro row hrow
  obtain ⟨r, hr, rfl⟩ := List.mem_map.mp hrow
  exact newline_notMem_spaced (m + r.1) (h r hr)

-- Without the margin, the rows stand between two line feeds.
theorem dedent_rows (m : Nat) (hfirst : rs.head?.any (·.1 == 0) = true)
    (hflush : ∀ r ∈ rs, isFlush r.2 = true) (hbreaks : ∀ r ∈ rs, '\n' ∉ r.2) :
    dedent ('\n' :: ended (rs.rows m) ++ List.replicate m ' ') = '\n' :: ended (rs.rows 0) := by
  let around := fun (rows : List (List Char)) (last : List Char) => [] :: rows ++ [last]
  have htext : '\n' :: ended (rs.rows m) ++ List.replicate m ' ' =
      unlines (around (rs.rows m) (List.replicate m ' ')) :=
    (unlines_concat ([] :: rs.rows m) (List.replicate m ' ')).symm
  have hlines : lines (unlines (around (rs.rows m) (List.replicate m ' '))) =
      around (rs.rows m) (List.replicate m ' ') := by
    refine lines_unlines (List.cons_ne_nil _ _) fun row hrow => ?_
    simp only [around, List.cons_append, List.mem_cons, List.mem_append, List.not_mem_nil,
      or_false] at hrow
    rcases hrow with rfl | hrow | rfl
    · exact List.not_mem_nil
    · exact newline_notMem_rows m hbreaks row hrow
    · simp [List.mem_replicate]
  -- The rows are cleared to what they are without the margin, with the margin in front.
  have hclear : (around (rs.rows m) (List.replicate m ' ')).map clearIndentOnly =
      (around (rs.rows 0) []).map (push (List.replicate m ' ')) := by
    have hrows : (rs.rows m).map clearIndentOnly =
        (rs.rows 0).map (push (List.replicate m ' ')) := by
      rw [Indented.rows, Indented.rows, List.map_map, List.map_map]
      refine List.map_congr_left fun r hr => ?_
      rw [Function.comp_apply, Function.comp_apply, spaced_add, clearIndentOnly_append (isIndent_spaces m),
        Nat.zero_add, clearIndentOnly_spaced r.1 (hflush r hr)]
    have hlast : clearIndentOnly (List.replicate m ' ') = [] := by
      rw [clearIndentOnly, if_pos (List.all_eq_true.mpr (isIndent_spaces m))]
    simp only [around, List.map_append, List.map_cons, List.map_nil, hrows, hlast]
    rfl
  have hmargin : margin (around (rs.rows 0) []) = [] := margin_rows hfirst hflush
  have hkept : (around (rs.rows 0) []).map (dropStart []) = around (rs.rows 0) [] := by
    refine List.map_id'' (fun row => ?_) _
    exact dropStart_append [] row
  rw [htext, dedent, hlines]
  simp only [hclear, map_dropStart_push (isIndent_spaces m), hmargin, hkept]
  exact unlines_ended ([] :: rs.rows 0)

end FieldTemplates.Text

namespace FieldTemplates.Code

open Text (Indented ended isFlush isIndent spaced unlines)

theorem dropBreaks_cons {c : Char} (hc : c ≠ '\n') (cs : List Char) : dropBreaks (c :: cs) = c :: cs :=
  List.dropWhile_cons_of_neg (by simp [hc])

-- Only the line feeds around the rows are trimmed.
theorem trimBreaks_unlines {rows : List (List Char)} (hne : rows ≠ [])
    (h : ∀ row ∈ rows, row ≠ [] ∧ '\n' ∉ row) :
    trimBreaks ('\n' :: ended rows) = unlines rows := by
  have hfront : dropBreaks ('\n' :: ended rows) = ended rows := by
    obtain ⟨row, rest, rfl⟩ := List.exists_cons_of_ne_nil hne
    obtain ⟨hrow, hbreak⟩ := h row List.mem_cons_self
    obtain ⟨c, cs, rfl⟩ := List.exists_cons_of_ne_nil hrow
    have hc : c ≠ '\n' := fun hc => hbreak (hc ▸ List.mem_cons_self)
    exact (List.dropWhile_cons_of_pos rfl).trans (dropBreaks_cons hc _)
  have hback : dropBreaks (unlines rows).reverse = (unlines rows).reverse := by
    obtain ⟨rest, row, rfl⟩ : ∃ rest row, rows = rest ++ [row] :=
      ⟨_, _, (List.dropLast_concat_getLast hne).symm⟩
    obtain ⟨hrow, hbreak⟩ := h row (List.mem_append_right _ List.mem_cons_self)
    obtain ⟨cs, c, rfl⟩ : ∃ cs c, row = cs ++ [c] := ⟨_, _, (List.dropLast_concat_getLast hrow).symm⟩
    have hc : c ≠ '\n' := fun hc => hbreak (hc ▸ List.mem_append_right _ List.mem_cons_self)
    have hlast : (unlines (rest ++ [cs ++ [c]])).reverse = c :: (ended rest ++ cs).reverse := by
      rw [Text.unlines_concat, ← List.append_assoc, List.reverse_append]
      rfl
    rw [hlast, dropBreaks_cons hc]
  have hended : (ended rows).reverse = '\n' :: (unlines rows).reverse := by
    rw [Text.ended_eq_unlines hne, List.reverse_append]
    rfl
  have hall : dropBreaks (ended rows).reverse = (unlines rows).reverse := by
    rw [hended]
    exact (List.dropWhile_cons_of_pos rfl).trans hback
  rw [trimBreaks, hfront, hall, List.reverse_reverse]

-- Four spaces are a level.
theorem blockLine_spaced (depth : Int) (n : Nat) {row : List Char} (h : row.head? ≠ some ' ') :
    blockLine depth (spaced n row) = ⟨depth + (n / 4 : Nat), row⟩ := by
  have hlength : (spaced n row).length - row.length = n := by
    rw [spaced, List.length_append, List.length_replicate, Nat.add_sub_cancel]
  simp only [blockLine, Text.dropWhile_spaced n h, hlength]

-- A block whose rows stand some levels behind a margin is set as these rows at their levels.
theorem block_rows (depth : Int) (m : Nat) {rs : Indented} (hfirst : rs.head?.any (·.1 == 0) = true)
    (hflush : ∀ r ∈ rs, isFlush r.2 = true) (hbreaks : ∀ r ∈ rs, '\n' ∉ r.2) :
    block depth ('\n' :: ended (Indented.rows m (rs.map fun r => (4 * r.1, r.2))) ++
      List.replicate m ' ') = rs.map fun r => ⟨depth + r.1, r.2⟩ := by
  let spread : Indented := rs.map fun r => (4 * r.1, r.2)
  have hne : rs ≠ [] := by
    rintro rfl
    cases hfirst
  have hspread : ∀ q ∈ spread, isFlush q.2 = true ∧ '\n' ∉ q.2 := by
    intro q hq
    obtain ⟨r, hr, rfl⟩ := List.mem_map.mp hq
    exact ⟨hflush r hr, hbreaks r hr⟩
  have hhead : spread.head?.any (·.1 == 0) = true := by
    obtain ⟨r, rest, rfl⟩ := List.exists_cons_of_ne_nil hne
    have hzero : r.1 = 0 := beq_iff_eq.mp hfirst
    simp [spread, hzero]
  have hdedent := Text.dedent_rows m hhead (fun q hq => (hspread q hq).1) fun q hq => (hspread q hq).2
  have hbreaks := Text.newline_notMem_rows 0 fun q hq => (hspread q hq).2
  have hrows : ∀ row ∈ spread.rows 0, row ≠ [] ∧ '\n' ∉ row := by
    refine fun row hrow => ⟨?_, hbreaks row hrow⟩
    obtain ⟨q, hq, rfl⟩ := List.mem_map.mp hrow
    obtain ⟨c, cs, hcs, -⟩ := Text.exists_of_isFlush (hspread q hq).1
    simp [spaced, hcs]
  have hspreadne : spread.rows 0 ≠ [] := by simpa [spread, Indented.rows] using hne
  rw [block, hdedent, trimBreaks_unlines hspreadne hrows, Text.lines_unlines hspreadne hbreaks,
    Indented.rows, List.map_map, List.map_map]
  refine List.map_congr_left fun r hr => ?_
  simp only [Function.comp_apply, Nat.zero_add]
  rw [blockLine_spaced depth _ (Text.head?_ne_of_isFlush (hflush r hr)),
    Nat.mul_div_cancel_left r.1 (by decide)]

end FieldTemplates.Code
