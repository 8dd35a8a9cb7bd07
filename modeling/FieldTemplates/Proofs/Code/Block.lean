import FieldTemplates.Code.Line
import FieldTemplates.Proofs.Php.Layout
import FieldTemplates.Proofs.Text.Dedent

namespace FieldTemplates.Code

open Php (State Tells Token View gistView isSpace)
open Text (ended isIndent)

theorem isSpace_of_isIndent {c : Char} (hc : isIndent c = true) : isSpace c = true := by
  simp only [isIndent, Bool.or_eq_true, beq_iff_eq] at hc
  rcases hc with rfl | rfl <;> decide

theorem tell_row {s : State} (hs : s.Fresh) (row cs : List Char) :
    gistView.read s (row ++ cs) = gistView.read s (row.dropWhile isIndent ++ cs) := by
  have hw : ∀ c ∈ row.takeWhile isIndent, isSpace c = true := fun c hc =>
    isSpace_of_isIndent (List.mem_takeWhile_imp hc)
  conv => lhs; rw [← List.takeWhile_append_dropWhile (p := isIndent) (l := row)]
  rw [List.append_assoc, Php.tell_spaces hs hw]

-- Rows that differ in their indentation tell the same.
theorem tells_reindent {f : List Char → List Char}
    (hf : ∀ row, (f row).dropWhile isIndent = row.dropWhile isIndent) {s t : State}
    (hs : s.Fresh) {rows : List (List Char)} {ts : List Token}
    (h : Tells s (ended rows) ts t) : Tells s (ended (rows.map f)) ts t := by
  induction rows generalizing s ts with
  | nil => exact h
  | cons row rows ih =>
      obtain ⟨us, m, vs, hrow, hrest, rfl⟩ := View.reads_append_iff.mp h
      have hsame : Tells s (f row ++ ['\n']) us m := by
        rw [Tells, View.Reads, tell_row hs, hf, ← tell_row hs]
        exact hrow
      exact hsame.append (ih (Php.Tells.fresh hrow) hrest)

theorem tells_dedent {s t : State} (hs : s.Fresh) {cs : List Char} {ts : List Token}
    (h : Tells s (cs ++ ['\n']) ts t) : Tells s (Text.dedent cs ++ ['\n']) ts t := by
  let rows := (Text.lines cs).map Text.clearIndentOnly
  have hne : rows.map (Text.dropStart (Text.margin rows)) ≠ [] := by
    simp only [rows, ne_eq, List.map_eq_nil_iff]
    exact Text.lines_ne_nil cs
  rw [← Text.ended_lines] at h
  have hmargin := Text.dropWhile_dropStart (Text.margin_isIndent rows)
  have hrows := tells_reindent hmargin hs (tells_reindent Text.dropWhile_clearIndentOnly hs h)
  rw [Text.ended_eq_unlines hne] at hrows
  exact hrows

theorem mem_takeWhile_newline {cs : List Char} {c : Char}
    (hc : c ∈ cs.takeWhile (· == '\n')) : c = '\n' := by
  simpa using List.mem_takeWhile_imp hc

-- Only line feeds are trimmed.
theorem trimBreaks_split (cs : List Char) : ∃ front back : List Char, (∀ c ∈ front, c = '\n') ∧
    (∀ c ∈ back, c = '\n') ∧ cs = front ++ (trimBreaks cs ++ back) := by
  let rest := (dropBreaks cs).reverse
  have hback : dropBreaks cs = trimBreaks cs ++ (rest.takeWhile (· == '\n')).reverse := by
    have hrest : rest.reverse = (rest.takeWhile (· == '\n') ++ dropBreaks rest).reverse :=
      congrArg List.reverse List.takeWhile_append_dropWhile.symm
    rwa [List.reverse_append, List.reverse_reverse] at hrest
  refine ⟨cs.takeWhile (· == '\n'), (rest.takeWhile (· == '\n')).reverse,
    fun c hc => mem_takeWhile_newline hc, fun c hc => mem_takeWhile_newline (List.mem_reverse.mp hc), ?_⟩
  rw [← hback, dropBreaks, List.takeWhile_append_dropWhile]

theorem tells_trimBreaks {s t : State} (hs : s.Fresh) {cs : List Char} {ts : List Token}
    (h : Tells s (cs ++ ['\n']) ts t) : Tells s (trimBreaks cs ++ ['\n']) ts t := by
  obtain ⟨front, back, hfront, hback, hsplit⟩ := trimBreaks_split cs
  have hrest : Tells s (trimBreaks cs ++ back ++ ['\n']) ts t := by
    rw [hsplit, List.append_assoc] at h
    rw [Tells, View.Reads, Php.tell_spaces hs fun c hc => by rw [hfront c hc]; rfl] at h
    exact h
  refine Php.Tells.trim_row ?_ hrest
  intro c hc
  rw [hback c hc]
  rfl

-- The row that a line is, without its line end.
def Line.row (unit : List Char) (l : Line) : List Char :=
  if l.content.isEmpty then [] else indent unit l.level ++ l.content

theorem Line.text_eq (unit : List Char) (l : Line) : l.text unit = l.row unit ++ ['\n'] := by
  simp only [Line.text, Line.row]
  split <;> rfl

theorem text_eq_ended (unit : List Char) (ls : List Line) :
    text unit ls = ended (ls.map (Line.row unit)) := by
  rw [text, ended, List.flatMap_map]
  exact congrArg (ls.flatMap ·) (funext (Line.text_eq unit))

theorem text_append (unit : List Char) (ls more : List Line) :
    text unit (ls ++ more) = text unit ls ++ text unit more := List.flatMap_append

variable {unit : List Char}

theorem mem_indent {count : Int} {c : Char} (hc : c ∈ indent unit count) : c ∈ unit := by
  obtain ⟨u, hu, hc⟩ := List.mem_flatten.mp hc
  rw [List.eq_of_mem_replicate hu] at hc
  exact hc

theorem Line.dropWhile_row (hunit : ∀ c ∈ unit, isIndent c = true) (l : Line) :
    (l.row unit).dropWhile isIndent = l.content.dropWhile isIndent := by
  simp only [Line.row]
  split
  · rename_i hempty
    rw [List.isEmpty_iff.mp hempty]
  · exact Text.dropWhile_isIndent_append (fun c hc => hunit c (mem_indent hc)) _

theorem dropWhile_blockLine (hunit : ∀ c ∈ unit, isIndent c = true) (depth : Int)
    (row : List Char) :
    ((blockLine depth row).row unit).dropWhile isIndent = row.dropWhile isIndent := by
  have hspaces : ∀ c ∈ row.takeWhile (· == ' '), isIndent c = true := by
    intro c hc
    have hspace : c = ' ' := by simpa using List.mem_takeWhile_imp hc
    rw [hspace]
    rfl
  rw [Line.dropWhile_row hunit]
  conv => rhs; rw [← List.takeWhile_append_dropWhile (p := (· == ' ')) (l := row)]
  exact (Text.dropWhile_isIndent_append hspaces _).symm

theorem tells_line (hunit : ∀ c ∈ unit, isIndent c = true) (l : Line) {s t : State}
    (hs : s.Fresh) {ts : List Token} (h : Tells s (l.content ++ ['\n']) ts t) :
    Tells s (text unit [l]) ts t := by
  rw [text_eq_ended, List.map_singleton, Text.ended_cons]
  simp only [ended, List.flatMap_nil, List.append_nil]
  rw [Tells, View.Reads, tell_row hs, Line.dropWhile_row hunit, ← tell_row hs]
  exact h

theorem tells_block (hunit : ∀ c ∈ unit, isIndent c = true) (depth : Int) {cs : List Char}
    {s t : State} (hs : s.Fresh) {ts : List Token} (h : Tells s (cs ++ ['\n']) ts t) :
    Tells s (text unit (block depth cs)) ts t := by
  have htrim := tells_trimBreaks hs (tells_dedent hs h)
  rw [← Text.ended_lines] at htrim
  rw [text_eq_ended, block, List.map_map]
  exact tells_reindent (dropWhile_blockLine hunit depth) hs htrim

end FieldTemplates.Code
