import FieldTemplates.Proofs.Code.Block
import FieldTemplates.Proofs.Code.Margin

namespace FieldTemplates

namespace Text

-- What is short enough to be written some times is short enough for fewer times.
theorem repeatError?_mono {size : Nat} {few many : Int} (hfew : 0 ≤ few) (hle : few ≤ many)
    (h : repeatError? size many = none) : repeatError? size few = none := by
  have hword : maxWord = 0x7FFFFFFFFFFFFFFF := rfl
  have hsize : size * few.toNat ≤ size * many.toNat := Nat.mul_le_mul_left _ (by omega)
  simp only [repeatError?] at h ⊢
  split_ifs at h ⊢ <;> first | rfl | omega

end Text

namespace Code

open Text (isIndent push)

-- A line some levels deeper; an empty line stays at the margin.
def Line.deepen (levels : Int) (l : Line) : Line :=
  if l.content.isEmpty then l else l.raise levels

theorem Line.deepen_deepen (m n : Int) (l : Line) : (l.deepen m).deepen n = l.deepen (n + m) := by
  by_cases h : l.content.isEmpty = true
  · simp [deepen, h]
  · simp only [deepen, h, raise, if_false, Bool.false_eq_true]
    congr 1
    omega

theorem Line.deepen_of_ne_nil {content : List Char} (h : content ≠ []) (level levels : Int) :
    Line.deepen levels ⟨level, content⟩ = ⟨levels + level, content⟩ := by
  rw [deepen, if_neg (by simpa using h), raise, Int.add_comm]

theorem map_deepen_map_deepen (m n : Int) (ls : List Line) :
    (ls.map (Line.deepen m)).map (Line.deepen n) = ls.map (Line.deepen (n + m)) := by
  rw [List.map_map]
  exact List.map_congr_left fun l _ => l.deepen_deepen m n

-- A line of code proper: on one row, at the margin or behind it, and with no white space in front.
structure Line.Proper (l : Line) : Prop where
  level : 0 ≤ l.level
  unbroken : '\n' ∉ l.content
  flush : l.content = [] ∨ Text.isFlush l.content = true

-- The text of lines that stand some levels deeper, each with its units of indentation in front.
def written? (unit : List Char) (depth : Int) : List Line → Except Text.RepeatError (List Char)
  | [] => .ok []
  | l :: ls => do
    let front ← if l.content = [] then .ok [] else Text.repeated? (depth + l.level) unit
    let rest ← written? unit depth ls
    .ok (front ++ l.content ++ '\n' :: rest)

theorem text?_cons (unit : List Char) (l : Line) (ls : List Line) :
    text? unit (l :: ls) = match l.error? unit with
      | some e => .error e
      | none => (text? unit ls).map (l.text unit ++ ·) := by
  simp only [text?, List.findSome?_cons]
  cases l.error? unit with
  | some e => rfl
  | none =>
      simp only
      cases ls.findSome? (Line.error? unit) <;> rfl

theorem text?_map_deepen (unit : List Char) (depth : Int) (ls : List Line) :
    text? unit (ls.map (Line.deepen depth)) = written? unit depth ls := by
  induction ls with
  | nil => rfl
  | cons l ls ih =>
      obtain ⟨level, content⟩ := l
      rw [List.map_cons, text?_cons, ih, written?]
      by_cases hempty : content = []
      · subst hempty
        simp only [Line.deepen, Line.error?, Line.text, List.isEmpty_nil, if_true]
        cases written? unit depth ls <;> rfl
      · have hfull : content.isEmpty = false := by simpa using hempty
        rw [Line.deepen_of_ne_nil hempty]
        simp only [Line.error?, Line.text, hfull, Bool.false_eq_true, if_false, hempty, Text.repeated?]
        cases Text.repeatError? unit.length (depth + level) with
        | some e => rfl
        | none =>
            cases written? unit depth ls with
            | error e => rfl
            | ok code =>
                simp only [Except.map, indent, List.append_assoc, List.singleton_append]
                rfl

theorem text?_eq_ok_iff {unit : List Char} {ls : List Line} {code : List Char} :
    text? unit ls = .ok code ↔ (∀ l ∈ ls, l.error? unit = none) ∧ code = text unit ls := by
  rw [← List.findSome?_eq_none_iff, text?]
  cases ls.findSome? (Line.error? unit) with
  | some e => simp
  | none => simp [eq_comm]

theorem lines_text {unit : List Char} (hunit : '\n' ∉ unit) {ls : List Line}
    (h : ∀ l ∈ ls, '\n' ∉ l.content) : Text.lines (text unit ls) = ls.map (Line.row unit) ++ [[]] := by
  have hrows : ∀ row ∈ ls.map (Line.row unit), '\n' ∉ row := by
    intro row hrow
    obtain ⟨l, hl, rfl⟩ := List.mem_map.mp hrow
    simp only [Line.row]
    split
    · exact List.not_mem_nil
    · rw [List.mem_append, not_or]
      exact ⟨fun hmem => hunit (mem_indent hmem), h l hl⟩
  rw [text_eq_ended, Text.lines_ended, Text.flatMap_lines hrows]

theorem indent_add (unit : List Char) (m n : Nat) :
    indent unit (m + n : Int) = indent unit n ++ indent unit m := by
  have hcount : ((m + n : Int)).toNat = n + m := by omega
  rw [indent, indent, indent, Text.repeated, Text.repeated, Text.repeated, hcount,
    ← List.replicate_append_replicate, List.flatten_append]
  rfl

theorem Line.content_deepen (levels : Int) (l : Line) : (l.deepen levels).content = l.content := by
  simp only [deepen]
  split <;> rfl

theorem Line.error?_deepen (unit : List Char) (levels : Int) (l : Line) :
    (l.deepen levels).error? unit =
      if l.content.isEmpty then none else Text.repeatError? unit.length (levels + l.level) := by
  by_cases hempty : l.content.isEmpty = true
  · simp only [deepen, hempty, if_true, error?]
  · simp only [deepen, hempty, if_false, error?, raise, Bool.false_eq_true, Int.add_comm]

theorem Line.row_deepen_add (unit : List Char) {l : Line} (hl : 0 ≤ l.level) (depth more : Nat) :
    (l.deepen (depth + more : Nat)).row unit = push (indent unit more) ((l.deepen depth).row unit) := by
  obtain ⟨level, content⟩ := l
  by_cases hempty : content = []
  · subst hempty
    rfl
  · have hfull : content.isEmpty = false := by simpa using hempty
    obtain ⟨n, hn⟩ := Int.eq_ofNat_of_zero_le hl
    have hsum : ((depth + more : Nat) : Int) + level = ((depth + n : Nat) : Int) + more := by
      simp only at hn
      omega
    have hdepth : (depth : Int) + level = (depth + n : Nat) := by
      simp only at hn
      omega
    have hrow : (indent unit (depth + n : Nat) ++ content).isEmpty = false := by simp [hempty]
    simp only [Line.deepen_of_ne_nil hempty, Line.row, hfull, Bool.false_eq_true, if_false, hsum, hdepth,
      indent_add, push, hrow, List.append_assoc]

-- Deeper lines that have their text have it at a smaller depth too, with less in front of each row.
theorem text?_deepen_add {unit : List Char} (hunit : '\n' ∉ unit) {ls : List Line}
    (hproper : ∀ l ∈ ls, l.Proper) {depth more : Nat} {code : List Char}
    (h : text? unit (ls.map (Line.deepen (depth + more : Nat))) = .ok code) :
    ∃ code', text? unit (ls.map (Line.deepen depth)) = .ok code' ∧
      Text.lines code = (Text.lines code').map (push (indent unit more)) := by
  obtain ⟨herror, rfl⟩ := text?_eq_ok_iff.mp h
  have hbreaks : ∀ levels : Int, ∀ l ∈ ls.map (Line.deepen levels), '\n' ∉ l.content := by
    intro levels l hl
    obtain ⟨l, hmem, rfl⟩ := List.mem_map.mp hl
    rw [Line.content_deepen]
    exact (hproper l hmem).unbroken
  refine ⟨_, text?_eq_ok_iff.mpr ⟨?_, rfl⟩, ?_⟩
  · intro l hl
    obtain ⟨l, hmem, rfl⟩ := List.mem_map.mp hl
    have hlevel := (hproper l hmem).level
    have hdeeper := herror _ (List.mem_map_of_mem hmem)
    rw [Line.error?_deepen] at hdeeper ⊢
    split_ifs at hdeeper ⊢
    · rfl
    · exact Text.repeatError?_mono (by omega) (by omega) hdeeper
  · rw [lines_text hunit (hbreaks _), lines_text hunit (hbreaks _), List.map_append, List.map_map,
      List.map_map, List.map_map]
    refine congrArg (· ++ _) (List.map_congr_left fun l hl => ?_)
    exact Line.row_deepen_add unit (hproper l hl).level depth more

-- Behind the indentation rows do not depend on the unit.
theorem lines_text_of_units {unit unit' : List Char} (hunit : ∀ c ∈ unit, isIndent c = true)
    (hunit' : ∀ c ∈ unit', isIndent c = true) {ls : List Line} (h : ∀ l ∈ ls, '\n' ∉ l.content) :
    (Text.lines (text unit ls)).map (·.dropWhile isIndent) =
      (Text.lines (text unit' ls)).map (·.dropWhile isIndent) := by
  have hbreak : ∀ {unit : List Char}, (∀ c ∈ unit, isIndent c = true) → '\n' ∉ unit := by
    intro unit hunit hmem
    exact absurd (hunit _ hmem) (by decide)
  rw [lines_text (hbreak hunit) h, lines_text (hbreak hunit') h, List.map_append, List.map_append,
    List.map_map, List.map_map]
  refine congrArg (· ++ _) (List.map_congr_left fun l _ => ?_)
  simp only [Function.comp_apply, Line.dropWhile_row hunit, Line.dropWhile_row hunit']

end Code

end FieldTemplates
