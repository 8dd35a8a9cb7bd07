import FieldTemplates.Code.Buffer
import FieldTemplates.Proofs.Code.Block
import FieldTemplates.Proofs.Code.Levels
import FieldTemplates.Proofs.Code.Margin
import Mathlib.Data.List.Forall2

namespace FieldTemplates.Text

-- The same text with `n` more spaces in front of each of its lines.
def shifted (n : Nat) (cs : List Char) : List Char := unlines ((lines cs).map (spaced n))

theorem dedent_shifted (n : Nat) (cs : List Char) : dedent (shifted n cs) = dedent cs :=
  dedent_indented (isIndent_spaces n) cs

-- Line feeds around a text add empty lines to it.
theorem lines_subset_around {front back : List Char} (hfront : ∀ c ∈ front, c = '\n')
    (hback : ∀ c ∈ back, c = '\n') (cs : List Char) : lines cs ⊆ lines (front ++ (cs ++ back)) := by
  induction front with
  | nil =>
      cases back with
      | nil => rw [List.nil_append, List.append_nil]; exact List.Subset.refl _
      | cons c back =>
          rw [List.nil_append, hback c List.mem_cons_self, lines_append]
          exact List.subset_append_left _ _
  | cons c front ih =>
      obtain ⟨hc, hrest⟩ := List.forall_mem_cons.mp hfront
      rw [List.cons_append, hc, lines_newline]
      exact List.subset_cons_of_subset _ (ih hrest)

theorem repeatError?_eq_none {size count : Nat} (hcount : count ≤ maxLength)
    (hlength : size * count ≤ maxLength) : repeatError? size count = none := by
  have hword : maxWord = 0x7FFFFFFFFFFFFFFF := rfl
  have hmax : maxLength = 0x1FFFFFFFF := rfl
  have hfits : ¬ (maxWord < (count : Int) ∨ (count : Int) < -(maxWord : Int) - 1) := by omega
  have hshort : ¬ maxWord < size * count := by omega
  rw [repeatError?, if_neg hfits, Int.toNat_natCast, if_neg hshort, if_neg hlength.not_gt, ite_self]

end FieldTemplates.Text

namespace FieldTemplates.Code

open Text (spaced)

-- What a row of a block is written as: behind the units for its depth and one more for every four spaces
-- that it starts with, what stands behind these spaces. An empty row is written as an empty line.
inductive WrittenAs (unit : List Char) (depth : Int) : List Char → List Char → Prop
  | empty : WrittenAs unit depth [] ['\n']
  | full {spaces : Nat} {c : Char} {content : List Char} (hc : c ≠ ' ') :
      WrittenAs unit depth (spaced spaces (c :: content))
        (indent unit (depth + (spaces / 4 : Nat)) ++ c :: content ++ ['\n'])

theorem writtenAs_blockLine (unit : List Char) (depth : Int) {row : List Char}
    (h : row = [] ∨ row.dropWhile Text.isIndent ≠ []) :
    WrittenAs unit depth row ((blockLine depth row).text unit) := by
  rcases h with rfl | hne
  · exact .empty
  · obtain ⟨spaces, content, hcontent, rfl⟩ := Text.exists_spaced row
    rw [blockLine_spaced depth spaces hcontent]
    cases content with
    | nil => exact absurd (Text.dropWhile_isIndent_append (Text.isIndent_spaces spaces) []) hne
    | cons c content => exact .full fun hc => hcontent (hc ▸ rfl)

theorem indent_fourSpaces (count : Nat) :
    indent "    ".toList count = List.replicate (4 * count) ' ' := by
  have hunit : "    ".toList = List.replicate 4 ' ' := rfl
  rw [indent, Text.repeated, Int.toNat_natCast, hunit, List.flatten_replicate_replicate, Nat.mul_comm]

-- Rows that are indented by levels of four spaces are written as they are.
theorem WrittenAs.eq_of_even {row line : List Char} (h : WrittenAs "    ".toList 0 row line)
    (heven : 4 ∣ (row.takeWhile (· == ' ')).length) : line = row ++ ['\n'] := by
  cases h with
  | empty => rfl
  | @full spaces c content hc =>
      have hhead : (c :: content).head? ≠ some ' ' := by simpa using hc
      rw [Text.takeWhile_spaced spaces hhead, List.length_replicate] at heven
      obtain ⟨level, rfl⟩ := heven
      have hlevel : (0 : Int) + (4 * level / 4 : Nat) = (level : Nat) := by omega
      rw [hlevel, indent_fourSpaces, spaced]

theorem mem_lines_block {cs row : List Char} (h : row ∈ Text.lines (trimBreaks (Text.dedent cs))) :
    row ∈ Text.lines (Text.dedent cs) := by
  obtain ⟨front, back, hfront, hback, hsplit⟩ := trimBreaks_split (Text.dedent cs)
  rw [hsplit]
  exact Text.lines_subset_around hfront hback _ h

theorem text_block_of_even {cs : List Char}
    (heven : ∀ row ∈ Text.lines (Text.dedent cs), 4 ∣ (row.takeWhile (· == ' ')).length) :
    text "    ".toList (block 0 cs) = trimBreaks (Text.dedent cs) ++ ['\n'] := by
  have hrows : ∀ row ∈ Text.lines (trimBreaks (Text.dedent cs)),
      (blockLine 0 row).text "    ".toList = row ++ ['\n'] := by
    intro row hrow
    have hline := mem_lines_block hrow
    exact (writtenAs_blockLine _ 0 (Text.mem_lines_dedent hline)).eq_of_even (heven row hline)
  rw [text, block, List.flatMap_map, List.flatMap_congr hrows]
  exact Text.ended_lines _

theorem error?_of_mem_block {unit cs : List Char} (hunit : unit.length = 4)
    (hlength : cs.length ≤ Text.maxLength) {l : Line} (h : l ∈ block 0 cs) : l.error? unit = none := by
  obtain ⟨hlow, hhigh⟩ := block_level h
  obtain ⟨level, hlevel⟩ := Int.eq_ofNat_of_zero_le hlow
  have hcount : cs.count ' ' ≤ cs.length := List.count_le_length
  have hroom : 4 * level ≤ Text.maxLength := by omega
  rw [Line.error?, hlevel, hunit, Text.repeatError?_eq_none (by omega) hroom, ite_self]

namespace Buffer

theorem text_block (b : Buffer) (cs : List Char) :
    (b.block cs).text = b.text ++ Code.text b.unit (Code.block b.depth cs) := by
  rw [text, block, push, List.flatMap_append, List.flatMap_map]
  rfl

theorem error?_block (b : Buffer) (cs : List Char) :
    (b.block cs).error? = b.error?.or ((Code.block b.depth cs).findSome? (Line.error? b.unit)) := by
  rw [error?, block, push, List.findSome?_append, List.findSome?_map]
  rfl

-- A block takes no notice of the margin of its text. Each row behind the margin is written at its depth,
-- and where all rows stand at full levels the text is written as it is, unless memory does not hold it.
theorem block_free_of_margin (b : Buffer) (cs : List Char) :
    (∀ n, b.block (Text.shifted n cs) = b.block cs) ∧
    (∃ written : List (List Char), (b.block cs).text = b.text ++ written.flatten ∧
      List.Forall₂ (WrittenAs b.unit b.depth) (Text.lines (trimBreaks (Text.dedent cs))) written) ∧
    (b.unit = "    ".toList → b.depth = 0 →
      (∀ row ∈ Text.lines (Text.dedent cs), 4 ∣ (row.takeWhile (· == ' ')).length) →
      (b.block cs).text = b.text ++ (trimBreaks (Text.dedent cs) ++ ['\n']) ∧
      (cs.length ≤ Text.maxLength → (b.block cs).error? = b.error?)) := by
  refine ⟨fun n => ?_, ⟨(Code.block b.depth cs).map (Line.text b.unit), ?_, ?_⟩,
    fun hunit hdepth heven => ?_⟩
  · rw [block, block, Code.block, Code.block, Text.dedent_shifted]
  · rw [text_block, Code.text, List.flatMap_def]
  · rw [Code.block, List.map_map, List.forall₂_map_right_iff, List.forall₂_same]
    exact fun row hrow => writtenAs_blockLine _ _ (Text.mem_lines_dedent (mem_lines_block hrow))
  · refine ⟨by rw [text_block, hunit, hdepth, text_block_of_even heven], fun hlength => ?_⟩
    have hnone : (Code.block b.depth cs).findSome? (Line.error? b.unit) = none := by
      rw [List.findSome?_eq_none_iff, hunit, hdepth]
      exact fun l hl => error?_of_mem_block rfl hlength hl
    rw [error?_block, hnone, Option.or_none]

-- A template with a margin, a row of tabs and spaces in it, and the last row short of the margin.
def ifTemplate : List Char :=
  "\n        if ( $a ) \x7b\n            echo $a;\n\t \n        \x7d\n    ".toList

theorem block_free_of_margin_of_ifTemplate :
    let b : Buffer := { chunks := [.line ⟨1, "/* a */".toList⟩] }
    (∀ row ∈ Text.lines (Text.dedent ifTemplate), 4 ∣ (row.takeWhile (· == ' ')).length) ∧
      (b.block (Text.shifted 3 ifTemplate)).text =
        "    /* a */\nif ( $a ) \x7b\n    echo $a;\n\n\x7d\n".toList := by
  intro b
  have heven : ∀ row ∈ Text.lines (Text.dedent ifTemplate), 4 ∣ (row.takeWhile (· == ' ')).length := by
    decide
  obtain ⟨hshifted, -, hwritten⟩ := block_free_of_margin b ifTemplate
  refine ⟨heven, ?_⟩
  rw [hshifted, (hwritten rfl rfl heven).1]
  decide

end Buffer

end FieldTemplates.Code
