import FieldTemplates.Proofs.Document.Tidy

namespace FieldTemplates.Document

open Text (isBlank trimRight)

-- The lines that say something.
def textLines (ls : List (List Char)) : List (List Char) := ls.filter (!isBlankLine ·)

-- Blank lines that cannot be made more: in front of them and behind them stand lines that say something,
-- or none. There may be no blank line at all between the two.
structure Gap (front gap back : List (List Char)) : Prop where
  blank : ∀ l ∈ gap, isBlankLine l = true
  front : ∀ l, front.getLast? = some l → isBlankLine l = false
  back : ∀ l, back.head? = some l → isBlankLine l = false

theorem isBlankLine_trimRight (l : List Char) : isBlankLine (trimRight l) = isBlankLine l := by
  rw [← isEmpty_trimRight, Text.trimRight_trimRight, isEmpty_trimRight]

theorem textLines_squeeze (blanks : Nat) (ls : List (List Char)) :
    textLines (squeeze blanks ls) = (textLines ls).map trimRight := by
  induction ls generalizing blanks with
  | nil => rfl
  | cons l ls ih =>
      cases hl : isBlankLine l with
      | false =>
          have hkept : isBlankLine (trimRight l) = false := by rw [isBlankLine_trimRight, hl]
          rw [squeeze_text blanks hl, textLines, List.filter_cons_of_pos (by rw [hkept]; rfl), textLines,
            List.filter_cons_of_pos (by rw [hl]; rfl), List.map_cons]
          exact congrArg _ (ih 0)
      | true =>
          have hdropped : textLines (l :: ls) = textLines ls := List.filter_cons_of_neg (by simp [hl])
          rw [squeeze_blank blanks hl, hdropped]
          split_ifs
          · exact ih (blanks + 1)
          · exact ih (blanks + 1)

theorem flush_squeeze (blanks : Nat) {ls : List (List Char)} {l : List Char} (hl : l ∈ squeeze blanks ls) :
    trimRight l = l := by
  induction ls generalizing blanks with
  | nil => exact absurd hl List.not_mem_nil
  | cons first ls ih =>
      rw [squeeze] at hl
      split_ifs at hl
      · rcases List.mem_cons.mp hl with rfl | hl
        · rfl
        · exact ih _ hl
      · exact ih _ hl
      · rcases List.mem_cons.mp hl with rfl | hl
        · exact Text.trimRight_trimRight first
        · exact ih _ hl

-- Of a run of blank lines as many are left as make up two with those before it.
theorem squeeze_run (blanks : Nat) {gap : List (List Char)} (hgap : ∀ l ∈ gap, isBlankLine l = true)
    (ls : List (List Char)) : squeeze blanks (gap ++ ls) =
      List.replicate (min gap.length (2 - blanks)) [] ++ squeeze (blanks + gap.length) ls := by
  induction gap generalizing blanks with
  | nil => simp
  | cons l gap ih =>
      obtain ⟨hl, hrest⟩ := List.forall_mem_cons.mp hgap
      have hlater : blanks + 1 + gap.length = blanks + (gap.length + 1) := by omega
      rw [List.cons_append, squeeze_blank blanks hl, ih (blanks + 1) hrest, List.length_cons, hlater]
      split_ifs with hfew
      · have hcount : min (gap.length + 1) (2 - blanks) = min gap.length (2 - (blanks + 1)) + 1 := by omega
        rw [hcount, List.replicate_succ, List.cons_append]
      · have hnone : min (gap.length + 1) (2 - blanks) = min gap.length (2 - (blanks + 1)) := by omega
        rw [hnone]

-- Where no blank line follows, it does not matter how many came before.
theorem squeeze_of_back {ls : List (List Char)} (h : ∀ l, ls.head? = some l → isBlankLine l = false)
    (blanks : Nat) : squeeze blanks ls = squeeze 0 ls := by
  cases ls with
  | nil => rfl
  | cons l ls => rw [squeeze_text blanks (h l rfl), squeeze_text 0 (h l rfl)]

-- A line that says something starts the count anew.
theorem squeeze_of_front {front : List (List Char)}
    (h : ∀ l, front.getLast? = some l → isBlankLine l = false) (ls : List (List Char)) :
    squeeze 0 (front ++ ls) = squeeze 0 front ++ squeeze 0 ls := by
  rcases List.eq_nil_or_concat front with rfl | ⟨before, last, rfl⟩
  · rfl
  · have hlast : isBlankLine last = false := h last (by simp)
    obtain ⟨after, hafter⟩ := squeeze_append 0 before
    rw [List.concat_eq_append, List.append_assoc, hafter, hafter, List.singleton_append,
      squeeze_text after hlast, squeeze_text after hlast, List.append_assoc]
    rfl

theorem squeeze_gap {front gap back : List (List Char)} (h : Gap front gap back) :
    squeeze 0 (front ++ gap ++ back) =
      squeeze 0 front ++ List.replicate (min gap.length 2) [] ++ squeeze 0 back := by
  rw [List.append_assoc, squeeze_of_front h.front, squeeze_run 0 h.blank, squeeze_of_back h.back,
    List.append_assoc]

theorem getLast?_squeeze {front : List (List Char)}
    (h : ∀ l, front.getLast? = some l → isBlankLine l = false) (l : List Char)
    (hl : (squeeze 0 front).getLast? = some l) : isBlankLine l = false := by
  rcases List.eq_nil_or_concat front with rfl | ⟨before, last, rfl⟩
  · cases hl
  · have hlast : isBlankLine last = false := h last (by simp)
    obtain ⟨after, hafter⟩ := squeeze_append 0 before
    rw [List.concat_eq_append, hafter, squeeze_text after hlast, squeeze, List.getLast?_concat] at hl
    rw [← Option.some.inj hl, isBlankLine_trimRight, hlast]

theorem head?_squeeze {back : List (List Char)}
    (h : ∀ l, back.head? = some l → isBlankLine l = false) (l : List Char)
    (hl : (squeeze 0 back).head? = some l) : isBlankLine l = false := by
  cases back with
  | nil => cases hl
  | cons first back =>
      have hfirst : isBlankLine first = false := h first rfl
      rw [squeeze_text 0 hfirst, List.head?_cons] at hl
      rw [← Option.some.inj hl, isBlankLine_trimRight, hfirst]

-- The gap that is left stands between the lines that the gap stood between.
theorem Gap.squeezed {front gap back : List (List Char)} (h : Gap front gap back) (count : Nat) :
    Gap (squeeze 0 front) (List.replicate count []) (squeeze 0 back) where
  blank l hl := by
    rw [List.eq_of_mem_replicate hl]
    rfl
  front := getLast?_squeeze h.front
  back := head?_squeeze h.back

-- Two blank lines are as good as more.
theorem squeeze_full {blanks : Nat} (h : 2 ≤ blanks) (ls : List (List Char)) :
    squeeze blanks ls = squeeze 2 ls := by
  induction ls generalizing blanks with
  | nil => rfl
  | cons l ls ih =>
      cases hl : isBlankLine l with
      | false => rw [squeeze_text blanks hl, squeeze_text 2 hl]
      | true =>
          rw [squeeze_blank blanks hl, squeeze_blank 2 hl, if_neg (by omega), if_neg (by omega),
            ih (by omega), ih (by omega : 2 ≤ 2 + 1)]

theorem squeeze_squeeze (blanks : Nat) (ls : List (List Char)) :
    squeeze blanks (squeeze blanks ls) = squeeze blanks ls := by
  induction ls generalizing blanks with
  | nil => rfl
  | cons l ls ih =>
      cases hl : isBlankLine l with
      | false =>
          rw [squeeze_text blanks hl, squeeze_text blanks (by rw [isBlankLine_trimRight, hl]), ih,
            Text.trimRight_trimRight]
      | true =>
          rw [squeeze_blank blanks hl]
          split_ifs with hfew
          · rw [squeeze_blank blanks (by rfl), if_pos hfew, ih]
          · have hfull : squeeze (blanks + 1) ls = squeeze blanks ls := by
              rw [squeeze_full (by omega), squeeze_full (by omega : 2 ≤ blanks)]
            rw [hfull, ih]

theorem length_squeeze_le (blanks : Nat) (ls : List (List Char)) :
    (squeeze blanks ls).length ≤ ls.length := by
  induction ls generalizing blanks with
  | nil => exact le_rfl
  | cons l ls ih =>
      have hrest := ih (blanks + 1)
      have hanew := ih 0
      rw [squeeze]
      split_ifs <;> simp only [List.length_cons] <;> omega

-- Three blank lines in a row would become fewer.
theorem no_long_gap {ls front gap back : List (List Char)}
    (hls : squeeze 0 ls = front ++ gap ++ back) (hgap : ∀ l ∈ gap, isBlankLine l = true) :
    gap.length ≤ 2 := by
  have hsame := squeeze_squeeze 0 ls
  obtain ⟨after, hafter⟩ := squeeze_append 0 front
  rw [hls, List.append_assoc, hafter, squeeze_run after hgap] at hsame
  have hlength := congrArg List.length hsame
  have hfront := length_squeeze_le 0 front
  have hback := length_squeeze_le (after + gap.length) back
  simp only [List.length_append, List.length_replicate] at hlength
  omega

-- How the lines of a finished document come from those of the document.
structure Finished (ls kept : List (List Char)) : Prop where
  flush : ∀ l ∈ kept, ∀ c, l.getLast? = some c → isBlank c = false
  sparse : ∀ front gap back, kept = front ++ gap ++ back → (∀ l ∈ gap, isBlankLine l = true) →
    gap.length ≤ 2
  inOrder : textLines kept = (textLines ls).map trimRight
  gaps : ∀ front gap back, ls = front ++ gap ++ back → Gap front gap back →
    ∃ front' back', kept = front' ++ List.replicate (min gap.length 2) [] ++ back' ∧
      Gap front' (List.replicate (min gap.length 2) []) back' ∧
      textLines front' = (textLines front).map trimRight ∧
      textLines back' = (textLines back).map trimRight

theorem finished_squeeze (ls : List (List Char)) : Finished ls (squeeze 0 ls) where
  flush l hl c hc := by
    rw [← flush_squeeze 0 hl] at hc
    exact Text.getLast?_trimRight hc
  sparse front gap back hkept hgap := no_long_gap hkept hgap
  inOrder := textLines_squeeze 0 ls
  gaps front gap back hls hgap :=
    ⟨squeeze 0 front, squeeze 0 back, by rw [hls, squeeze_gap hgap], hgap.squeezed _,
      textLines_squeeze 0 front, textLines_squeeze 0 back⟩

-- No line of a finished document ends in a blank, and there are no three blank lines in a row. The lines
-- that say something are those of the document, trimmed and in their order; a gap of any length is two
-- empty lines or as many as it had, between the same lines. Finishing the document again leaves it as it is.
theorem tidy_finishes (cs : List Char) :
    Finished (Text.lines cs) (Text.lines (tidy cs)) ∧ tidy (tidy cs) = tidy cs := by
  rw [lines_tidy]
  refine ⟨finished_squeeze (Text.lines cs), ?_⟩
  rw [tidy, lines_tidy, squeeze_squeeze, tidy]

example : tidy "a \t\n\n \n\u3000\n\n b\n\n".toList = "a\n\n\n b\n\n".toList := by decide

end FieldTemplates.Document
