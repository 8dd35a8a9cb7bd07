import FieldTemplates.Proofs.Php.Comment
import FieldTemplates.Text.Blank

namespace FieldTemplates.Php

open Text (isBlank)

theorem unbroken_iff {cs : List Char} : Unbroken cs ↔ '\r' ∉ cs ∧ '\n' ∉ cs := by
  constructor
  · intro h
    refine ⟨fun hmem => ?_, fun hmem => ?_⟩
    · exact absurd (h _ hmem) (by decide)
    · exact absurd (h _ hmem) (by decide)
  · rintro ⟨hreturn, hfeed⟩ c hc
    have hr : c ≠ '\r' := fun h => hreturn (h ▸ hc)
    have hf : c ≠ '\n' := fun h => hfeed (h ▸ hc)
    simp [isBreak, hr, hf]

theorem harmless_iff {cs : List Char} :
    Harmless cs ↔ '\r' ∉ cs ∧ '\n' ∉ cs ∧ ¬['*', '/'] <:+: cs ∧ ¬['?', '>'] <:+: cs := by
  constructor
  · intro h
    obtain ⟨hreturn, hfeed⟩ := unbroken_iff.mp h.unbroken
    exact ⟨hreturn, hfeed, h.star.not_infix, h.question.not_infix⟩
  · rintro ⟨hreturn, hfeed, hstar, hquestion⟩
    exact ⟨unbroken_iff.mpr ⟨hreturn, hfeed⟩, apart_of_not_infix hstar,
      apart_of_not_infix hquestion⟩

theorem harmless_comment (cs : List Char) : Harmless (comment cs) :=
  ⟨comment_unbroken cs, comment_apart_star cs, comment_apart_question cs⟩

theorem comment_eq_self_iff {cs : List Char} : comment cs = cs ↔ Harmless cs := by
  constructor
  · intro h
    rw [← h]
    exact harmless_comment cs
  · exact comment_of_harmless

-- Spaces and line ends are blank, so more than those can be left out.
theorem nonblank_ink (cs : List Char) :
    (ink cs).filter (!isBlank ·) = cs.filter (!isBlank ·) := by
  rw [ink, List.filter_filter]
  apply List.filter_congr
  intro c _
  by_cases hblank : isBlank c
  · simp [hblank]
  · have hfeed : c ≠ '\n' := fun h => hblank (h ▸ by decide)
    have hreturn : c ≠ '\r' := fun h => hblank (h ▸ by decide)
    have hspace : c ≠ ' ' := fun h => hblank (h ▸ by decide)
    simp [hblank, isBreak, hfeed, hreturn, hspace]

-- No line end, end of a comment or end of code is left; a text without them is left alone, so making
-- it harmless once more does nothing; and all that is not blank stays as it was.
theorem comment_neutral (cs : List Char) :
    ('\r' ∉ comment cs ∧ '\n' ∉ comment cs ∧ ¬['*', '/'] <:+: comment cs ∧
        ¬['?', '>'] <:+: comment cs) ∧
      (comment cs = cs ↔
        '\r' ∉ cs ∧ '\n' ∉ cs ∧ ¬['*', '/'] <:+: cs ∧ ¬['?', '>'] <:+: cs) ∧
      comment (comment cs) = comment cs ∧
      (comment cs).filter (!isBlank ·) = cs.filter (!isBlank ·) := by
  refine ⟨harmless_iff.mp (harmless_comment cs), ?_, ?_, ?_⟩
  · exact comment_eq_self_iff.trans harmless_iff
  · exact comment_of_harmless (harmless_comment cs)
  · rw [← nonblank_ink, ink_comment, nonblank_ink]

-- The passes meet: a line end between the marks becomes the space that parts them.
example : comment "**/ *\r\n/ *?>/".toList = "** / * / *? >/".toList := by decide

end FieldTemplates.Php
