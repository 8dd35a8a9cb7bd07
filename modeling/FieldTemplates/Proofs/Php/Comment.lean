import FieldTemplates.Php.Comment
import FieldTemplates.Proofs.Php.Lexer
import Mathlib.Data.List.Chain

namespace FieldTemplates.Php

-- `a` is nowhere followed by `b`.
def Apart (a b : Char) (cs : List Char) : Prop := cs.IsChain fun c d => ¬(c = a ∧ d = b)

def Unbroken (cs : List Char) : Prop := ∀ c ∈ cs, isBreak c = false

-- A text in which `a` is nowhere followed by `b` does not hold the two one after the other.
theorem Apart.not_infix {a b : Char} {cs : List Char} (h : Apart a b cs) : ¬ [a, b] <:+: cs := by
  intro hinfix
  have hpair := h.infix hinfix
  obtain ⟨hab, -⟩ := List.isChain_cons_cons.mp hpair
  exact hab ⟨rfl, rfl⟩

theorem apart_of_not_infix {a b : Char} {cs : List Char} (h : ¬[a, b] <:+: cs) : Apart a b cs := by
  induction cs with
  | nil => exact List.isChain_nil
  | cons c cs ih =>
      have htail : ¬[a, b] <:+: cs := fun hmeet => h (hmeet.trans (List.suffix_cons c cs).isInfix)
      refine List.isChain_cons.mpr ⟨?_, ih htail⟩
      rintro d hd ⟨rfl, rfl⟩
      obtain ⟨rest, rfl⟩ := List.head?_eq_some_iff.mp hd
      exact h (List.prefix_append [c, d] rest).isInfix

theorem apart_of_notMem {a b : Char} {cs : List Char} (h : a ∉ cs) : Apart a b cs :=
  apart_of_not_infix fun hmeet => h (hmeet.subset List.mem_cons_self)

theorem joinLines_unbroken (cs : List Char) : Unbroken (joinLines cs) := by
  have hspace : isBreak ' ' = false := by decide
  fun_induction joinLines cs with
  | case1 => intro c hc; cases hc
  | case2 c hb =>
      intro d hd
      rw [List.mem_singleton.mp hd]
      exact hspace
  | case3 c hb =>
      intro d hd
      rw [List.mem_singleton.mp hd]
      simpa using hb
  | case4 c d cs hb hd ih => exact ih
  | case5 c d cs hb hd ih =>
      intro e he
      rcases List.mem_cons.mp he with rfl | he
      · exact hspace
      · exact ih e he
  | case6 c d cs hb ih =>
      intro e he
      rcases List.mem_cons.mp he with rfl | he
      · simpa using hb
      · exact ih e he

theorem head?_part (a b : Char) (cs : List Char) : (part a b cs).head? = cs.head? := by
  fun_cases part a b cs <;> simp_all

theorem mem_part {a b e : Char} {cs : List Char} (he : e ∈ part a b cs) : e = ' ' ∨ e ∈ cs := by
  fun_induction part a b cs with
  | case1 => cases he
  | case2 c => exact .inr he
  | case3 c d cs hcd ih =>
      rcases List.mem_cons.mp he with rfl | he
      · exact .inr List.mem_cons_self
      · rcases List.mem_cons.mp he with rfl | he
        · exact .inl rfl
        · exact (ih he).imp_right (List.mem_cons_of_mem _)
  | case4 c d cs hcd ih =>
      rcases List.mem_cons.mp he with rfl | he
      · exact .inr List.mem_cons_self
      · exact (ih he).imp_right (List.mem_cons_of_mem _)

theorem part_unbroken {a b : Char} {cs : List Char} (h : Unbroken cs) :
    Unbroken (part a b cs) := by
  intro e he
  rcases mem_part he with rfl | he
  · decide
  · exact h e he

-- Only pairs that stood in the text before are left, and pairs with a space.
theorem part_isChain {R : Char → Char → Prop} {a b : Char} {cs : List Char}
    (hcs : cs.IsChain fun c d => (c = a ∧ d = b) ∨ R c d)
    (hspace : ∀ c, R c ' ' ∧ R ' ' c) : (part a b cs).IsChain R := by
  fun_induction part a b cs with
  | case1 => exact List.isChain_nil
  | case2 c => exact List.isChain_singleton c
  | case3 c d cs hcd ih =>
      obtain ⟨-, htail⟩ := List.isChain_cons_cons.mp hcs
      refine List.isChain_cons_cons.mpr ⟨(hspace c).1, List.isChain_cons.mpr ⟨?_, ih htail⟩⟩
      intro e _
      exact (hspace e).2
  | case4 c d cs hcd ih =>
      obtain ⟨hhead, htail⟩ := List.isChain_cons_cons.mp hcs
      refine List.isChain_cons.mpr ⟨?_, ih htail⟩
      intro e he
      rw [head?_part] at he
      obtain rfl : d = e := Option.some.inj he
      exact hhead.resolve_left hcd

theorem apart_part (a b : Char) (ha : a ≠ ' ') (hb : b ≠ ' ') (cs : List Char) :
    Apart a b (part a b cs) := by
  refine part_isChain ?_ ?_
  · exact List.Pairwise.isChain (List.pairwise_of_forall fun _ _ => Classical.em _)
  · intro c
    exact ⟨fun h => hb h.2.symm, fun h => ha h.1.symm⟩

theorem Apart.part {a b : Char} {cs : List Char} (h : Apart a b cs) (ha : a ≠ ' ') (hb : b ≠ ' ')
    (c d : Char) : Apart a b (part c d cs) := by
  refine part_isChain (List.IsChain.imp (fun _ _ hr => .inr hr) h) ?_
  intro e
  exact ⟨fun h => hb h.2.symm, fun h => ha h.1.symm⟩

theorem comment_unbroken (cs : List Char) : Unbroken (comment cs) :=
  part_unbroken (part_unbroken (joinLines_unbroken cs))

theorem newline_notMem_comment (cs : List Char) : '\n' ∉ comment cs := by
  intro hmem
  have hbreak : isBreak '\n' = false := comment_unbroken cs '\n' hmem
  cases hbreak

theorem comment_apart_star (cs : List Char) : Apart '*' '/' (comment cs) :=
  (apart_part '*' '/' (by decide) (by decide) _).part (by decide) (by decide) _ _

theorem comment_apart_question (cs : List Char) : Apart '?' '>' (comment cs) :=
  apart_part '?' '>' (by decide) (by decide) _

-- A reader that `a` puts on the alert and that only `b` disturbs then takes in a text in which the
-- two never meet.
theorem scan_apart (calm alert : List Char → State) {a b : Char} (P : Char → Prop)
    (hcalm : ∀ w c cs, c ≠ a → P c → scan (calm w) (c :: cs) = scan (calm (w ++ [c])) cs)
    (halert : ∀ w cs, scan (calm w) (a :: cs) = scan (alert w) cs)
    (hback : ∀ w c cs, c ≠ b → scan (alert w) (c :: cs) = scan (calm (w ++ [a])) (c :: cs))
    {text : List Char} (happart : Apart a b text) (htext : ∀ c ∈ text, P c)
    {c : Char} (hc : c ≠ b) (w rest : List Char) :
    scan (calm w) (text ++ c :: rest) = scan (calm (w ++ text)) (c :: rest) := by
  induction text generalizing w with
  | nil => rw [List.append_nil, List.nil_append]
  | cons d text ih =>
      obtain ⟨hhead, htail⟩ := List.isChain_cons.mp happart
      have hrest := ih htail (fun e he => htext e (List.mem_cons_of_mem _ he)) (w ++ [d])
      rw [List.append_assoc, List.singleton_append] at hrest
      rw [List.cons_append, ← hrest]
      by_cases hd : d = a
      · subst hd
        rw [halert]
        cases text with
        | nil => exact hback w c rest hc
        | cons e text => exact hback w e _ fun h => hhead e rfl ⟨rfl, h⟩
      · exact hcalm w d _ hd (htext d List.mem_cons_self)

theorem scan_of_step {s t : State} {c : Char} (h : step s c = some ([], t)) (cs : List Char) :
    scan s (c :: cs) = scan t cs := by
  rw [scan, h, Option.bind_some]
  cases scan t cs with
  | none => rfl
  | some q => rfl

theorem scan_cons_congr {s t : State} {c : Char} (h : step s c = step t c) (cs : List Char) :
    scan s (c :: cs) = scan t (c :: cs) := by
  rw [scan, scan, h]

theorem scan_comment (cs : List Char) {c : Char} (hc : c ≠ '/') (w rest : List Char) :
    scan (.comment w) (comment cs ++ c :: rest) = scan (.comment (w ++ comment cs)) (c :: rest) := by
  refine scan_apart .comment .star (fun _ => True) ?_ ?_ ?_ (comment_apart_star cs)
    (fun _ _ => trivial) hc w rest
  · intro w d ds hd _
    exact scan_of_step (by simp only [step, hd, ite_false]) ds
  · intro w ds
    exact scan_of_step (by simp only [step, ite_true]) ds
  · intro w d ds hd
    refine scan_cons_congr ?_ ds
    simp only [step, hd, ite_false, List.append_assoc, List.singleton_append]

-- A line without line ends, in which no closing tag can be read.
theorem scan_remark_of_apart {text : List Char} (htext : Unbroken text)
    (happart : Apart '?' '>' text) {c : Char} (hc : c ≠ '>') (w rest : List Char) :
    scan (.remark w) (text ++ c :: rest) = scan (.remark (w ++ text)) (c :: rest) := by
  refine scan_apart .remark .remarkQuestion (fun c => isBreak c = false) ?_ ?_ ?_ happart htext hc
    w rest
  · intro w d ds hd hb
    simp only [isBreak, Bool.or_eq_false_iff, beq_eq_false_iff_ne] at hb
    exact scan_of_step (by simp only [step, hb.1, hb.2, hd, or_self, ite_false]) ds
  · intro w ds
    exact scan_of_step (by simp [step]) ds
  · intro w d ds hd
    refine scan_cons_congr ?_ ds
    simp only [step, hd, ite_false, List.append_assoc, List.singleton_append]

theorem scan_remark (cs : List Char) {c : Char} (hc : c ≠ '>') (w rest : List Char) :
    scan (.remark w) (comment cs ++ c :: rest) = scan (.remark (w ++ comment cs)) (c :: rest) :=
  scan_remark_of_apart (comment_unbroken cs) (comment_apart_question cs) hc w rest

-- A text that is no danger in a comment as it is.
structure Harmless (cs : List Char) : Prop where
  unbroken : Unbroken cs
  star : Apart '*' '/' cs
  question : Apart '?' '>' cs

theorem joinLines_of_unbroken {cs : List Char} (h : Unbroken cs) : joinLines cs = cs := by
  fun_induction joinLines cs with
  | case1 | case3 => rfl
  | case2 c hbreak => simp [h c] at hbreak
  | case4 c d cs hbreak | case5 c d cs hbreak => simp [h c] at hbreak
  | case6 c d cs hbreak ih => rw [ih fun e he => h e (List.mem_cons_of_mem _ he)]

theorem part_of_apart {a b : Char} {cs : List Char} (h : Apart a b cs) : part a b cs = cs := by
  fun_induction part a b cs with
  | case1 | case2 => rfl
  | case3 c d cs hmeet => exact absurd hmeet (List.isChain_cons_cons.mp h).1
  | case4 c d cs hmeet ih => rw [ih (List.isChain_cons_cons.mp h).2]

theorem comment_of_harmless {cs : List Char} (h : Harmless cs) : comment cs = cs := by
  rw [comment, joinLines_of_unbroken h.unbroken, part_of_apart h.star, part_of_apart h.question]

theorem harmless_of_notMem {cs : List Char} (hbreak : Unbroken cs) (hstar : '*' ∉ cs)
    (hquestion : '?' ∉ cs) : Harmless cs :=
  ⟨hbreak, apart_of_notMem hstar, apart_of_notMem hquestion⟩

-- All of a text but its spaces and line ends.
def ink (cs : List Char) : List Char := cs.filter fun c => !isBreak c && c != ' '

theorem ink_cons_congr (c : Char) {cs ds : List Char} (h : ink cs = ink ds) :
    ink (c :: cs) = ink (c :: ds) := by
  simp only [ink, List.filter_cons] at h ⊢
  rw [h]

theorem ink_joinLines (cs : List Char) : ink (joinLines cs) = ink cs := by
  fun_induction joinLines cs with
  | case1 | case3 => rfl
  | case2 c hbreak => simp [ink, hbreak]
  | case4 c d cs hbreak hnext ih => simpa [ink, hbreak] using ih
  | case5 c d cs hbreak hnext ih => simpa [ink, hbreak] using ih
  | case6 c d cs hbreak ih => exact ink_cons_congr c ih

theorem ink_part (a b : Char) (cs : List Char) : ink (part a b cs) = ink cs := by
  fun_induction part a b cs with
  | case1 | case2 => rfl
  | case3 c d cs hmeet ih =>
      have hspace : ink (' ' :: part a b (d :: cs)) = ink (d :: cs) := ih
      exact ink_cons_congr c hspace
  | case4 c d cs hmeet ih => exact ink_cons_congr c ih

-- What is done to a text for a comment is done with spaces and line ends.
theorem ink_comment (cs : List Char) : ink (comment cs) = ink cs := by
  rw [comment, ink_part, ink_part, ink_joinLines]

end FieldTemplates.Php
