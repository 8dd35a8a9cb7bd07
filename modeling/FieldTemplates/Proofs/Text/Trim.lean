import FieldTemplates.Text.Blank
import Mathlib.Data.List.DropRight
import Mathlib.Data.List.TakeWhile
import Mathlib.Tactic.SplitIfs

namespace FieldTemplates.Text

-- Trimming stops at what is not blank.
theorem trimLeft_append_cons {c : Char} (hc : isBlank c = false) (front back : List Char) :
    trimLeft (front ++ c :: back) = trimLeft front ++ c :: back := by
  have hstop : (c :: back).dropWhile isBlank = c :: back := List.dropWhile_cons_of_neg (by simp [hc])
  rw [trimLeft, trimLeft, List.dropWhile_append, hstop]
  split_ifs with hempty
  · rw [List.isEmpty_iff.mp hempty, List.nil_append]
  · rfl

theorem trimRight_append_cons {c : Char} (hc : isBlank c = false) (front back : List Char) :
    trimRight (front ++ c :: back) = front ++ c :: trimRight back := by
  have hreverse : (front ++ c :: back).reverse = back.reverse ++ c :: front.reverse := by simp
  have hleft := trimLeft_append_cons hc back.reverse front.reverse
  rw [trimLeft, trimLeft, ← hreverse] at hleft
  rw [trimRight, hleft, trimRight]
  simp

theorem trimRight_concat {c : Char} (hc : isBlank c = false) (cs : List Char) :
    trimRight (cs ++ [c]) = cs ++ [c] := trimRight_append_cons hc cs []

-- What stands between two characters that are not blank is kept.
theorem trim_between {c d : Char} (hc : isBlank c = false) (hd : isBlank d = false)
    (front inside back : List Char) :
    trim (front ++ c :: (inside ++ d :: back)) =
      trimLeft front ++ c :: (inside ++ d :: trimRight back) := by
  rw [trim, trimLeft_append_cons hc, ← List.cons_append, ← List.append_assoc,
    trimRight_append_cons hd, List.append_assoc, List.cons_append]

theorem trimRight_eq_nil_iff {cs : List Char} :
    trimRight cs = [] ↔ ∀ c ∈ cs, isBlank c = true := by
  rw [trimRight, List.reverse_eq_nil_iff, List.dropWhile_eq_nil_iff]
  simp only [List.mem_reverse]

theorem trimRight_trimRight (cs : List Char) : trimRight (trimRight cs) = trimRight cs := by
  rw [trimRight, trimRight, List.reverse_reverse, List.dropWhile_idempotent]

theorem getLast?_trimRight {cs : List Char} {c : Char} (h : (trimRight cs).getLast? = some c) :
    isBlank c = false := by
  rw [trimRight, List.getLast?_reverse] at h
  have hhead := List.head?_dropWhile_not isBlank cs.reverse
  rw [h] at hhead
  simpa using hhead

theorem trim_eq_nil_iff {cs : List Char} : trim cs = [] ↔ ∀ c ∈ cs, isBlank c = true := by
  rw [trim, trimRight_eq_nil_iff, trimLeft]
  constructor
  · intro h c hc
    rw [← List.takeWhile_append_dropWhile (p := isBlank) (l := cs)] at hc
    rcases List.mem_append.mp hc with hfront | hrest
    · exact (List.all_eq_true.mp List.all_takeWhile) c hfront
    · exact h c hrest
  · intro h c hc
    exact h c ((List.dropWhile_sublist isBlank).subset hc)

end FieldTemplates.Text
