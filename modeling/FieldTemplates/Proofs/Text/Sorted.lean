import FieldTemplates.Text.Half
import Mathlib.Data.List.Basic
import Mathlib.Data.String.Basic

namespace FieldTemplates.Text

namespace Half

theorem not_isHalf_toNat (c : Char) : isHalf c.toNat = false := by
  have hvalid : c.toNat < 0xD800 ∨ 0xDFFF < c.toNat ∧ c.toNat < 0x110000 := c.valid
  simp only [isHalf, isHigh, isLow, Bool.or_eq_false_iff, Bool.and_eq_false_iff, decide_eq_false_iff_not]
  omega

-- A half is held by the character that stands for it.
theorem toNat_of_half {c : Char} {half : Nat} (h : half? c = some half) :
    isHalf half = true ∧ 0x100000 + half = c.toNat := by
  simp only [half?] at h
  split at h
  · rename_i hreserved
    obtain rfl := Option.some.inj h
    simp only [isReserved, Bool.and_eq_true, decide_eq_true_eq] at hreserved
    simp only [isHalf, isHigh, isLow, Bool.or_eq_true, Bool.and_eq_true, decide_eq_true_eq]
    omega
  · cases h

theorem standIn_of_half {c : Char} {half : Nat} (h : half? c = some half) : standIn half = c := by
  rw [standIn, (toNat_of_half h).2, Char.ofNat_toNat]

theorem hold_of_half {c : Char} {half : Nat} (h : half? c = some half) : hold half = [c] := by
  rw [hold, if_pos (toNat_of_half h).1, standIn_of_half h]

theorem hold_of_whole {c : Char} (h : half? c = none) : hold c.toNat = [c] := by
  have hreserved : isReserved c.toNat ≠ true := fun hr => by
    rw [half?, if_pos hr] at h
    cases h
  rw [hold, if_neg (by rw [not_isHalf_toNat]; exact Bool.false_ne_true), if_neg hreserved,
    Char.ofNat_toNat]

theorem hold_single (c : Char) : hold ((half? c).getD c.toNat) = [c] := by
  cases h : half? c with
  | none => exact hold_of_whole h
  | some half => exact hold_of_half h

theorem hold_of_pair {c d : Char} {n : Nat} (h : pair? c d = some n) : hold n = [c, d] := by
  simp only [pair?, Option.bind_eq_bind, Option.bind_eq_some_iff] at h
  obtain ⟨high, hhigh, low, hlow, h⟩ := h
  split at h
  · rename_i hjoined
    obtain rfl := Option.some.inj h
    simp only [Bool.and_eq_true] at hjoined
    obtain ⟨⟨his, hil⟩, hreserved⟩ := hjoined
    have hnothalf : isHalf (join high low) ≠ true := fun hhalf => by
      simp only [isReserved, isHalf, isHigh, isLow, Bool.or_eq_true, Bool.and_eq_true,
        decide_eq_true_eq] at hreserved hhalf
      omega
    simp only [isHigh, isLow, Bool.and_eq_true, decide_eq_true_eq] at his hil
    have hhighOf : highOf (join high low) = high := by
      unfold highOf join
      omega
    have hlowOf : lowOf (join high low) = low := by
      unfold lowOf join
      omega
    rw [hold, if_neg hnothalf, if_pos hreserved, hhighOf, hlowOf, standIn_of_half hhigh,
      standIn_of_half hlow]
  · cases h

-- What holds the code points of a text is the text.
theorem hold_codePoints (cs : List Char) : (codePoints cs).flatMap hold = cs := by
  fun_induction codePoints cs with
  | case1 c d cs n hpair ih => rw [List.flatMap_cons, ih, hold_of_pair hpair]; rfl
  | case2 c d cs hpair ih => rw [List.flatMap_cons, ih, hold_single]; rfl
  | case3 c => rw [List.flatMap_cons, hold_single]; rfl
  | case4 => rfl

theorem codePoints_injective {s t : String} (h : codePoints s.toList = codePoints t.toList) : s = t := by
  apply String.toList_injective
  rw [← hold_codePoints s.toList, h, hold_codePoints]

end Half

theorem precedes_irrefl (s : String) : precedes s s = false :=
  decide_eq_false (List.lt_irrefl _)

theorem precedes_trans {s t u : String} (hst : precedes s t = true) (htu : precedes t u = true) :
    precedes s u = true :=
  decide_eq_true (List.lt_trans (of_decide_eq_true hst) (of_decide_eq_true htu))

theorem precedes_of_not {s t : String} (h : precedes t s = false) (hne : s ≠ t) :
    precedes s t = true := by
  have hle := List.not_lt.mp (of_decide_eq_false h)
  refine decide_eq_true (Decidable.byContradiction fun hlt => hne ?_)
  exact Half.codePoints_injective (List.le_antisymm hle (List.not_lt.mp hlt))

theorem sorted_perm (ss : List String) : (sorted ss).Perm ss := List.mergeSort_perm ss _

theorem sorted_pairwise {ss : List String} (h : ss.Nodup) :
    (sorted ss).Pairwise (precedes · · = true) := by
  have hle : (sorted ss).Pairwise fun s t => (!precedes t s) = true := by
    refine List.pairwise_mergeSort (fun s t u hst htu => ?_) (fun s t => ?_) ss
    · simp only [precedes, Bool.not_eq_true', decide_eq_false_iff_not, List.not_lt] at hst htu ⊢
      exact List.le_trans hst htu
    · simp only [precedes, Bool.or_eq_true, Bool.not_eq_true', decide_eq_false_iff_not, List.not_lt]
      exact List.le_total _ _
  have hnodup : (sorted ss).Nodup := (sorted_perm ss).nodup_iff.mpr h
  refine (hle.and hnodup).imp fun {s t} hst => ?_
  exact precedes_of_not (Bool.not_eq_true' _ ▸ hst.1) hst.2

theorem nodup_of_ordered {α : Type} (name : α → String) {xs : List α}
    (h : xs.Pairwise fun x y => precedes (name x) (name y) = true) : xs.Nodup :=
  h.imp fun {x y} hxy heq => by
    rw [heq, precedes_irrefl] at hxy
    cases hxy

-- Two lists in strict order with the same members are one list.
theorem eq_of_ordered {α : Type} (name : α → String) {xs ys : List α}
    (hxs : xs.Pairwise fun x y => precedes (name x) (name y) = true)
    (hys : ys.Pairwise fun x y => precedes (name x) (name y) = true)
    (h : ∀ x, x ∈ xs ↔ x ∈ ys) : xs = ys := by
  have hperm : xs.Perm ys :=
    (List.perm_ext_iff_of_nodup (nodup_of_ordered name hxs) (nodup_of_ordered name hys)).mpr h
  refine hperm.eq_of_pairwise (fun x y _ _ hxy hyx => ?_) hxs hys
  have hself := precedes_trans hxy hyx
  rw [precedes_irrefl] at hself
  cases hself

theorem sorted_eq {ss ts : List String} (hordered : ts.Pairwise (precedes · · = true))
    (hperm : ss.Perm ts) : sorted ss = ts := by
  have hts : ts.Nodup := nodup_of_ordered id hordered
  have hnodup : ss.Nodup := hperm.nodup_iff.mpr hts
  exact eq_of_ordered id (sorted_pairwise hnodup) hordered fun s =>
    ((sorted_perm ss).trans hperm).mem_iff

end FieldTemplates.Text
