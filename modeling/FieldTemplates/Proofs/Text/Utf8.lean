import FieldTemplates.Proofs.Text.Sorted
import FieldTemplates.Text.Utf8
import Mathlib.Tactic.SplitIfs

namespace FieldTemplates.Text

namespace Half

theorem half?_eq_none {c : Char} (h : c.toNat < 0x10D800) : half? c = none := by
  have hplain : isReserved c.toNat = false := by
    simp only [isReserved, Bool.and_eq_false_iff, decide_eq_false_iff_not]
    omega
  rw [half?, hplain, if_neg Bool.false_ne_true]

theorem codePoints_cons {c : Char} (h : half? c = none) (cs : List Char) :
    codePoints (c :: cs) = c.toNat :: codePoints cs := by
  cases cs with
  | nil => rw [codePoints, codePoints, h, Option.getD_none]
  | cons d cs =>
      have hpair : pair? c d = none := by
        rw [pair?, h]
        rfl
      rw [codePoints, hpair, h, Option.getD_none]

theorem codePoints_of_low {cs : List Char} (h : ∀ c ∈ cs, c.toNat < 0x10D800) :
    codePoints cs = cs.map Char.toNat := by
  induction cs with
  | nil => rfl
  | cons c cs ih =>
      obtain ⟨hc, hcs⟩ := List.forall_mem_cons.mp h
      rw [codePoints_cons (half?_eq_none hc), ih hcs, List.map_cons]

-- Only a half at the end can be joined to what follows.
theorem codePoints_append {cs : List Char} (h : ∀ n ∈ codePoints cs, isHalf n = false) (ds : List Char) :
    codePoints (cs ++ ds) = codePoints cs ++ codePoints ds := by
  fun_induction codePoints cs with
  | case1 c d cs n hpair ih =>
      rw [List.cons_append, List.cons_append, codePoints, hpair]
      exact congrArg (n :: ·) (ih (List.forall_mem_cons.mp h).2)
  | case2 c d cs hpair ih =>
      rw [List.cons_append, List.cons_append, codePoints, hpair]
      exact congrArg (_ :: ·) (ih (List.forall_mem_cons.mp h).2)
  | case3 c =>
      have hwhole : half? c = none := by
        cases hhalf : half? c with
        | none => rfl
        | some n =>
            have hfalse := h n (by rw [hhalf]; exact List.mem_cons_self)
            rw [(toNat_of_half hhalf).1] at hfalse
            cases hfalse
      rw [List.singleton_append, codePoints_cons hwhole, hwhole, Option.getD_none,
        List.singleton_append]
  | case4 => rfl

end Half

namespace Utf8

theorem refusal?_eq_none_iff {isRefused : Nat → Bool} (position : Nat) {ns : List Nat} :
    refusal? isRefused position ns = none ↔ ∀ n ∈ ns, isRefused n = false := by
  induction ns generalizing position with
  | nil => exact iff_of_true rfl fun n hn => absurd hn List.not_mem_nil
  | cons n ns ih =>
      rw [refusal?, List.forall_mem_cons]
      split_ifs with hrefused
      · simp [hrefused]
      · simp [hrefused, ih]

theorem encode_ok_iff {cs : List Char} :
    (∃ bytes, encode cs = .ok bytes) ↔ ∀ n ∈ Half.codePoints cs, Half.isHalf n = false := by
  rw [← refusal?_eq_none_iff 0]
  simp only [encode]
  cases refusal? Half.isHalf 0 (Half.codePoints cs) with
  | none => exact iff_of_true ⟨_, rfl⟩ rfl
  | some e => exact iff_of_false (fun ⟨_, h⟩ => nomatch h) nofun

theorem encode_ok_of_low {cs : List Char} (h : ∀ c ∈ cs, c.toNat < 0x10D800) :
    ∃ bytes, encode cs = .ok bytes := by
  rw [encode_ok_iff, Half.codePoints_of_low h]
  exact List.forall_mem_map.mpr fun c _ => Half.not_isHalf_toNat c

theorem encode_ok_append {cs ds : List Char} (hcs : ∃ bytes, encode cs = .ok bytes)
    (hds : ∃ bytes, encode ds = .ok bytes) : ∃ bytes, encode (cs ++ ds) = .ok bytes := by
  rw [encode_ok_iff] at hcs hds ⊢
  rw [Half.codePoints_append hcs]
  exact List.forall_mem_append.mpr ⟨hcs, hds⟩

end Utf8

end FieldTemplates.Text
