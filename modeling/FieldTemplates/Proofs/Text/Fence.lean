import FieldTemplates.Proofs.Text.Trim
import FieldTemplates.Text.Fence
import Mathlib.Data.List.Infix

namespace FieldTemplates.Text

theorem breakOn_mark (mark rest : List Char) : breakOn mark (mark ++ rest) = some ([], rest) := by
  have hprefix : mark.isPrefixOf (mark ++ rest) = true :=
    List.isPrefixOf_iff_prefix.mpr (List.prefix_append mark rest)
  cases hcs : mark ++ rest with
  | nil =>
      obtain ⟨rfl, rfl⟩ := List.append_eq_nil_iff.mp hcs
      rfl
  | cons c cs =>
      rw [hcs] at hprefix
      rw [breakOn, if_pos hprefix, ← hcs, List.drop_left]

-- What stands in front of the first mark is passed over.
theorem breakOn_append {mark front rest : List Char}
    (h : ∀ k < front.length, ¬ mark <+: (front ++ rest).drop k) :
    breakOn mark (front ++ rest) = (breakOn mark rest).map fun r => (front ++ r.1, r.2) := by
  induction front with
  | nil => exact Option.map_id'.symm
  | cons c front ih =>
      have hhere : ¬ mark <+: c :: (front ++ rest) := h 0 (Nat.zero_lt_succ _)
      have hrest := ih fun k hk => h (k + 1) (Nat.succ_lt_succ hk)
      rw [List.cons_append, breakOn, if_neg (mt List.isPrefixOf_iff_prefix.mp hhere), hrest,
        Option.map_map]
      rfl

-- No end of the mark begins it again.
def Unbordered (mark : List Char) : Prop :=
  ∀ i < mark.length, 0 < i → ¬ mark.drop i <+: mark

instance (mark : List Char) : Decidable (Unbordered mark) :=
  inferInstanceAs (Decidable (∀ i < mark.length, 0 < i → ¬ mark.drop i <+: mark))

-- Such a mark does not begin in a text without it that stands in front of it.
theorem Unbordered.not_prefix {mark front : List Char} (h : Unbordered mark)
    (hfront : ¬ mark <:+: front) (rest : List Char) {k : Nat} (hk : k < front.length) :
    ¬ mark <+: (front ++ (mark ++ rest)).drop k := by
  have hpos : 0 < (front.drop k).length := by
    rw [List.length_drop]
    omega
  have hinside : ¬ mark <+: front.drop k := fun hmark =>
    hfront (hmark.isInfix.trans (List.drop_suffix k front).isInfix)
  rw [List.drop_append_of_le_length hk.le]
  intro hmark
  rcases List.prefix_or_prefix_of_prefix hmark (List.prefix_append _ _) with hshort | ⟨last, hlast⟩
  · exact hinside hshort
  · have hmore : last <+: mark ++ rest := by
      apply (List.prefix_append_right_inj (front.drop k)).mp
      rwa [hlast]
    have hlength := congrArg List.length hlast
    rw [List.length_append] at hlength
    have hend : last <+: mark :=
      List.prefix_of_prefix_length_le hmore (List.prefix_append mark rest) (by omega)
    by_cases hlt : (front.drop k).length < mark.length
    · apply h _ hlt hpos
      rwa [← hlast, List.drop_left, hlast]
    · have hempty : last = [] := List.eq_nil_of_length_eq_zero (by omega)
      rw [hempty, List.append_nil] at hlast
      exact hinside ⟨[], by rw [List.append_nil, hlast]⟩

theorem breakOn_first {mark front : List Char} (h : Unbordered mark) (hfront : ¬ mark <:+: front)
    (rest : List Char) : breakOn mark (front ++ (mark ++ rest)) = some (front, rest) := by
  rw [breakOn_append fun k hk => h.not_prefix hfront rest hk, breakOn_mark, Option.map_some,
    List.append_nil]

namespace Fence

theorem unbordered_opening : Unbordered opening := by decide

theorem unbordered_closing : Unbordered closing := by decide

-- A text with a block in it: what is said before it, the block between its fences, and what follows.
def around (before block after : List Char) : List Char :=
  before ++ (opening ++ (block ++ (closing ++ after)))

-- Further fences in front of the block, in it and behind it do not matter, as long as the one in front is
-- not an opening one and the one inside not a closing one.
theorem content_around {before block : List Char} (hbefore : ¬ opening <:+: before)
    (hblock : ¬ closing <:+: block) (after : List Char) :
    content (around before block after) = block := by
  rw [content, around, breakOn_first unbordered_opening hbefore]
  simp only [breakOn_first unbordered_closing hblock]

-- Fences are not blank, so trimming stops at them.
theorem trim_around (before block after : List Char) :
    trim (around before block after) = around (trimLeft before) block (trimRight after) := by
  have hopening : opening = '\x60' :: "``json\n".toList := by decide
  have hclosing : closing = "\n``".toList ++ ['\x60'] := by decide
  have htrim := trim_between (c := '\x60') (d := '\x60') (by decide) (by decide) before
    ("``json\n".toList ++ (block ++ "\n``".toList)) after
  simpa only [around, hopening, hclosing, List.cons_append, List.append_assoc, List.nil_append]
    using htrim

-- A text that is trimmed says the same in its block.
theorem content_trim_around {before block : List Char} (hbefore : ¬ opening <:+: before)
    (hblock : ¬ closing <:+: block) (after : List Char) :
    content (trim (around before block after)) = block := by
  rw [trim_around]
  refine content_around (fun hinfix => hbefore ?_) hblock _
  exact hinfix.trans (List.dropWhile_suffix isBlank).isInfix

end Fence

end FieldTemplates.Text
