import FieldTemplates.Text.Blank
import Mathlib.Data.List.DropRight
import Mathlib.Tactic.SplitIfs

namespace FieldTemplates.Text

-- Every run of blanks with a line feed in it becomes one line feed.
def settle : List Char → List Char
  | [] => []
  | c :: cs =>
    if c = '\n' then '\n' :: (settle cs).dropWhile isBlank
    else if isBlank c = true ∧ (settle cs).head? = some '\n' then settle cs
    else c :: settle cs

theorem isBlank_newline : isBlank '\n' = true := by decide

theorem settle_newline (cs : List Char) :
    settle ('\n' :: cs) = '\n' :: (settle cs).dropWhile isBlank := by
  simp only [settle, ite_true]

theorem settle_cons_congr (c : Char) {cs ds : List Char} (h : settle cs = settle ds) :
    settle (c :: cs) = settle (c :: ds) := by
  simp only [settle, h]

theorem settle_append_congr (ws : List Char) {cs ds : List Char} (h : settle cs = settle ds) :
    settle (ws ++ cs) = settle (ws ++ ds) := by
  induction ws with
  | nil => exact h
  | cons c ws ih => exact settle_cons_congr c ih

theorem settle_blank_newline {b : Char} (hb : isBlank b = true) (cs : List Char) :
    settle (b :: '\n' :: cs) = settle ('\n' :: cs) := by
  by_cases hlf : b = '\n'
  · subst hlf
    rw [settle_newline, settle_newline, List.dropWhile_cons_of_pos isBlank_newline]
    rw [List.dropWhile_idempotent]
  · have hhead : (settle ('\n' :: cs)).head? = some '\n' := by rw [settle_newline]; rfl
    rw [settle]
    simp only [hlf, hb, hhead, ite_false, and_self, ite_true]

-- Behind a line feed a blank is lost.
theorem dropWhile_settle_blank {b : Char} (hb : isBlank b = true) (cs : List Char) :
    (settle (b :: cs)).dropWhile isBlank = (settle cs).dropWhile isBlank := by
  simp only [settle]
  split_ifs
  · rw [List.dropWhile_cons_of_pos isBlank_newline, List.dropWhile_idempotent]
  · rfl
  · rw [List.dropWhile_cons_of_pos hb]

theorem settle_newline_blank {b : Char} (hb : isBlank b = true) (cs : List Char) :
    settle ('\n' :: b :: cs) = settle ('\n' :: cs) := by
  rw [settle_newline, settle_newline, dropWhile_settle_blank hb]

theorem dropWhile_settle_dropWhile (cs ds : List Char) :
    (settle (cs.dropWhile isBlank ++ ds)).dropWhile isBlank =
      (settle (cs ++ ds)).dropWhile isBlank := by
  induction cs with
  | nil => rfl
  | cons c cs ih =>
      cases hc : isBlank c with
      | false => rw [List.dropWhile_cons_of_neg (by simp [hc])]
      | true =>
          rw [List.dropWhile_cons_of_pos hc, ih, List.cons_append, dropWhile_settle_blank hc]

-- What comes after a text finds it settled or not.
theorem settle_append_settle (cs ds : List Char) : settle (settle cs ++ ds) = settle (cs ++ ds) := by
  induction cs with
  | nil => rfl
  | cons c cs ih =>
      rw [List.cons_append, settle]
      split_ifs with hlf hblank
      · subst hlf
        rw [List.cons_append, settle_newline, settle_newline, dropWhile_settle_dropWhile,
          ih]
      · obtain ⟨hc, hhead⟩ := hblank
        obtain ⟨rest, hrest⟩ := List.head?_eq_some_iff.mp hhead
        rw [← settle_cons_congr c ih, hrest, List.cons_append, settle_blank_newline hc]
      · exact settle_cons_congr c ih

theorem settle_settle (cs : List Char) : settle (settle cs) = settle cs := by
  simpa using settle_append_settle cs []

theorem settle_of_no_newline {cs : List Char} (h : '\n' ∉ cs) : settle cs = cs := by
  induction cs with
  | nil => rfl
  | cons c cs ih =>
      rw [List.mem_cons, not_or] at h
      obtain ⟨hc, hcs⟩ := h
      have hhead : cs.head? ≠ some '\n' := fun hh => hcs (List.mem_of_head? hh)
      simp only [settle, ih hcs, hhead, Ne.symm hc, and_false, ite_false]

theorem newline_mem_settle {cs : List Char} (h : '\n' ∈ cs) : '\n' ∈ settle cs := by
  induction cs with
  | nil => exact h
  | cons c cs ih =>
      simp only [settle]
      split_ifs with hlf hblank
      · exact List.mem_cons_self
      · exact List.mem_of_head? hblank.2
      · exact List.mem_cons_of_mem _ (ih ((List.mem_cons.mp h).resolve_left (Ne.symm hlf)))

-- A text on one line is told from every other text, settled or not.
theorem eq_of_settle_eq {cs ds : List Char} (h : settle cs = settle ds) (hds : '\n' ∉ ds) :
    cs = ds := by
  rw [settle_of_no_newline hds] at h
  have hcs : '\n' ∉ cs := fun hm => hds (h ▸ newline_mem_settle hm)
  rw [← settle_of_no_newline hcs, h]

theorem eq_of_map_settle_eq {xs ys : List (List Char)} (h : xs.map settle = ys.map settle)
    (hys : ∀ y ∈ ys, '\n' ∉ y) : xs = ys := by
  induction xs generalizing ys with
  | nil => exact (List.map_eq_nil_iff.mp h.symm).symm
  | cons x xs ih =>
      cases ys with
      | nil => cases h
      | cons y ys =>
          obtain ⟨hhead, htail⟩ := List.cons.inj h
          rw [eq_of_settle_eq hhead (hys y List.mem_cons_self),
            ih htail fun z hz => hys z (List.mem_cons_of_mem _ hz)]

end FieldTemplates.Text
