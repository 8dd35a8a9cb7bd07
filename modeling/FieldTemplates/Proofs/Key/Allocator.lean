import FieldTemplates.Proofs.Key.Mint
import Mathlib.Data.List.Perm.Subperm
import Mathlib.Data.List.Nodup

namespace FieldTemplates.Key.Allocator

-- A candidate that is given as it is.
def Free (a : Allocator) (key : String) : Prop := key ≠ "" ∧ key ∉ a.used

-- A run of mints that are all in use is no longer than the list of used keys, whatever values of the
-- counter it takes.
theorem used_mints_le {source : Source} (hs : Random source) (kind : String)
    (used : List String) {counts : Nat → Nat} (hcounts : Function.Injective counts) (tried : Nat)
    (hused : ∀ i < tried, mint source kind (counts i) ∈ used) : tried ≤ used.length := by
  have hnodup : ((List.range tried).map fun i => mint source kind (counts i)).Nodup := by
    refine List.Nodup.map ?_ List.nodup_range
    intro i j hij
    exact hcounts (mint_inj hs hij)
  have hsub : ((List.range tried).map fun i => mint source kind (counts i)) ⊆ used := by
    intro key hkey
    obtain ⟨i, hi, rfl⟩ := List.mem_map.mp hkey
    exact hused i (List.mem_range.mp hi)
  have hl := (hnodup.subperm hsub).length_le
  simpa using hl

-- So one try more than there are used keys is enough.
theorem exists_unused_mint {source : Source} (hs : Random source) (kind : String)
    (used : List String) {counts : Nat → Nat} (hcounts : Function.Injective counts) :
    ∃ tried ≤ used.length, mint source kind (counts tried) ∉ used := by
  by_contra hall
  push Not at hall
  have hbound := used_mints_le hs kind used hcounts (used.length + 1) fun i hi => hall i (by omega)
  omega

-- Without a bound on the tries nothing is known of the last one.
theorem fresh_tried (source : Source) (kind : String) (used : List String) (tries count : Nat) :
    ∃ tried ≤ tries, (∀ i < tried, mint source kind (count + i) ∈ used) ∧
      (tried < tries → mint source kind (count + tried) ∉ used) ∧
      fresh source kind used tries count =
        (mint source kind (count + tried), count + tried + 1) := by
  induction tries generalizing count with
  | zero => exact ⟨0, le_refl 0, by simp, by simp, rfl⟩
  | succ tries ih =>
      by_cases hmem : mint source kind count ∈ used
      · obtain ⟨tried, hle, hused, hlast, heq⟩ := ih (count + 1)
        have hshift : ∀ i, count + 1 + i = count + (i + 1) := by omega
        refine ⟨tried + 1, by omega, ?_, ?_, ?_⟩
        · intro i hi
          cases i with
          | zero => exact hmem
          | succ i => exact hshift i ▸ hused i (by omega)
        · intro hlt
          exact hshift tried ▸ hlast (by omega)
        · simp only [fresh, List.contains_iff_mem.mpr hmem, ite_true, heq, hshift]
      · refine ⟨0, by omega, by simp, fun _ => hmem, ?_⟩
        have hc : used.contains (mint source kind count) = false := by simpa using hmem
        simp only [fresh, hc, Nat.add_zero]
        rfl

-- One try more than there are used keys always finds a new key, so the bound never shows.
theorem fresh_first {source : Source} (hs : Random source) (kind : String)
    (used : List String) (count : Nat) :
    ∃ tried ≤ used.length, (∀ i < tried, mint source kind (count + i) ∈ used) ∧
      mint source kind (count + tried) ∉ used ∧
      fresh source kind used used.length count =
        (mint source kind (count + tried), count + tried + 1) := by
  obtain ⟨tried, hle, hused, hlast, heq⟩ := fresh_tried source kind used used.length count
  refine ⟨tried, hle, hused, ?_, heq⟩
  intro hmem
  have hbound := used_mints_le hs kind used (add_right_injective count) (tried + 1) (by
    intro i hi
    by_cases he : i = tried
    · exact he ▸ hmem
    · exact hused i (by omega))
  exact hlast (by omega) hmem

theorem allocate_of_free (source : Source) {a : Allocator} {key : String} (kind : String)
    (hfree : a.Free key) : a.allocate source key kind = (key, ⟨a.used ++ [key], a.next⟩) := by
  exact if_pos hfree

theorem allocate_of_not_free {source : Source} (hs : Random source) {a : Allocator}
    {key : String} (kind : String) (hfree : ¬a.Free key) :
    ∃ tried ≤ a.used.length, (∀ i < tried, mint source kind (a.next + i) ∈ a.used) ∧
      mint source kind (a.next + tried) ∉ a.used ∧
      a.allocate source key kind = (mint source kind (a.next + tried),
        ⟨a.used ++ [mint source kind (a.next + tried)], a.next + tried + 1⟩) := by
  obtain ⟨tried, hle, hused, hnew, heq⟩ := fresh_first hs kind a.used a.next
  refine ⟨tried, hle, hused, hnew, ?_⟩
  have hif : a.allocate source key kind =
      ((fresh source kind a.used a.used.length a.next).1,
        ⟨a.used ++ [(fresh source kind a.used a.used.length a.next).1],
          (fresh source kind a.used a.used.length a.next).2⟩) := if_neg hfree
  rw [hif, heq]

-- The used keys are the given ones in order, whatever the source.
@[simp] theorem allocate_used (source : Source) (a : Allocator) (key kind : String) :
    (a.allocate source key kind).2.used = a.used ++ [(a.allocate source key kind).1] := by
  unfold allocate
  split <;> rfl

theorem allocate_ne_empty (source : Source) (a : Allocator) (key kind : String) :
    (a.allocate source key kind).1 ≠ "" := by
  unfold allocate
  split
  · rename_i hfree
    exact hfree.1
  · obtain ⟨tried, -, -, -, heq⟩ := fresh_tried source kind a.used a.used.length a.next
    simp only [heq]
    exact mint_ne_empty source kind _

theorem allocate_notMem {source : Source} (hs : Random source) (a : Allocator)
    (key kind : String) : (a.allocate source key kind).1 ∉ a.used := by
  by_cases hfree : a.Free key
  · rw [allocate_of_free source kind hfree]
    exact hfree.2
  · obtain ⟨tried, -, -, hnew, heq⟩ := allocate_of_not_free hs kind hfree
    rw [heq]
    exact hnew

-- A key that is given is the candidate or a mint.
theorem allocate_eq (source : Source) (a : Allocator) (key kind : String) :
    (a.allocate source key kind).1 = key ∨ ∃ n, (a.allocate source key kind).1 = mint source kind n := by
  unfold allocate
  split
  · exact .inl rfl
  · obtain ⟨tried, -, -, -, heq⟩ := fresh_tried source kind a.used a.used.length a.next
    simp only [heq]
    exact .inr ⟨_, rfl⟩

-- A key that cannot be given as it is never comes back.
theorem allocate_ne {source : Source} (hs : Random source) {a : Allocator} {key : String}
    (kind : String) (hfree : ¬a.Free key) : (a.allocate source key kind).1 ≠ key := by
  intro h
  by_cases hempty : key = ""
  · exact allocate_ne_empty source a key kind (h.trans hempty)
  · have hmem : key ∈ a.used := by
      by_contra hnot
      exact hfree ⟨hempty, hnot⟩
    exact allocate_notMem hs a key kind (h.symm ▸ hmem)

end FieldTemplates.Key.Allocator
