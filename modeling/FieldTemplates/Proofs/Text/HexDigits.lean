import FieldTemplates.Text.Quoted
import Mathlib.Tactic.IntervalCases

namespace FieldTemplates.Text

-- The sixteen digits in the form that `hexDigits` writes.
def hexAlphabet : List Char := "0123456789abcdef".toList

def hexValue (c : Char) : Nat := hexAlphabet.idxOf c

def readHex (cs : List Char) : Nat := cs.foldl (fun n c => 16 * n + hexValue c) 0

theorem hexValue_digitChar (d : Nat) (hd : d < 16) : hexValue (Nat.digitChar d) = d := by
  interval_cases d <;> decide

theorem digitChar_mem_hexAlphabet (d : Nat) (hd : d < 16) : Nat.digitChar d ∈ hexAlphabet := by
  interval_cases d <;> decide

theorem readHex_concat (cs : List Char) (c : Char) :
    readHex (cs ++ [c]) = 16 * readHex cs + hexValue c := by
  simp [readHex]

theorem readHex_zeros (count : Nat) (cs : List Char) :
    readHex (List.replicate count '0' ++ cs) = readHex cs := by
  induction count with
  | zero => rfl
  | succ count ih =>
      have hz : 16 * 0 + hexValue '0' = 0 := by decide
      simpa only [readHex, List.replicate_succ, List.cons_append, List.foldl_cons, hz] using ih

theorem readHex_toDigits (n : Nat) : readHex (Nat.toDigits 16 n) = n := by
  induction n using Nat.strongRecOn with
  | ind n ih =>
      rw [Nat.toDigits_eq_if (by omega)]
      split
      · rename_i hn
        simpa using (readHex_concat [] _).trans (congrArg (16 * 0 + ·) (hexValue_digitChar n hn))
      · have hd := hexValue_digitChar (n % 16) (by omega)
        rw [readHex_concat, hd, ih (n / 16) (by omega)]
        omega

theorem mem_toDigits_hex (n : Nat) : ∀ c ∈ Nat.toDigits 16 n, c ∈ hexAlphabet := by
  induction n using Nat.strongRecOn with
  | ind n ih =>
      intro c hc
      rw [Nat.toDigits_eq_if (by omega)] at hc
      split at hc
      · rename_i hn
        rw [List.mem_singleton.mp hc]
        exact digitChar_mem_hexAlphabet n hn
      · rcases List.mem_append.mp hc with hc | hc
        · exact ih (n / 16) (by omega) c hc
        · rw [List.mem_singleton.mp hc]
          exact digitChar_mem_hexAlphabet (n % 16) (by omega)

theorem readHex_hexDigits (width n : Nat) : readHex (hexDigits width n) = n := by
  simp only [hexDigits, readHex_zeros, readHex_toDigits]

-- The width pads and never cuts, so different numbers have different digits.
theorem hexDigits_inj {width m n : Nat} (h : hexDigits width m = hexDigits width n) : m = n := by
  rw [← readHex_hexDigits width m, h, readHex_hexDigits]

theorem length_hexDigits (width n : Nat) :
    (hexDigits width n).length = max width (Nat.toDigits 16 n).length := by
  simp only [hexDigits, List.length_append, List.length_replicate]
  omega

theorem mem_hexDigits {width n : Nat} {c : Char} (hc : c ∈ hexDigits width n) :
    c ∈ hexAlphabet := by
  rcases List.mem_append.mp hc with hz | hd
  · rw [List.eq_of_mem_replicate hz]
    decide
  · exact mem_toDigits_hex n c hd

theorem underscore_notMem_hexAlphabet : '_' ∉ hexAlphabet := by decide

theorem mem_toString_int {n : Int} {c : Char} (h : c ∈ (toString n).toList) :
    c = '-' ∨ c.isDigit = true := by
  rw [Int.toString_eq_repr, Int.repr_eq_if] at h
  have hdigit : ∀ n : Nat, c ∈ n.repr.toList → c.isDigit = true := by
    intro n hc
    rw [Nat.toList_repr] at hc
    exact Nat.isDigit_of_mem_toDigits (by omega) (by omega) hc
  split at h
  · exact .inr (hdigit _ h)
  · rw [String.toList_append, List.mem_append] at h
    rcases h with h | h
    · exact .inl (List.mem_singleton.mp h)
    · exact .inr (hdigit _ h)

theorem toList_toString_of_nonneg {n : Int} (hn : 0 ≤ n) :
    (toString n).toList = Nat.toDigits 10 n.toNat := by
  rw [Int.toString_eq_repr, Int.repr_eq_if]
  simp only [hn, ite_true, Nat.toList_repr]

end FieldTemplates.Text
