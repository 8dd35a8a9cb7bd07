import FieldTemplates.Text.LowerCase

namespace FieldTemplates.Text

namespace CaseRun

-- Whether a code point is one of the capitals.
def holds (r : CaseRun) (n : Nat) : Bool :=
  r.first ≤ n && n ≤ r.last && (n - r.first) % r.step == 0

def small (r : CaseRun) (n : Nat) : Nat := Int.toNat (n + r.offset)

-- The small letters of one run lie in front of the capitals of another, behind them or between them.
def apart (r other : CaseRun) : Bool :=
  Nat.blt (r.small r.last) other.first || Nat.blt other.last (r.small r.first) ||
    ((r.step == 2 || r.first == r.last) && other.step == 2 &&
      (r.small r.first + other.first) % 2 == 1)

-- The small letters are characters.
def proper (r : CaseRun) : Bool :=
  0 ≤ r.first + r.offset && (Nat.blt (r.small r.last) 0xD800 ||
    Nat.blt 0xDFFF (r.small r.first) && Nat.blt (r.small r.last) 0x110000)

theorem holds_iff {r : CaseRun} {n : Nat} :
    r.holds n = true ↔ r.first ≤ n ∧ n ≤ r.last ∧ (n - r.first) % r.step = 0 := by
  simp only [holds, Bool.and_eq_true, decide_eq_true_eq, beq_iff_eq, and_assoc]

variable {r : CaseRun} {n : Nat} (hproper : r.proper = true) (h : r.holds n = true)
include hproper h

theorem not_holds_small {other : CaseRun} (hapart : r.apart other = true) :
    other.holds (r.small n) = false := by
  obtain ⟨hfirst, hlast, hstep⟩ := holds_iff.mp h
  refine Bool.eq_false_iff.mpr fun hother => ?_
  obtain ⟨hfirst', hlast', hstep'⟩ := holds_iff.mp hother
  simp only [proper, Bool.and_eq_true, decide_eq_true_eq] at hproper
  simp only [apart, small, Bool.or_eq_true, Bool.and_eq_true, Nat.blt_eq, beq_iff_eq] at hapart
  simp only [small] at hfirst' hlast' hstep'
  have hlow := hproper.1
  rcases hapart with (hfront | hbehind) | ⟨⟨htwo | hone, htwo'⟩, hodd⟩
  · omega
  · omega
  · rw [htwo] at hstep
    rw [htwo'] at hstep'
    omega
  · rw [htwo'] at hstep'
    omega

theorem toNat_small : (Char.ofNat (r.small n)).toNat = r.small n := by
  obtain ⟨hfirst, hlast, -⟩ := holds_iff.mp h
  simp only [proper, small, Bool.and_eq_true, Bool.or_eq_true, decide_eq_true_eq, Nat.blt_eq] at hproper
  have hvalid : (r.small n).isValidChar := by
    simp only [Nat.isValidChar, small]
    omega
  rw [Char.ofNat, dif_pos hvalid]
  rfl

end CaseRun

-- A capital that is in no run, since its small form has two characters.
def dotted : CaseRun := ⟨0x130, 0x130, 1, 0⟩

theorem runs_apart : (caseRuns.all fun r => (dotted :: caseRuns).all r.apart) = true := by
  decide +kernel

theorem runs_proper : caseRuns.all CaseRun.proper = true := by decide

-- The capitals of ASCII are in a run, the other runs lie above.
theorem runs_ascii : (caseRuns.all fun r =>
    Nat.ble 0x41 r.first && Nat.ble r.last 0x5A || Nat.ble 0x80 r.first) = true := by decide

def asciiRun : CaseRun := ⟨0x41, 0x5A, 1, 32⟩

theorem toLower_ascii : ∀ n < 0x80, (Char.ofNat n).toLower =
    Char.ofNat (if 0x41 ≤ n ∧ n ≤ 0x5A then asciiRun.small n else n) := by decide +kernel

-- Not a capital.
def IsSmall (c : Char) : Prop := ∀ r ∈ dotted :: caseRuns, r.holds c.toNat = false

-- A capital of a run has the small letter that the run gives, every other character stays.
theorem lowerChar_cases (c : Char) :
    (∃ r ∈ caseRuns, r.holds c.toNat = true ∧ lowerChar c = Char.ofNat (r.small c.toNat)) ∨
      (∀ r ∈ caseRuns, r.holds c.toNat = false) ∧ lowerChar c = c := by
  unfold lowerChar
  split
  · rename_i hascii
    have hlower := toLower_ascii c.toNat hascii
    rw [Char.ofNat_toNat] at hlower
    by_cases hcapital : 0x41 ≤ c.toNat ∧ c.toNat ≤ 0x5A
    · refine .inl ⟨asciiRun, List.mem_cons_self, ?_, ?_⟩
      · exact CaseRun.holds_iff.mpr ⟨hcapital.1, hcapital.2, Nat.mod_one _⟩
      · rw [hlower, if_pos hcapital]
    · refine .inr ⟨fun r hr => Bool.eq_false_iff.mpr fun hholds => ?_, ?_⟩
      · obtain ⟨hfirst, hlast, -⟩ := CaseRun.holds_iff.mp hholds
        have hrun := List.all_eq_true.mp runs_ascii r hr
        simp only [Bool.or_eq_true, Bool.and_eq_true, Nat.ble_eq] at hrun
        omega
      · rw [hlower, if_neg hcapital, Char.ofNat_toNat]
  · split
    · rename_i r hr
      have hholds := List.find?_some (p := (CaseRun.holds · c.toNat)) hr
      exact .inl ⟨r, List.mem_of_find?_eq_some hr, hholds, rfl⟩
    · rename_i hnone
      exact .inr ⟨fun r hr => Bool.eq_false_iff.mpr (List.find?_eq_none.mp hnone r hr), rfl⟩

theorem lowerChar_of_isSmall {c : Char} (h : IsSmall c) : lowerChar c = c := by
  rcases lowerChar_cases c with ⟨r, hr, hholds, -⟩ | ⟨-, hsame⟩
  · rw [h r (List.mem_cons_of_mem _ hr)] at hholds
    cases hholds
  · exact hsame

theorem isSmall_lowerChar {c : Char} (h : c ≠ 'İ') : IsSmall (lowerChar c) := by
  rcases lowerChar_cases c with ⟨r, hr, hholds, hc⟩ | ⟨hnone, hsame⟩
  · intro other hother
    have hproper := List.all_eq_true.mp runs_proper r hr
    have hapart := List.all_eq_true.mp (List.all_eq_true.mp runs_apart r hr) other hother
    rw [hc, CaseRun.toNat_small hproper hholds]
    exact CaseRun.not_holds_small hproper hholds hapart
  · rw [hsame]
    refine List.forall_mem_cons.mpr ⟨Bool.eq_false_iff.mpr fun hdotted => h ?_, hnone⟩
    obtain ⟨hlow, hhigh, -⟩ := CaseRun.holds_iff.mp hdotted
    have hcode : c.toNat = 0x130 := Nat.le_antisymm hhigh hlow
    exact Char.toNat_inj.mp hcode

theorem not_isSmall : ¬ IsSmall 'Σ' ∧ ¬ IsSmall 'İ' := by
  unfold IsSmall
  decide

-- What stands for these two, which have rules of their own.
theorem isSmall_special : IsSmall 'ς' ∧ IsSmall 'σ' ∧ IsSmall 'i' ∧ IsSmall '\u0307' := by
  unfold IsSmall
  decide +kernel

theorem isSmall_lowerFrom (before cs : List Char) : ∀ c ∈ lowerFrom before cs, IsSmall c := by
  obtain ⟨hfinal, hinner, hletter, hdot⟩ := isSmall_special
  fun_induction lowerFrom before cs with
  | case1 => exact fun _ hc => absurd hc List.not_mem_nil
  | case2 before cs ih =>
      refine List.forall_mem_cons.mpr ⟨?_, ih⟩
      split
      · exact hfinal
      · exact hinner
  | case3 before cs ih =>
      exact List.forall_mem_cons.mpr ⟨hletter, List.forall_mem_cons.mpr ⟨hdot, ih⟩⟩
  | case4 before c cs _ hdotted ih =>
      exact List.forall_mem_cons.mpr ⟨isSmall_lowerChar hdotted, ih⟩

theorem lowerFrom_of_isSmall (before : List Char) {cs : List Char} (h : ∀ c ∈ cs, IsSmall c) :
    lowerFrom before cs = cs := by
  fun_induction lowerFrom before cs with
  | case1 => rfl
  | case2 => exact absurd (h _ List.mem_cons_self) not_isSmall.1
  | case3 => exact absurd (h _ List.mem_cons_self) not_isSmall.2
  | case4 before c cs _ _ ih =>
      obtain ⟨hc, hcs⟩ := List.forall_mem_cons.mp h
      rw [lowerChar_of_isSmall hc, ih hcs]

theorem lower_lower (s : String) : lower (lower s) = lower s := by
  have hsmall := isSmall_lowerFrom [] s.toList
  rw [lower, lower, String.toList_ofList, lowerFrom_of_isSmall [] hsmall]

end FieldTemplates.Text
