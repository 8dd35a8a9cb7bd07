import FieldTemplates.Json.Encode
import FieldTemplates.Proofs.Text.Fence
import FieldTemplates.Proofs.Text.HexDigits
import Mathlib.Data.List.Chain
import Mathlib.Data.Nat.Digits.Defs
import Mathlib.Tactic.SplitIfs

namespace FieldTemplates

theorem newline_notMem_digits (n : Nat) : '\n' ∉ Nat.toDigits 10 n := by
  intro hmem
  have hdigit := Nat.isDigit_of_mem_toDigits (by omega) (by omega) hmem
  exact absurd hdigit (by decide)

theorem newline_notMem_int (n : Int) : '\n' ∉ (toString n).toList :=
  fun h => absurd (Text.mem_toString_int h) (by decide)

namespace Binary64

theorem newline_notMem_decimalText (d : Decimal) : '\n' ∉ (decimalText d).toList := by
  have hdigits : '\n' ∉ ((Nat.toDigits 10 d.digits).reverse.dropWhile (· == '0')).reverse := by
    intro hmem
    have hsub := (List.dropWhile_sublist (· == '0')).subset (List.mem_reverse.mp hmem)
    exact newline_notMem_digits _ (List.mem_reverse.mp hsub)
  simp only [decimalText]
  generalize ((Nat.toDigits 10 d.digits).reverse.dropWhile (· == '0')).reverse = ds at hdigits ⊢
  have hcut : ∀ n, '\n' ∉ ds.take n ∧ '\n' ∉ ds.drop n := fun n =>
    ⟨fun h => hdigits (List.mem_of_mem_take h), fun h => hdigits (List.mem_of_mem_drop h)⟩
  split_ifs
  · split <;> simp_all [newline_notMem_digits]
  · split <;> simp_all [newline_notMem_digits]
  · simp [hdigits]
  · simp [hdigits]
  · simp [hcut]

theorem newline_notMem_text (x : Binary64) : '\n' ∉ x.text.toList := by
  have hsign : ∀ negative, '\n' ∉ (signText negative).toList := by decide
  fun_cases text x <;> simp [hsign, newline_notMem_decimalText]

end Binary64

namespace Json

theorem newline_notMem_real (x : Binary64) : '\n' ∉ (real x).toList := by
  have hsign : ∀ negative, '\n' ∉ (Binary64.signText negative).toList := by decide
  fun_cases real x
  · decide
  · simp [hsign]
  · exact Binary64.newline_notMem_text x

theorem newline_notMem_escapeChar (c : Char) : '\n' ∉ escapeChar c := by
  have hdigits : ∀ width n, '\n' ∉ Text.hexDigits width n := fun width n hmem =>
    absurd (Text.mem_hexDigits hmem) (by decide)
  fun_cases escapeChar c with
  | case8 c hquote hback hnewline => simp [hdigits]
  | case9 c hquote hback hnewline => simpa using fun h => hnewline h.symm
  | _ => decide

theorem newline_notMem_string (s : String) : '\n' ∉ (string s).toList := by
  simp [string, newline_notMem_escapeChar]

-- Lines in a text that is not at its end with them start with something else than a backtick.
structure Guarded (cs : List Char) : Prop where
  chain : cs.IsChain fun c d => c = '\n' → d ≠ '\x60'
  last : cs.getLast? ≠ some '\n'

theorem Guarded.of_unbroken {cs : List Char} (h : '\n' ∉ cs) : Guarded cs := by
  refine ⟨?_, fun hlast => h (List.mem_of_getLast? hlast)⟩
  induction cs with
  | nil => exact List.isChain_nil
  | cons c cs ih =>
      obtain ⟨hc, hcs⟩ := List.ne_and_not_mem_of_not_mem_cons h
      exact List.isChain_cons.mpr ⟨fun d _ heq => absurd heq.symm hc, ih hcs⟩

theorem Guarded.append {cs ds : List Char} (hc : Guarded cs) (hd : Guarded ds) :
    Guarded (cs ++ ds) := by
  refine ⟨List.isChain_append.mpr ⟨hc.chain, hd.chain, ?_⟩, ?_⟩
  · rintro c hlast d - rfl
    exact absurd hlast hc.last
  · rw [List.getLast?_append]
    cases hlast : ds.getLast? with
    | none => simpa using hc.last
    | some d => simpa [hlast] using hd.last

theorem Guarded.intercalate {between : List Char} (hb : Guarded between) {parts : List (List Char)}
    (h : ∀ part ∈ parts, Guarded part) : Guarded (between.intercalate parts) := by
  induction parts with
  | nil => exact .of_unbroken List.not_mem_nil
  | cons part parts ih =>
      obtain ⟨hpart, hparts⟩ := List.forall_mem_cons.mp h
      cases parts with
      | nil => simpa using hpart
      | cons next parts =>
          rw [List.intercalate_cons_cons]
          exact (hpart.append hb).append (ih hparts)

-- No part of a value starts or ends with what is set around it in a way that a backtick could follow a
-- line feed.
structure Spacing.Guarded (sp : Spacing) : Prop where
  opening : ∀ d, Json.Guarded (sp.opening d).toList
  between : ∀ d, Json.Guarded (sp.between d).toList
  closing : ∀ d, ∀ last ∈ ["]", "\x7d"], Json.Guarded ((sp.closing d).toList ++ last.toList)

section

variable {sp : Spacing} (hsp : sp.Guarded)
include hsp

theorem guarded_enclose (depth : Nat) {first last : String} (hfirst : first ∈ ["[", "\x7b"])
    (hlast : last ∈ ["]", "\x7d"]) {parts : List String} (h : ∀ part ∈ parts, Guarded part.toList) :
    Guarded (enclose sp depth first last parts).toList := by
  have hbracket : ∀ s ∈ ["[", "\x7b", "]", "\x7d"], Guarded s.toList := by
    intro s hs
    apply Guarded.of_unbroken
    revert s
    decide
  have hopen : Guarded first.toList := hbracket first (List.mem_append_left ["]", "\x7d"] hfirst)
  have hclose : Guarded last.toList := hbracket last (List.mem_append_right ["[", "\x7b"] hlast)
  cases parts with
  | nil =>
      simp only [enclose, String.toList_append]
      exact hopen.append hclose
  | cons part parts =>
      simp only [enclose, String.toList_append, List.append_assoc, String.toList_intercalate]
      have hparts : ∀ cs ∈ (part :: parts).map String.toList, Guarded cs := by simpa using h
      exact hopen.append ((hsp.opening depth).append
        (((hsp.between depth).intercalate hparts).append (hsp.closing depth last hlast)))

theorem guarded_encodeAt :
    (∀ depth v, Guarded (encodeAt sp depth v).toList) ∧
      (∀ depth ms, ∀ s ∈ encodeMembers sp depth ms, Guarded s.toList) ∧
      ∀ depth vs, ∀ s ∈ encodeItems sp depth vs, Guarded s.toList := by
  apply encodeAt.mutual_induct
  case case1 | case2 =>
    intro depth
    exact .of_unbroken (by simp only [encodeAt]; decide)
  case case3 =>
    intro depth b hb
    simp only [encodeAt, hb]
    exact .of_unbroken (by decide)
  case case4 =>
    intro depth n
    exact .of_unbroken (newline_notMem_int n)
  case case5 =>
    intro depth x
    exact .of_unbroken (newline_notMem_real x)
  case case6 =>
    intro depth s
    exact .of_unbroken (newline_notMem_string s)
  case case7 =>
    intro depth items ih
    exact guarded_enclose hsp depth (by simp) (by simp) ih
  case case8 =>
    intro depth members ih
    exact guarded_enclose hsp depth (by simp) (by simp) ih
  case case9 | case11 => simp [encodeItems, encodeMembers]
  case case10 =>
    intro depth v vs hv hvs
    rw [encodeItems]
    exact List.forall_mem_cons.mpr ⟨hv, hvs⟩
  case case12 =>
    intro depth name v ms hv hms
    rw [encodeMembers]
    refine List.forall_mem_cons.mpr ⟨?_, hms⟩
    have hcolon : Guarded ": ".toList := .of_unbroken (by decide)
    simp only [String.toList_append, List.append_assoc]
    exact (Guarded.of_unbroken (newline_notMem_string name)).append (hcolon.append hv)

end

theorem guarded_onOneLine : onOneLine.Guarded := by
  refine ⟨fun d => .of_unbroken (by simp [onOneLine]), fun d => .of_unbroken ?_, fun d => ?_⟩
  · simp only [onOneLine]
    decide
  · intro last hlast
    apply Guarded.of_unbroken
    revert last
    simp only [onOneLine]
    decide

theorem Guarded.newline_cons {row : List Char} (hrow : '\n' ∉ row) (hne : row ≠ [])
    (hhead : row.head? ≠ some '\x60') : Guarded ('\n' :: row) := by
  have hguarded := Guarded.of_unbroken hrow
  refine ⟨List.isChain_cons.mpr ⟨?_, hguarded.chain⟩, ?_⟩
  · rintro d hd - rfl
    exact hhead hd
  · rw [List.getLast?_cons, List.getLast?_eq_some_getLast hne]
    intro hlast
    exact hrow (Option.some.inj hlast ▸ List.getLast_mem hne)

-- A new line is indented, or the last bracket stands in it.
theorem guarded_onManyLines : onManyLines.Guarded := by
  have hindent : ∀ d, Guarded (newline (d + 1)).toList := by
    intro d
    rw [newline, String.toList_ofList]
    apply Guarded.newline_cons <;> simp [Nat.mul_succ, List.replicate_succ]
  refine ⟨hindent, fun d => ?_, fun d last hlast => ?_⟩
  · simp only [onManyLines, String.toList_append]
    exact (Guarded.of_unbroken (by decide)).append (hindent d)
  · simp only [List.mem_cons, List.not_mem_nil, or_false] at hlast
    simp only [onManyLines, newline, String.toList_ofList, List.cons_append]
    rcases hlast with rfl | rfl <;> apply Guarded.newline_cons <;>
      cases d <;> simp [Nat.mul_succ, List.replicate_succ]

theorem Guarded.not_closing {cs : List Char} (h : Guarded cs) : ¬ Text.Fence.closing <:+: cs := by
  intro hinfix
  have hchain := h.chain.infix hinfix
  obtain ⟨hfirst, -⟩ := List.isChain_cons_cons.mp hchain
  exact hfirst rfl rfl

-- Neither way of writing a value down closes a fence.
theorem closing_not_infix_encode (v : Value) : ¬ Text.Fence.closing <:+: (encode v).toList :=
  ((guarded_encodeAt guarded_onOneLine).1 0 v).not_closing

theorem closing_not_infix_encodePretty (v : Value) :
    ¬ Text.Fence.closing <:+: (encodePretty v).toList :=
  ((guarded_encodeAt guarded_onManyLines).1 0 v).not_closing

end Json

end FieldTemplates
