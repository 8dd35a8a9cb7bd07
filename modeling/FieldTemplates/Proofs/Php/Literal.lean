import FieldTemplates.Php.Quoted
import FieldTemplates.Proofs.Php.Lexer

namespace FieldTemplates.Php

theorem step_literal_other {w : List Char} {c : Char} (hs : c ≠ '\\') (hq : c ≠ '\'') :
    step (.literal w) c = some ([], .literal (w ++ [c])) := by
  simp [step, hs, hq]

theorem scan_quoteChar (w : List Char) (c : Char) :
    scan (.literal w) (quoteChar c) = some ([], .literal (w ++ [c])) := by
  by_cases hs : c = '\\'
  · subst hs
    simp [quoteChar, scan, step]
  · by_cases hq : c = '\''
    · subst hq
      simp [quoteChar, scan, step]
    · have hc : quoteChar c = [c] := by simp [quoteChar, hs, hq]
      simp [hc, scan, step_literal_other hs hq]

-- What a character of an attribute stands for, as the literal holds it.
def attributeText (c : Char) : List Char := if c = '"' then "&quot;".toList else [c]

theorem scan_attributeChar (w : List Char) (c : Char) :
    scan (.literal w) (attributeChar c) = some ([], .literal (w ++ attributeText c)) := by
  by_cases hc : c = '"'
  · subst hc
    simp [attributeChar, attributeText, scan, step]
  · simpa only [attributeChar, attributeText, hc, ite_false] using scan_quoteChar w c

theorem scan_flatMap_literal {f g : Char → List Char}
    (hf : ∀ w c, scan (.literal w) (f c) = some ([], .literal (w ++ g c))) (w cs : List Char) :
    scan (.literal w) (cs.flatMap f) = some ([], .literal (w ++ cs.flatMap g)) := by
  induction cs generalizing w with
  | nil => simp [scan]
  | cons c cs ih =>
      rw [List.flatMap_cons, List.flatMap_cons, scan_append, hf, Option.bind_some, ih]
      simp only [Option.map_some, List.nil_append, List.append_assoc]

theorem scan_quoted (w cs : List Char) :
    scan (.literal w) (quoted cs) = some ([], .literal (w ++ cs)) := by
  have h := scan_flatMap_literal scan_quoteChar w cs
  rwa [List.flatMap_singleton'] at h

theorem scan_inAttribute (w cs : List Char) :
    scan (.literal w) (inAttribute cs) = some ([], .literal (w ++ cs.flatMap attributeText)) :=
  scan_flatMap_literal scan_attributeChar w cs

end FieldTemplates.Php
