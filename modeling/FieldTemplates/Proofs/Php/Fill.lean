import FieldTemplates.Proofs.Php.Lexer
import Mathlib.Tactic.SplitIfs

namespace FieldTemplates.Php

def isSign (c : Char) : Bool := 0xE000 ≤ c.toNat && c.toNat < 0xE010

variable (meant : Char → List Char)

def Token.fill : Token → Token
  | .literal w => .literal (w.flatMap meant)
  | .comment w => .comment (w.flatMap meant)
  | t => t

def State.fill : State → State
  | .literal w => .literal (w.flatMap meant)
  | .escape w => .escape (w.flatMap meant)
  | .comment w => .comment (w.flatMap meant)
  | .star w => .star (w.flatMap meant)
  | s => s

variable {meant} (hmeant : ∀ c, isSign c = false → meant c = [c])
include hmeant

theorem step_fill (s : State) {c : Char} (hc : isSign c = false) :
    step (s.fill meant) c = (step s c).map fun r => (r.1.map (Token.fill meant), r.2.fill meant) := by
  have hself : meant c = [c] := hmeant c hc
  have hback : meant '\\' = ['\\'] := hmeant '\\' (by decide)
  have hstar : meant '*' = ['*'] := hmeant '*' (by decide)
  have hstart : start c = (start c).map fun r => (r.1.map (Token.fill meant), r.2.fill meant) := by
    simp only [start]
    split_ifs <;> rfl
  have hafter : ∀ t : Token, t.fill meant = t → after t (start c) =
      (after t (start c)).map fun r => (r.1.map (Token.fill meant), r.2.fill meant) := by
    intro t ht
    conv => lhs; rw [after, hstart]
    simp only [after, Option.map_map, Function.comp_def, List.map_cons, ht]
  cases s with
  | code => exact hstart
  | word w =>
      simp only [State.fill, step]
      split_ifs
      · rfl
      · exact hafter (.word w) rfl
  | question =>
      simp only [State.fill, step]
      split_ifs
      · rfl
      · exact hafter (.symbol '?') rfl
  | slash | remark | remarkQuestion =>
      simp only [State.fill, step]
      split_ifs <;> rfl
  | literal | escape | comment | star =>
      simp only [State.fill, step]
      split_ifs <;>
        simp [Token.fill, hself, hback, hstar]

theorem scan_fill (s : State) {cs : List Char} (hcs : ∀ c ∈ cs, isSign c = false) :
    scan (s.fill meant) cs =
      (scan s cs).map fun r => (r.1.map (Token.fill meant), r.2.fill meant) := by
  induction cs generalizing s with
  | nil => rfl
  | cons c cs ih =>
      simp only [scan, step_fill hmeant s (hcs c List.mem_cons_self)]
      cases step s c with
      | none => rfl
      | some r =>
          simp only [Option.map_some, Option.bind_some, ih r.2 fun d hd => hcs d (List.mem_cons_of_mem _ hd)]
          cases scan r.2 cs with
          | none => rfl
          | some q => simp only [Option.map_some, List.map_append]

end FieldTemplates.Php
