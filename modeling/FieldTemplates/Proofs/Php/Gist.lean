import FieldTemplates.Proofs.Php.Outline
import FieldTemplates.Proofs.Text.Settle

namespace FieldTemplates.Php

open Text (settle)

def Token.gist : Token → Token
  | .literal w => .literal (settle w)
  | .comment w => .comment (settle w)
  | .remark _ => .remark []
  | t => t

def gist (ts : List Token) : List Token := ts.map Token.gist

def State.gist : State → State
  | .literal w => .literal (settle w)
  | .escape w => .escape (settle w)
  | .comment w => .comment (settle w)
  | .star w => .star (settle w)
  | .remark _ => .remark []
  | .remarkQuestion _ => .remarkQuestion []
  | s => s

theorem State.gist_gist (s : State) : s.gist.gist = s.gist := by
  cases s <;> simp only [State.gist, Text.settle_settle]

def gistView : View where
  token t := some t.gist
  state := State.gist
  state_state := State.gist_gist
  step_state s c := by
    cases s with
    | code | word | slash | question => rfl
    | literal | escape | comment | star =>
        simp only [State.gist, step]
        split_ifs <;>
          simp [Token.gist, Text.settle_append_settle, Text.settle_settle]
    | remark | remarkQuestion =>
        simp only [State.gist, step]
        split_ifs <;> rfl

theorem kept_gistView (ts : List Token) : gistView.kept ts = gist ts :=
  congrFun (List.filterMap_eq_map (f := Token.gist)) ts

-- From one state to another with some gist.
abbrev Tells (s : State) (cs : List Char) (ts : List Token) (t : State) : Prop :=
  gistView.Reads s cs ts t

theorem tells_code_nil : Tells .code [] [] .code := View.Reads.nil rfl

theorem gist_append (ts us : List Token) : gist (ts ++ us) = gist ts ++ gist us := List.map_append

theorem outline_gist (ts : List Token) : outline (gist ts) = outline ts := by
  rw [gist, outline, outline, List.filterMap_map]
  exact List.filterMap_congr fun t _ => by cases t <;> rfl

theorem State.eq_code_of_gist {s : State} (h : s.gist = .code) : s = .code := by
  cases s <;> first | rfl | cases h

theorem tells_of_scan {s t : State} {cs : List Char} {ts : List Token}
    (h : scan s cs = some (ts, t)) : Tells s cs (gist ts) t.gist := by
  rw [← kept_gistView]
  exact View.reads_of_scan h

-- What is told on the way back to code is told by the tokens that are read.
theorem Tells.exists_scan {s : State} {cs : List Char} {ts : List Token} (h : Tells s cs ts .code) :
    ∃ us, scan s cs = some (us, .code) ∧ gist us = ts := by
  obtain ⟨us, u, hscan, hts, hstate⟩ := View.Reads.exists_scan h
  obtain rfl := State.eq_code_of_gist hstate
  exact ⟨us, hscan, (kept_gistView us).symm.trans hts⟩

theorem Tells.reads {s : State} {cs : List Char} {ts : List Token} (h : Tells s cs ts .code) :
    Reads s cs (outline ts) .code := by
  obtain ⟨us, hscan, rfl⟩ := h.exists_scan
  rw [outline_gist]
  exact View.reads_of_scan hscan

end FieldTemplates.Php
