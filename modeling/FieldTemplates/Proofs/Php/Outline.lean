import FieldTemplates.Proofs.Php.View
import Mathlib.Tactic.SplitIfs

namespace FieldTemplates.Php

def Token.bare? : Token → Option Token
  | .literal _ => some (.literal [])
  | .comment _ | .remark _ => none
  | t => some t

def outline (ts : List Token) : List Token := ts.filterMap Token.bare?

-- A state without the text it has read, words apart.
def State.bare : State → State
  | .literal _ => .literal []
  | .escape _ => .escape []
  | .comment _ => .comment []
  | .star _ => .star []
  | .remark _ => .remark []
  | .remarkQuestion _ => .remarkQuestion []
  | s => s

def outlineView : View where
  token := Token.bare?
  state := State.bare
  state_state s := by cases s <;> rfl
  step_state s c := by
    cases s with
    | code | word | slash | question => rfl
    | literal | escape | comment | star | remark | remarkQuestion =>
        simp only [State.bare, step]
        split_ifs <;> rfl

-- Reading for the outline only.
abbrev skim (s : State) (cs : List Char) : Option (List Token × State) := outlineView.read s cs

-- From one state to another with some outline.
abbrev Reads (s : State) (cs : List Char) (ts : List Token) (s' : State) : Prop :=
  outlineView.Reads s cs ts s'

theorem outline_append (ts us : List Token) : outline (ts ++ us) = outline ts ++ outline us :=
  List.filterMap_append

-- Where the outline ends, the reader is in that state up to the text it holds.
theorem Reads.exists_scan {s s' : State} {cs : List Char} {ts : List Token}
    (h : Reads s cs ts s') : ∃ us t, scan s cs = some (us, t) ∧ outline us = ts ∧ t.bare = s' :=
  View.Reads.exists_scan h

theorem State.eq_code_of_bare {s : State} (h : s.bare = .code) : s = .code := by
  cases s <;> first | rfl | cases h

end FieldTemplates.Php
