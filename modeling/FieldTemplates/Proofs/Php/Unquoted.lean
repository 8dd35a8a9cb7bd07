import FieldTemplates.Proofs.Php.Literal

namespace FieldTemplates.Php

-- The first token and what follows the character that completes it.
def firstToken (s : State) : List Char → Option (Token × List Char)
  | [] => none
  | c :: cs =>
    match step s c with
    | none => none
    | some ([], t) => firstToken t cs
    | some (token :: _, _) => some (token, cs)

-- A text in which no token ends.
theorem firstToken_append {s t : State} {cs : List Char} (h : scan s cs = some ([], t))
    (rest : List Char) : firstToken s (cs ++ rest) = firstToken t rest := by
  induction cs generalizing s with
  | nil =>
      obtain ⟨-, rfl⟩ := Prod.mk.inj (Option.some.inj h)
      rfl
  | cons c cs ih =>
      obtain ⟨⟨first, u⟩, hstep, hscan⟩ := Option.bind_eq_some_iff.mp h
      obtain ⟨⟨more, v⟩, hmore, hjoin⟩ := Option.map_eq_some_iff.mp hscan
      obtain ⟨hnil, rfl⟩ := Prod.mk.inj hjoin
      obtain ⟨rfl, rfl⟩ := List.append_eq_nil_iff.mp hnil
      rw [List.cons_append, firstToken, hstep]
      exact ih hmore

-- Between its quotes stands what the reader takes for `value`.
theorem firstToken_literal {inside value : List Char}
    (h : scan (.literal []) inside = some ([], .literal value)) (rest : List Char) :
    firstToken .code ('\'' :: (inside ++ '\'' :: rest)) = some (.literal value, rest) := by
  have hopening : firstToken .code ('\'' :: (inside ++ '\'' :: rest)) =
      firstToken (.literal []) (inside ++ '\'' :: rest) := rfl
  rw [hopening, firstToken_append h]
  rfl

-- `text` in the place of each `mark`.
def replaced (mark : Char) (text cs : List Char) : List Char :=
  cs.flatMap fun c => if c = mark then text else [c]

theorem replaced_cons (mark : Char) (text : List Char) (c : Char) (cs : List Char) :
    replaced mark text (c :: cs) =
      (if c = mark then text else [c]) ++ replaced mark text cs := rfl

theorem replaced_append (mark : Char) (text cs ds : List Char) :
    replaced mark text (cs ++ ds) = replaced mark text cs ++ replaced mark text ds :=
  List.flatMap_append

theorem notMem_replaced {mark : Char} {text : List Char} (htext : mark ∉ text) (cs : List Char) :
    mark ∉ replaced mark text cs := by
  intro hmem
  obtain ⟨c, -, hc⟩ := List.mem_flatMap.mp hmem
  by_cases hmark : c = mark
  · rw [if_pos hmark] at hc
    exact htext hc
  · rw [if_neg hmark] at hc
    exact hmark (List.mem_singleton.mp hc).symm

theorem quoted_cons (c : Char) (cs : List Char) : quoted (c :: cs) = quoteChar c ++ quoted cs := rfl

theorem quoted_append (cs ds : List Char) : quoted (cs ++ ds) = quoted cs ++ quoted ds :=
  List.flatMap_append

-- Quoting is escaping the backslashes and then the quotes. The other way round, the backslashes that
-- escape quotes would be escaped themselves.
theorem quoted_eq_replaced (cs : List Char) :
    quoted cs = replaced '\'' ['\\', '\''] (replaced '\\' ['\\', '\\'] cs) := by
  induction cs with
  | nil => rfl
  | cons c cs ih =>
      rw [quoted_cons, replaced_cons, replaced_append, ih]
      congr 1
      by_cases hback : c = '\\'
      · subst hback
        rfl
      · by_cases hquote : c = '\''
        · subst hquote
          rfl
        · simp [quoteChar, replaced, hback, hquote]

theorem inAttribute_eq_quoted (cs : List Char) :
    inAttribute cs = quoted (replaced '"' "&quot;".toList cs) := by
  induction cs with
  | nil => rfl
  | cons c cs ih =>
      have hcons : inAttribute (c :: cs) = attributeChar c ++ inAttribute cs := rfl
      rw [hcons, replaced_cons, quoted_append, ih]
      congr 1
      by_cases hmark : c = '"'
      · subst hmark
        decide
      · rw [attributeChar, if_neg hmark, if_neg hmark, quoted_cons]
        exact (List.append_nil _).symm

theorem quoted_injective : Function.Injective quoted := by
  intro cs ds h
  have hread := scan_quoted [] cs
  rw [h, scan_quoted] at hread
  exact (State.literal.inj (Prod.mk.inj (Option.some.inj hread)).2).symm

-- A literal around a quoted text, and one around a text for an attribute, is read up to its end and
-- stands for the text, where the attribute has the double quotes as entities.
theorem literals_read_back :
    (∀ cs rest : List Char,
        firstToken .code ('\'' :: (quoted cs ++ '\'' :: rest)) = some (.literal cs, rest)) ∧
      (∀ cs rest : List Char, ∃ value,
        firstToken .code ('\'' :: (inAttribute cs ++ '\'' :: rest)) = some (.literal value, rest) ∧
          value = replaced '"' "&quot;".toList cs ∧ '"' ∉ value) ∧
      (∀ cs : List Char,
        quoted cs = replaced '\'' ['\\', '\''] (replaced '\\' ['\\', '\\'] cs) ∧
          inAttribute cs = quoted (replaced '"' "&quot;".toList cs)) ∧
      Function.Injective quoted := by
  refine ⟨?_, ?_, ?_, quoted_injective⟩
  · intro cs rest
    exact firstToken_literal (scan_quoted [] cs) rest
  · intro cs rest
    refine ⟨replaced '"' "&quot;".toList cs, ?_, rfl, notMem_replaced (by decide) cs⟩
    exact firstToken_literal (scan_inAttribute [] cs) rest
  · intro cs
    exact ⟨quoted_eq_replaced cs, inAttribute_eq_quoted cs⟩

-- A backslash in front of a quote, and one at the end.
example : quoted "\\'\\".toList = "\\\\\\'\\\\".toList := by decide

end FieldTemplates.Php
