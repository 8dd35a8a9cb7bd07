import FieldTemplates.Proofs.Php.Layout
import FieldTemplates.Proofs.Text.Rows

namespace FieldTemplates.Php

-- A slash in code can only begin a comment.
def State.inComment : State → Bool
  | .slash | .comment _ | .star _ | .remark _ | .remarkQuestion _ => true
  | .code | .word _ | .question | .literal _ | .escape _ => false

def State.inLiteral : State → Bool
  | .literal _ | .escape _ => true
  | _ => false

-- Whether the character between two states is part of a comment. The line end behind a line comment
-- is not.
def isHidden (s t : State) : Bool :=
  match s with
  | .star _ => true
  | _ => t.inComment

def strip (s : State) : List Char → Option (List Char × State)
  | [] => some ([], s)
  | c :: cs => (step s c).bind fun r =>
    (strip r.2 cs).map fun q => (if isHidden s r.2 then q.1 else c :: q.1, q.2)

-- A row of blanks inside a literal is part of what the literal holds and stays.
def codeRows (s : State) : List (List Char) → Option (List (List Char) × State)
  | [] => some ([], s)
  | row :: rows => (strip s (row ++ ['\n'])).bind fun r =>
    (codeRows r.2 rows).map fun q =>
      (if !s.inLiteral && r.1.all Text.isBlank then q.1 else r.1 :: q.1, q.2)

-- The rows of code of a document that opens the language at once and ends in code.
def codeOf? (cs : List Char) : Option (List (List Char)) :=
  if opening.isPrefixOf cs then
    match codeRows .code (Text.lines (cs.drop opening.length)) with
    | some (rows, .code) => some rows
    | _ => none
  else none

theorem codeRows_append (s : State) (rows more : List (List Char)) :
    codeRows s (rows ++ more) =
      (codeRows s rows).bind fun r => (codeRows r.2 more).map fun q => (r.1 ++ q.1, q.2) := by
  induction rows generalizing s with
  | nil => simp [codeRows]
  | cons row rows ih =>
      simp only [List.cons_append, codeRows, ih]
      cases strip s (row ++ ['\n']) with
      | none => rfl
      | some r =>
          simp only [Option.bind_some]
          cases codeRows r.2 rows with
          | none => rfl
          | some q =>
              simp only [Option.bind_some, Option.map_some]
              cases codeRows q.2 more with
              | none => rfl
              | some p => split_ifs <;> rfl

-- What can be read can be stripped, and leads to the same state.
theorem strip_of_scan {s t : State} {cs : List Char} {ts : List Token}
    (h : scan s cs = some (ts, t)) : ∃ kept, strip s cs = some (kept, t) := by
  induction cs generalizing s ts with
  | nil =>
      obtain ⟨-, rfl⟩ := Prod.mk.inj (Option.some.inj h)
      exact ⟨[], rfl⟩
  | cons c cs ih =>
      rw [scan] at h
      obtain ⟨r, hstep, h⟩ := Option.bind_eq_some_iff.mp h
      obtain ⟨q, hscan, h⟩ := Option.map_eq_some_iff.mp h
      obtain ⟨-, rfl⟩ := Prod.mk.inj h
      obtain ⟨kept, hkept⟩ := ih hscan
      exact ⟨_, by rw [strip, hstep, Option.bind_some, hkept, Option.map_some]⟩

theorem codeRows_of_scan {s t : State} {rows : List (List Char)} {ts : List Token}
    (h : scan s (Text.ended rows) = some (ts, t)) : ∃ kept, codeRows s rows = some (kept, t) := by
  induction rows generalizing s ts with
  | nil =>
      obtain ⟨-, rfl⟩ := Prod.mk.inj (Option.some.inj h)
      exact ⟨[], rfl⟩
  | cons row rows ih =>
      rw [Text.ended_cons, scan_append] at h
      obtain ⟨r, hrow, h⟩ := Option.bind_eq_some_iff.mp h
      obtain ⟨q, hscan, h⟩ := Option.map_eq_some_iff.mp h
      obtain ⟨-, rfl⟩ := Prod.mk.inj h
      obtain ⟨w, hw⟩ := strip_of_scan hrow
      obtain ⟨kept, hkept⟩ := ih hscan
      exact ⟨_, by rw [codeRows, hw, Option.bind_some, hkept, Option.map_some]⟩

-- On the way to a token of code.
def State.isBusy : State → Bool
  | .word _ | .question | .literal _ | .escape _ => true
  | .code | .slash | .comment _ | .star _ | .remark _ | .remarkQuestion _ => false

theorem outline_cons_ne_nil {t : Token} {ts : List Token} (h : t.bare?.isSome = true) :
    outline (t :: ts) ≠ [] := by
  obtain ⟨u, hu⟩ := Option.isSome_iff_exists.mp h
  rw [outline, List.filterMap_cons_some hu]
  exact List.cons_ne_nil _ _

theorem step_busy {s t : State} {c : Char} {ts : List Token} (hs : s.isBusy = true)
    (h : step s c = some (ts, t)) : t.isBusy = true ∨ outline ts ≠ [] := by
  have hafter : ∀ {u : Token}, u.bare?.isSome = true → after u (start c) = some (ts, t) →
      outline ts ≠ [] := by
    intro u hu hstart
    obtain ⟨r, -, hr⟩ := Option.map_eq_some_iff.mp hstart
    obtain ⟨rfl, -⟩ := Prod.mk.inj hr
    exact outline_cons_ne_nil hu
  cases s with
  | word w =>
      simp only [step] at h
      split_ifs at h
      · cases h
        exact .inl rfl
      · exact .inr (hafter rfl h)
  | question =>
      simp only [step] at h
      split_ifs at h
      exact .inr (hafter rfl h)
  | literal w | escape w =>
      simp only [step] at h
      split_ifs at h <;> cases h <;> first | exact .inl rfl | exact .inr (outline_cons_ne_nil rfl)
  | code | slash | comment | star | remark | remarkQuestion => cases hs

-- A token of code that is begun is completed.
theorem outline_ne_nil_of_busy {s : State} {cs : List Char} {ts : List Token} (hs : s.isBusy = true)
    (h : scan s cs = some (ts, .code)) : outline ts ≠ [] := by
  induction cs generalizing s ts with
  | nil =>
      obtain ⟨-, rfl⟩ := Prod.mk.inj (Option.some.inj h)
      cases hs
  | cons c cs ih =>
      rw [scan] at h
      obtain ⟨⟨us, m⟩, hstep, h⟩ := Option.bind_eq_some_iff.mp h
      obtain ⟨⟨vs, t⟩, hscan, h⟩ := Option.map_eq_some_iff.mp h
      obtain ⟨rfl, rfl⟩ := Prod.mk.inj h
      rw [outline_append]
      intro hnil
      obtain ⟨hus, hvs⟩ := List.append_eq_nil_iff.mp hnil
      rcases step_busy hs hstep with hm | hne
      · exact ih hm hscan hvs
      · exact hne hus

theorem step_idle {s t : State} {c : Char} {ts : List Token} (hs : s.isBusy = false)
    (h : step s c = some (ts, t)) :
    t.isBusy = true ∨ outline ts ≠ [] ∨ isHidden s t = true ∨ isSpace c = true := by
  have hbreak : c = '\n' ∨ c = '\r' → isSpace c = true := by
    rintro (rfl | rfl) <;> rfl
  cases s with
  | code =>
      simp only [step, start] at h
      split_ifs at h with hword hspace
      · cases h
        exact .inl rfl
      · exact .inr (.inr (.inr hspace))
      · cases h
        exact .inl rfl
      · cases h
        exact .inr (.inr (.inl rfl))
      · cases h
        exact .inl rfl
      · cases h
        exact .inr (.inl (outline_cons_ne_nil rfl))
  | slash =>
      simp only [step] at h
      split_ifs at h <;> cases h <;> exact .inr (.inr (.inl rfl))
  | comment w =>
      simp only [step] at h
      split_ifs at h <;> cases h <;> exact .inr (.inr (.inl rfl))
  | star w => exact .inr (.inr (.inl rfl))
  | remark w | remarkQuestion w =>
      simp only [step] at h
      split_ifs at h <;>
        first
        | (cases h; exact .inr (.inr (.inl rfl)))
        | exact .inr (.inr (.inr (hbreak ‹_›)))
  | word | question | literal | escape => cases hs

-- What is read as nothing but comments leaves nothing but white space.
theorem strip_of_outline_nil {s : State} {cs : List Char} {ts : List Token} (hs : s.isBusy = false)
    (h : scan s cs = some (ts, .code)) (hts : outline ts = []) :
    ∃ w, strip s cs = some (w, .code) ∧ ∀ c ∈ w, isSpace c = true := by
  induction cs generalizing s ts with
  | nil =>
      obtain ⟨-, rfl⟩ := Prod.mk.inj (Option.some.inj h)
      exact ⟨[], rfl, fun c hc => absurd hc List.not_mem_nil⟩
  | cons c cs ih =>
      rw [scan] at h
      obtain ⟨⟨us, m⟩, hstep, h⟩ := Option.bind_eq_some_iff.mp h
      obtain ⟨⟨vs, t⟩, hscan, h⟩ := Option.map_eq_some_iff.mp h
      obtain ⟨rfl, rfl⟩ := Prod.mk.inj h
      rw [outline_append] at hts
      obtain ⟨hus, hvs⟩ := List.append_eq_nil_iff.mp hts
      have hm : m.isBusy = false := by
        cases hbusy : m.isBusy with
        | false => rfl
        | true => exact absurd hvs (outline_ne_nil_of_busy hbusy hscan)
      obtain ⟨w, hw, hspaces⟩ := ih hm hscan hvs
      simp only [strip, hstep, Option.bind_some, hw, Option.map_some]
      rcases step_idle hs hstep with hbusy | hne | hhidden | hspace
      · rw [hm] at hbusy
        cases hbusy
      · exact absurd hus hne
      · exact ⟨w, by rw [if_pos hhidden], hspaces⟩
      · refine ⟨_, rfl, ?_⟩
        split_ifs
        · exact hspaces
        · exact List.forall_mem_cons.mpr ⟨hspace, hspaces⟩

-- A row of comments leaves no row of code.
theorem codeRows_of_outline_nil {row : List Char} {ts : List Token}
    (h : scan .code (row ++ ['\n']) = some (ts, .code)) (hts : outline ts = [])
    (rows : List (List Char)) : codeRows .code (row :: rows) = codeRows .code rows := by
  obtain ⟨w, hw, hspaces⟩ := strip_of_outline_nil rfl h hts
  have hblank : w.all Text.isBlank = true :=
    List.all_eq_true.mpr fun c hc => isBlank_of_isSpace (hspaces c hc)
  simp only [codeRows, hw, Option.bind_some, hblank, State.inLiteral]
  cases codeRows .code rows with
  | none => rfl
  | some q => rfl

theorem codeOf?_opening {cs : List Char} {rows : List (List Char)}
    (h : codeRows .code (Text.lines cs) = some (rows, .code)) : codeOf? (opening ++ cs) = some rows := by
  have hp : opening.isPrefixOf (opening ++ cs) = true :=
    List.isPrefixOf_iff_prefix.mpr (List.prefix_append _ _)
  simp only [codeOf?, hp, ite_true, List.drop_left, h]

end FieldTemplates.Php
