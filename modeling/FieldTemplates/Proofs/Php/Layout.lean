import FieldTemplates.Proofs.Php.Gist

namespace FieldTemplates.Php

open Text (settle)

-- At the start of a row: in code, or in a text that goes on after a line feed.
def State.Fresh : State → Prop
  | .code => True
  | .literal w | .comment w => ∃ v, w = settle (v ++ ['\n'])
  | _ => False

theorem fresh_code : State.code.Fresh := trivial

theorem isBlank_of_isSpace {c : Char} (hc : isSpace c = true) : Text.isBlank c = true := by
  simp only [isSpace, Bool.or_eq_true, beq_iff_eq] at hc
  rcases hc with ((rfl | rfl) | rfl) | rfl <;> decide

-- White space behind a line feed is lost on a text.
theorem settle_fresh {v : List Char} {c : Char} (hc : Text.isBlank c = true) :
    settle (settle (v ++ ['\n']) ++ [c]) = settle (settle (v ++ ['\n'])) := by
  rw [Text.settle_append_settle, Text.settle_settle, List.append_assoc]
  exact Text.settle_append_congr v (Text.settle_newline_blank hc [])

theorem step_space_of_fresh {s : State} {c : Char} (hs : s.Fresh) (hc : isSpace c = true) :
    ∃ t, step s c = some ([], t) ∧ t.gist = s.gist := by
  have hblank := isBlank_of_isSpace hc
  have hne : ∀ d, isSpace d = false → c ≠ d := by
    rintro d hd rfl
    rw [hc] at hd
    cases hd
  cases s with
  | code =>
      have hword : isWordChar c = false := by
        simp only [isSpace, Bool.or_eq_true, beq_iff_eq] at hc
        rcases hc with ((rfl | rfl) | rfl) | rfl <;> decide
      exact ⟨.code, by simp [step, start, hword, hc], rfl⟩
  | literal w =>
      obtain ⟨v, rfl⟩ := hs
      refine ⟨.literal (settle (v ++ ['\n']) ++ [c]), ?_, ?_⟩
      · simp [step, hne '\\' (by decide), hne '\'' (by decide)]
      · simp only [State.gist, settle_fresh hblank]
  | comment w =>
      obtain ⟨v, rfl⟩ := hs
      refine ⟨.comment (settle (v ++ ['\n']) ++ [c]), ?_, ?_⟩
      · simp [step, hne '*' (by decide)]
      · simp only [State.gist, settle_fresh hblank]
  | word | slash | question | escape | star | remark | remarkQuestion => cases hs

theorem tell_space {s : State} (hs : s.Fresh) {c : Char} (hc : isSpace c = true) (cs : List Char) :
    gistView.read s (c :: cs) = gistView.read s cs := by
  obtain ⟨t, hstep, hgist⟩ := step_space_of_fresh hs hc
  exact gistView.read_of_stays hstep hgist cs

theorem tell_spaces {s : State} (hs : s.Fresh) {w : List Char} (hw : ∀ c ∈ w, isSpace c = true)
    (cs : List Char) : gistView.read s (w ++ cs) = gistView.read s cs := by
  induction w with
  | nil => rfl
  | cons c w ih =>
      rw [List.cons_append, tell_space hs (hw c List.mem_cons_self),
        ih fun d hd => hw d (List.mem_cons_of_mem _ hd)]

-- After a line feed a reader is in code, a literal or a comment.
theorem tells_newline {s t : State} {ts : List Token} (h : Tells s ['\n'] ts t) : t.Fresh := by
  obtain ⟨us, m, hscan, -, rfl⟩ := View.Reads.exists_scan h
  cases s with
  | slash => cases hscan
  | code | word | question | remark | remarkQuestion =>
      cases hscan
      trivial
  | literal w | comment w =>
      cases hscan
      exact ⟨w, rfl⟩
  | escape w =>
      cases hscan
      exact ⟨w ++ ['\\'], by simp⟩
  | star w =>
      cases hscan
      exact ⟨w ++ ['*'], by simp⟩

theorem Tells.fresh {s t : State} {cs : List Char} {ts : List Token}
    (h : Tells s (cs ++ ['\n']) ts t) : t.Fresh := by
  obtain ⟨-, m, vs, -, hnewline, -⟩ := View.reads_append_iff.mp h
  exact tells_newline hnewline

theorem blank_ne {c d : Char} (hc : Text.isBlank c = true) (hd : Text.isBlank d = false) :
    c ≠ d := by
  rintro rfl
  rw [hc] at hd
  cases hd

theorem toNat_of_isAlphanum {c : Char} (h : c.isAlphanum = true) :
    (65 ≤ c.toNat ∧ c.toNat ≤ 90) ∨ (97 ≤ c.toNat ∧ c.toNat ≤ 122) ∨
      (48 ≤ c.toNat ∧ c.toNat ≤ 57) := by
  rcases Bool.or_eq_true_iff.mp (show (c.isAlpha || c.isDigit) = true from h) with halpha | hdigit
  · rcases Bool.or_eq_true_iff.mp (show (c.isUpper || c.isLower) = true from halpha) with
      hupper | hlower
    · obtain ⟨hge, hle⟩ : 'A'.val ≤ c.val ∧ c.val ≤ 'Z'.val := of_decide_eq_true hupper
      exact .inl ⟨UInt32.le_iff_toNat_le.mp hge, UInt32.le_iff_toNat_le.mp hle⟩
    · obtain ⟨hge, hle⟩ := Bool.and_eq_true_iff.mp hlower
      exact .inr (.inl ⟨UInt32.le_iff_toNat_le.mp (of_decide_eq_true hge),
        UInt32.le_iff_toNat_le.mp (of_decide_eq_true hle)⟩)
  · exact .inr (.inr (Char.isDigit_iff_toNat.mp hdigit))

theorem isWordChar_blank {c : Char} (hc : Text.isBlank c = true) : isWordChar c = false := by
  cases hword : isWordChar c with
  | false => rfl
  | true =>
      simp only [isWordChar, Bool.or_eq_true, beq_iff_eq] at hword
      rcases hword with (halphanum | rfl) | rfl
      · have hrange := toNat_of_isAlphanum halphanum
        simp only [Text.isBlank, Bool.or_eq_true, Bool.and_eq_true, decide_eq_true_eq,
          beq_iff_eq] at hc
        omega
      · exact absurd hc (by decide)
      · exact absurd hc (by decide)

-- In code a blank is white space or it is refused.
theorem start_blank {c : Char} (hc : Text.isBlank c = true) :
    start c = some ([], .code) ∨ start c = none := by
  have hsymbol : isSymbol c = false := by
    cases hs : isSymbol c with
    | false => rfl
    | true =>
        have hall : "()\x7b\x7d[];:,.=->".toList.all (!Text.isBlank ·) = true := by decide
        have hnot := List.all_eq_true.mp hall c (List.contains_iff_mem.mp hs)
        rw [hc] at hnot
        cases hnot
  have hquote : c ≠ '\'' := blank_ne hc (by decide)
  have hslash : c ≠ '/' := blank_ne hc (by decide)
  have hquestion : c ≠ '?' := blank_ne hc (by decide)
  cases hspace : isSpace c <;>
    simp [start, isWordChar_blank hc, hspace, hquote, hslash, hquestion, hsymbol]

-- A blank before a line end is refused or lost on the gist.
theorem tell_blank_newline (s : State) {c : Char} (hc : Text.isBlank c = true) :
    gistView.read s [c, '\n'] = none ∨ gistView.read s [c, '\n'] = gistView.read s ['\n'] := by
  have hstart := start_blank hc
  have hword := isWordChar_blank hc
  have hslash : c ≠ '/' := blank_ne hc (by decide)
  have hback : c ≠ '\\' := blank_ne hc (by decide)
  have hquote : c ≠ '\'' := blank_ne hc (by decide)
  have hstar : c ≠ '*' := blank_ne hc (by decide)
  have hquestion : c ≠ '?' := blank_ne hc (by decide)
  have hclose : c ≠ '>' := blank_ne hc (by decide)
  have hsettle : ∀ w, settle (w ++ [c, '\n']) = settle (w ++ ['\n']) := fun w =>
    Text.settle_append_congr w (Text.settle_blank_newline hc [])
  cases s with
  | code | word | question =>
      rcases hstart with hstart | hstart
      · exact .inr (by simp only [View.read_cons, step, hword, hclose, hstart]; rfl)
      · exact .inl (by simp only [View.read_cons, step, hword, hclose, hstart]; rfl)
  | slash => exact .inl (by simp only [View.read_cons, step, hslash, hstar]; rfl)
  | literal w =>
      refine .inr ?_
      simp [View.read, scan, step, hback, hquote, gistView, State.gist, View.kept, hsettle]
  | escape w =>
      refine .inr ?_
      have hlong := hsettle (w ++ ['\\'])
      simp only [List.append_assoc, List.cons_append, List.nil_append] at hlong
      simp [View.read, scan, step, hback, hquote, gistView, State.gist, View.kept, hlong]
  | comment w =>
      refine .inr ?_
      simp [View.read, scan, step, hstar, gistView, State.gist, View.kept, hsettle]
  | star w =>
      refine .inr ?_
      have hlong := hsettle (w ++ ['*'])
      simp only [List.append_assoc, List.cons_append, List.nil_append] at hlong
      simp [View.read, scan, step, hstar, hslash, gistView, State.gist, View.kept, hlong]
  | remark w | remarkQuestion w =>
      by_cases hbreak : c = '\n' ∨ c = '\r'
      · exact .inr (by simp only [View.read_cons, step, hbreak, hclose]; rfl)
      · exact .inr (by simp only [View.read_cons, step, hbreak, hclose, hquestion]; rfl)

theorem Tells.of_blank {s t : State} {ts : List Token} {w : List Char}
    (hw : ∀ c ∈ w, Text.isBlank c = true) (h : Tells s (w ++ ['\n']) ts t) :
    Tells s ['\n'] ts t := by
  induction w generalizing s ts with
  | nil => exact h
  | cons c w ih =>
      rw [List.cons_append, ← List.singleton_append] at h
      obtain ⟨us, m, vs, hfirst, hrest, rfl⟩ := View.reads_append_iff.mp h
      have hboth : Tells s [c, '\n'] (us ++ vs) t :=
        hfirst.append (ih (fun d hd => hw d (List.mem_cons_of_mem _ hd)) hrest)
      rcases tell_blank_newline s (hw c List.mem_cons_self) with hnone | hsame
      · rw [Tells, View.Reads, hnone] at hboth
        cases hboth
      · rw [Tells, View.Reads, ← hsame]
        exact hboth

-- Taking blanks from the end of a row does not change what is told.
theorem Tells.trim_row {s t : State} {ts : List Token} {row w : List Char}
    (hw : ∀ c ∈ w, Text.isBlank c = true) (h : Tells s (row ++ w ++ ['\n']) ts t) :
    Tells s (row ++ ['\n']) ts t := by
  rw [List.append_assoc] at h
  obtain ⟨us, m, vs, hrow, hend, rfl⟩ := View.reads_append_iff.mp h
  exact hrow.append (Tells.of_blank hw hend)

end FieldTemplates.Php
