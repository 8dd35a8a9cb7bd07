import FieldTemplates.Proofs.Php.Comment
import FieldTemplates.Proofs.Php.Gist
import FieldTemplates.Proofs.Php.Literal
import FieldTemplates.Snippet.Renderer

namespace FieldTemplates.Snippet

open Php (Reads State Token View outline scan skim)

-- What a piece is without the texts of the field and of the style: code, a value that is read, or
-- where a text stands.
inductive Mark where
  | code (cs : List Char)
  | value
  | inLiteral
  | inComment
  | bare
deriving DecidableEq, Repr

def Piece.mark : Piece → Mark
  | code t => .code t.toList
  | value => .value
  | literalName | className | textDomain | imageSize | gallerySize => .inLiteral
  | commentName | commentType => .inComment
  | bareName => .bare

-- The code in front of the name of a value that is read.
def accessText (sub : Bool) : List Char :=
  (if sub then "get_sub_field" else "get_field").toList ++ "('".toList

-- What a piece adds and where it leads to. A text is refused where it could get out.
def Mark.read? (access : List Char) (s : State) : Mark → Option (List Token × State)
  | code cs => skim s cs
  | value =>
    match skim s access with
    | some (ts, .literal []) => some (ts ++ [.literal [], .symbol ')'], .code)
    | _ => none
  | inLiteral => if s = .literal [] then some ([], s) else none
  | inComment => if s = .comment [] then some ([], s) else none
  | bare => none

-- A star at the end of a comment's text must not meet a slash.
def startsApart : List Mark → Bool
  | .code (c :: _) :: _ => c ≠ '/'
  | _ => false

def readMarks? (access : List Char) (s : State) : List Mark → Option (List Token × State)
  | [] => skim s []
  | m :: ms =>
    if m = .inComment ∧ startsApart ms = false then none
    else (m.read? access s).bind fun r =>
      (readMarks? access r.2 ms).map fun q => (r.1 ++ q.1, q.2)

-- The outline of a row that is a line, or a line of a block.
def outline? (access : List Char) (ms : List Mark) : Option (List Token) :=
  match readMarks? access .code (ms ++ [.code ['\n']]) with
  | some (ts, .code) => some ts
  | _ => none

def marksOutline (sub : Bool) (ms : List Mark) : List Token := (outline? (accessText sub) ms).getD []

def rowOutline (sub : Bool) (row : Row) : List Token := marksOutline sub (row.map Piece.mark)

def areSafe (ms : List Mark) : Bool :=
  (outline? (accessText false) ms).isSome && (outline? (accessText true) ms).isSome

def isSafe (row : Row) : Bool := areSafe (row.map Piece.mark)

variable (style : Style) (a : Accessor) (subject : Subject)

theorem reads_value {s t : State} {ts : List Token}
    (h : Mark.value.read? (accessText a.isSubField) s = some (ts, t)) (name : String) :
    Reads s (a.value name) ts t := by
  simp only [Mark.read?] at h
  split at h
  · rename_i us hskim
    cases h
    have hend : Reads (.literal []) "')".toList [.literal [], .symbol ')'] .code := by decide
    have hname : Reads (.literal []) (Php.quoted name.toList) [] (.literal []) :=
      View.reads_of_scan (Php.scan_quoted [] name.toList)
    have hopen := View.Reads.append hskim hname
    rw [List.append_nil] at hopen
    exact hopen.append hend
  · cases h

theorem Piece.reads {p : Piece} (hp : p.mark ≠ .inComment) {s t : State} {ts : List Token}
    (h : p.mark.read? (accessText a.isSubField) s = some (ts, t)) :
    Reads s (p.text style a subject) ts t := by
  cases p with
  | code text => exact h
  | value => exact reads_value a h subject.name
  | commentName | commentType => exact absurd rfl hp
  | bareName => cases h
  | literalName | className | textDomain | imageSize | gallerySize =>
      simp only [mark, Mark.read?] at h
      split at h
      · rename_i hs
        cases h
        subst hs
        first
        | exact View.reads_of_scan (Php.scan_quoted [] _)
        | exact View.reads_of_scan (Php.scan_inAttribute [] _)
      · cases h

theorem Piece.text_of_inComment {p : Piece} (hp : p.mark = .inComment) :
    ∃ text, p.text style a subject = Php.comment text := by
  cases p with
  | commentName | commentType => exact ⟨_, rfl⟩
  | code | value | literalName | className | bareName | textDomain | imageSize | gallerySize =>
      cases hp

theorem startsApart_text {row : Row} (h : startsApart (row.map Piece.mark) = true) :
    ∃ c cs, rowText style a subject row = c :: cs ∧ c ≠ '/' := by
  cases row with
  | nil => cases h
  | cons p row =>
      cases p with
      | code text =>
          cases htext : text.toList with
          | nil =>
              simp only [List.map_cons, Piece.mark, htext, startsApart] at h
              cases h
          | cons c cs =>
              simp only [List.map_cons, Piece.mark, htext, startsApart, decide_eq_true_eq] at h
              refine ⟨c, cs ++ rowText style a subject row, ?_, h⟩
              simp only [rowText, List.flatMap_cons, Piece.text, htext, List.cons_append]
      | value | literalName | className | commentName | commentType | bareName | textDomain
      | imageSize | gallerySize => cases h

theorem skim_comment (text : List Char) {c : Char} (hc : c ≠ '/') (rest : List Char) :
    skim (.comment []) (Php.comment text ++ c :: rest) = skim (.comment []) (c :: rest) := by
  have hforget : Php.outlineView.state (.comment (Php.comment text)) =
      Php.outlineView.state (.comment []) := rfl
  exact (Php.outlineView.read_of_scan (Php.scan_comment text hc [] rest)).trans
    (Php.outlineView.read_congr hforget _)

theorem reads_row {row : Row} {s t : State} {ts : List Token}
    (h : readMarks? (accessText a.isSubField) s (row.map Piece.mark) = some (ts, t)) :
    Reads s (rowText style a subject row) ts t := by
  induction row generalizing s ts with
  | nil => exact h
  | cons p row ih =>
      simp only [List.map_cons, readMarks?] at h
      split at h
      · cases h
      · rename_i happart
        obtain ⟨⟨us, m⟩, hpiece, h⟩ := Option.bind_eq_some_iff.mp h
        obtain ⟨⟨vs, t'⟩, hrow, h⟩ := Option.map_eq_some_iff.mp h
        obtain ⟨rfl, rfl⟩ := Prod.mk.inj h
        have hrest := ih hrow
        by_cases hp : p.mark = .inComment
        · have hstarts : startsApart (row.map Piece.mark) = true := by simpa [hp] using happart
          obtain ⟨c, cs, htext, hne⟩ := startsApart_text style a subject hstarts
          obtain ⟨text, hcomment⟩ := Piece.text_of_inComment style a subject hp
          simp only [hp, Mark.read?] at hpiece
          split at hpiece
          · rename_i hs
            cases hpiece
            subst hs
            change skim _ (p.text style a subject ++ rowText style a subject row) = _
            rw [hcomment, htext, skim_comment text hne, ← htext]
            exact hrest
          · cases hpiece
        · exact (Piece.reads style a subject hp hpiece).append hrest

-- A row that ends a line, as a row.
def Row.ended (row : Row) : Row := row ++ [.code "\n"]

theorem rowText_ended (row : Row) :
    rowText style a subject row.ended = rowText style a subject row ++ ['\n'] := by
  simp [Row.ended, rowText, Piece.text]

theorem readMarks_ended {row : Row} (hsafe : isSafe row = true) (sub : Bool) :
    readMarks? (accessText sub) .code (row.ended.map Piece.mark) =
      some (rowOutline sub row, .code) := by
  have hsome : (outline? (accessText sub) (row.map Piece.mark)).isSome = true := by
    obtain ⟨hfalse, htrue⟩ := Bool.and_eq_true_iff.mp hsafe
    cases sub with
    | false => exact hfalse
    | true => exact htrue
  obtain ⟨ts, hts⟩ := Option.isSome_iff_exists.mp hsome
  have hmarks : row.ended.map Piece.mark = row.map Piece.mark ++ [.code ['\n']] := by
    simp [Row.ended, Piece.mark]
  rw [rowOutline, marksOutline, hts, hmarks]
  simp only [outline?] at hts
  split at hts
  · rename_i us hread
    cases hts
    exact hread
  · cases hts

theorem reads_outline {row : Row} (hsafe : isSafe row = true) :
    Reads .code (rowText style a subject row ++ ['\n']) (rowOutline a.isSubField row) .code := by
  rw [← rowText_ended]
  exact reads_row style a subject (readMarks_ended hsafe a.isSubField)

-- What is read in a row that ends a line.
def rowTokens (sub : Bool) (row : Row) : List Token :=
  ((scan .code (rowText style { isSubField := sub } subject row ++ ['\n'])).map (·.1)).getD []

-- All that a row reads of an accessor is whether it stands among the rows of a field.
theorem rowText_isSubField (row : Row) :
    rowText style { isSubField := a.isSubField } subject row = rowText style a subject row :=
  List.flatMap_congr fun p _ => by cases p <;> rfl

theorem scan_row {row : Row} (hsafe : isSafe row = true) :
    scan .code (rowText style a subject row ++ ['\n']) =
      some (rowTokens style subject a.isSubField row, .code) := by
  obtain ⟨ts, t, hscan, -, hbare⟩ := (reads_outline style a subject hsafe).exists_scan
  obtain rfl := Php.State.eq_code_of_bare hbare
  rw [rowTokens, rowText_isSubField, hscan]
  rfl

theorem outline_rowTokens (sub : Bool) {row : Row} (hsafe : isSafe row = true) :
    outline (rowTokens style subject sub row) = rowOutline sub row := by
  obtain ⟨ts, t, hscan, hts, -⟩ :=
    (reads_outline style { isSubField := sub } subject hsafe).exists_scan
  rw [rowTokens, hscan]
  exact hts

theorem scan_spaces (n : Nat) (cs : List Char) : scan .code (spaces n ++ cs) = scan .code cs := by
  induction n with
  | zero => rfl
  | succ n ih => exact (Php.scan_of_step (s := .code) (c := ' ') rfl _).trans ih

theorem scan_blockText {rows : List (Nat × Row)} (hsafe : ∀ r ∈ rows, isSafe r.2 = true) :
    scan .code (blockText style a subject rows ++ ['\n']) =
      some (rows.flatMap fun r => rowTokens style subject a.isSubField r.2, .code) := by
  have hrows : scan .code (rows.flatMap fun r =>
      spaces (8 + 4 * r.1) ++ rowText style a subject r.2 ++ ['\n']) =
      some (rows.flatMap fun r => rowTokens style subject a.isSubField r.2, .code) := by
    induction rows with
    | nil => rfl
    | cons r rows ih =>
        have hfirst : scan .code (spaces (8 + 4 * r.1) ++ rowText style a subject r.2 ++ ['\n']) =
            some (rowTokens style subject a.isSubField r.2, .code) := by
          rw [List.append_assoc, scan_spaces]
          exact scan_row style a subject (hsafe r List.mem_cons_self)
        exact Php.scan_trans hfirst (ih fun q hq => hsafe q (List.mem_cons_of_mem _ hq))
  have hend : scan .code (spaces 8 ++ ['\n']) = some ([], .code) := by rw [scan_spaces]; rfl
  have hall := Php.scan_trans hrows hend
  rw [List.append_nil, ← List.append_assoc] at hall
  rw [blockText, List.cons_append, List.cons_append, Php.scan_of_step (t := .code) rfl]
  exact hall

end FieldTemplates.Snippet
