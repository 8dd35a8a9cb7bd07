import FieldTemplates.Proofs.Document.Keys
import FieldTemplates.Proofs.Document.Tidy
import FieldTemplates.Proofs.Snippet.Rows

namespace FieldTemplates.Snippet

theorem rows_rekeyed (c : Catalog) (k : String) :
    (∀ f a, fieldRows c { a with groupKey := k } f.unkeyed = fieldRows c a f) ∧
      (∀ fs a, fieldsRows c { a with groupKey := k } (Field.unkeyedAll fs) = fieldsRows c a fs) ∧
      (∀ ls a first, branchRows c { a with groupKey := k } first (Field.unkeyedLayouts ls) =
        branchRows c a first ls) := by
  refine Field.tree_induction ?_ ?_ ?_ ?_ ?_
  · intro key name label type subFields layouts extra hsub hlayouts a
    have hend : chainEnd (Field.unkeyedLayouts layouts) = chainEnd layouts := by
      rcases layouts with _ | ⟨⟨_, _, _, _, _⟩, _⟩ <;> rfl
    simp only [Field.unkeyed, fieldRows]
    cases c.resolve type with
    | error e => rfl
    | ok r =>
        have hchildren := hsub (a.nested name)
        have hsplice := hsub (a.nested a.enclosing)
        have hbranches := hlayouts (a.nested name) true
        simp only [Accessor.nested, Accessor.enclosing] at hchildren hsplice hbranches ⊢
        rw [hchildren, hsplice, hbranches, hend]
  · exact fun a => rfl
  · intro f fs hf hfs a
    simp only [Field.unkeyedAll, fieldsRows, hf, hfs]
  · exact fun a first => rfl
  · intro key name label subFields extra ls hsub hlayouts a first
    simp only [Field.unkeyedLayouts, branchRows, hsub, hlayouts]

theorem fieldsRows_of_unkeyed {c : Catalog} {fs gs : List Field}
    (h : Field.unkeyedAll fs = Field.unkeyedAll gs) (k : String) :
    fieldsRows c (Accessor.nested { groupKey := k } "") fs = fieldsRows c {} gs := by
  have hfs := (rows_rekeyed c "").2.1 fs (Accessor.nested { groupKey := k } "")
  rw [← hfs, h]
  exact (rows_rekeyed c "").2.1 gs {}

end FieldTemplates.Snippet

namespace FieldTemplates.Document

open Php (State Tells Token gist lex opening)
open Snippet (Placed Style fieldsRows)

def isTimeChar (c : Char) : Bool := c.isDigit || c == '-' || c == ':' || c == ' '

-- A point in time as the clock writes it, in digits with separators.
def IsTime (time : String) : Prop := time.toList.all isTimeChar = true

instance (time : String) : Decidable (IsTime time) :=
  inferInstanceAs (Decidable (time.toList.all isTimeChar = true))

theorem IsTime.ne {time : String} (h : IsTime time) {c d : Char} (hc : c ∈ time.toList)
    (hd : isTimeChar d = false) : c ≠ d := by
  rintro rfl
  have htrue := List.all_eq_true.mp h c hc
  rw [hd] at htrue
  cases htrue

theorem IsTime.unbroken {time : String} (h : IsTime time) : Php.Unbroken time.toList := by
  intro c hc
  have hlf : c ≠ '\n' := h.ne hc (by decide)
  have hcr : c ≠ '\r' := h.ne hc (by decide)
  simp only [Php.isBreak, beq_eq_false_iff_ne.mpr hlf, beq_eq_false_iff_ne.mpr hcr, Bool.or_self]

theorem IsTime.apart {time : String} (h : IsTime time) : Php.Apart '?' '>' time.toList :=
  Php.apart_of_notMem fun hc => h.ne hc (by decide) rfl

-- Behind a text made harmless a line comment goes on as if the text were not there.
theorem tells_remark (cs : List Char) {rest : List Char} {c : Char} (hc : c ≠ '>') {ts : List Token}
    {t : State} (h : Tells (.remark []) (c :: rest) ts t) :
    Tells (.remark []) (Php.comment cs ++ c :: rest) ts t := by
  have hforget : Php.gistView.state (.remark (Php.comment cs)) = Php.gistView.state (.remark []) := rfl
  exact (Php.gistView.read_of_scan (Php.scan_remark cs hc [] rest)).trans
    ((Php.gistView.read_congr hforget _).trans h)

def headerLines (title time : String) : List Char :=
  "// ".toList ++ (Php.comment title.toList ++ ("\n// Generated on ".toList ++
    (time.toList ++ ['\n'])))

theorem header_eq (title time : String) :
    header title time = opening ++ (headerLines title time ++ ['\n']) := by
  have hfirst : "<?php\n// ".toList = opening ++ "// ".toList := by decide
  have hlast : "\n\n".toList = ['\n', '\n'] := by decide
  simp [header, Banner.header, Banner.fill, hfirst, hlast, headerLines]

theorem tells_header (title : String) {time : String} (htime : IsTime time) :
    Tells .code (headerLines title time ++ ['\n']) [.remark [], .remark []] .code := by
  have hstart : Tells .code "// ".toList [] (.remark []) := by decide
  have hsecond : Tells (.remark []) "\n// Generated on ".toList [.remark []] (.remark []) := by decide
  have hend : Tells (.remark []) ['\n', '\n'] [.remark []] .code := by decide
  have hclock : Tells (.remark []) (time.toList ++ ['\n', '\n']) [.remark []] .code := by
    have hforget : Php.gistView.state (.remark time.toList) = Php.gistView.state (.remark []) := rfl
    have hscan := Php.scan_remark_of_apart htime.unbroken htime.apart (c := '\n') (by decide) [] ['\n']
    exact (Php.gistView.read_of_scan hscan).trans ((Php.gistView.read_congr hforget _).trans hend)
  have hrest := hsecond.append hclock
  have hnext : "\n// Generated on ".toList ++ (time.toList ++ ['\n', '\n']) =
      '\n' :: ("// Generated on ".toList ++ (time.toList ++ ['\n', '\n'])) := by
    rw [show "\n// Generated on ".toList = '\n' :: "// Generated on ".toList by decide]
    rfl
  rw [hnext] at hrest
  have hall := hstart.append (tells_remark title.toList (by decide) hrest)
  simpa [headerLines, hnext] using hall

-- The line that names a group and its key.
def bannerRow (title key : String) : List Char :=
  "// Template for Field Group: ".toList ++ (Php.comment title.toList ++ (" (".toList ++
    (Php.comment key.toList ++ [')'])))

theorem groupBlock_eq (title key : String) (body : List Char) :
    groupBlock title key body = bannerRow title key ++ '\n' :: body ++ ['\n'] := by
  have hend : "\n".toList = ['\n'] := by decide
  have hparen : ")\n".toList = [')', '\n'] := by decide
  unfold bannerRow
  simp [groupBlock, Banner.group, Banner.fill, hend, hparen]

theorem tells_bannerRow (title key : String) :
    Tells .code (bannerRow title key ++ ['\n']) [.remark []] .code := by
  have hstart : Tells .code "// Template for Field Group: ".toList [] (.remark []) := by decide
  have hmiddle : Tells (.remark []) " (".toList [] (.remark []) := by decide
  have hend : Tells (.remark []) [')', '\n'] [.remark []] .code := by decide
  have hspace : " (".toList = ' ' :: ['('] := by decide
  have htitle := hmiddle.append (tells_remark key.toList (by decide) hend)
  rw [hspace, List.cons_append] at htitle
  have hall := hstart.append (tells_remark title.toList (by decide) htitle)
  unfold bannerRow
  simpa [hspace] using hall

theorem tells_groupBlock (title key : String) {body : List Char} {ts : List Token}
    (hbody : Tells .code body ts .code) :
    Tells .code (groupBlock title key body) (.remark [] :: ts) .code := by
  have hall := ((tells_bannerRow title key).append hbody).append
    (show Tells .code ['\n'] [] .code by decide)
  rw [groupBlock_eq]
  simpa using hall

-- Nothing but an indentation that is no length or too large for a machine.
def RunError.IsIndentation : RunError → Prop
  | .indentation _ | .render (.indentation _) => True
  | _ => False

-- What a group adds to a document.
def groupTokens (setup : Setup) (style : Style) (g : Group) : List Token :=
  .remark [] :: gist ((fieldsRows setup.catalog {} g.fields).flatMap (Placed.tokens style))

-- The document so far opens the language, ends a line and tells some tokens.
def Written (run : Run) (ts : List Token) : Prop :=
  ∃ cs, run.code = opening ++ (cs ++ ['\n']) ∧ Tells .code (cs ++ ['\n']) ts .code

theorem Written.add {run next : Run} {ts us : List Token} (h : Written run ts) {title key : String}
    {body : List Char} (hbody : Tells .code body us .code)
    (hcode : next.code = run.code ++ groupBlock title key body) :
    Written next (ts ++ .remark [] :: us) := by
  obtain ⟨cs, hrun, htells⟩ := h
  have hblock := htells.append (tells_groupBlock title key hbody)
  rw [groupBlock_eq, ← List.append_assoc] at hblock
  refine ⟨_, ?_, hblock⟩
  rw [hcode, hrun, groupBlock_eq]
  simp only [List.append_assoc]

-- How a run goes on: it ends over an indentation, or more is written.
def GoesOn (ts : List Token) (r : Run × Option RunError) : Prop :=
  (∃ e, r.2 = some e ∧ e.IsIndentation) ∨ r.2 = none ∧ Written r.1 ts

section

variable {setup : Setup} (hcatalog : setup.catalog.Safe) {style : Style}
  (hunit : ∀ c ∈ style.unit, Text.isIndent c = true)
include hcatalog hunit

theorem addGroup_goesOn {run : Run} {ts : List Token} (h : Written run ts) (g : Group) :
    GoesOn (ts ++ groupTokens setup style g) (addGroup setup style run g) := by
  let p := prepare setup.source run.allocator g
  let s : Snippet.Setting := ⟨setup.catalog, style⟩
  let a := Snippet.Accessor.nested { groupKey := p.key } ""
  have hrows : fieldsRows setup.catalog a p.fields = fieldsRows setup.catalog {} g.fields :=
    Snippet.fieldsRows_of_unkeyed ((Key.assign_unkeyed setup.source).2.1 g.fields _) p.key
  obtain ⟨ls, hls, htells⟩ := (Snippet.lines_set (s := s) hunit hcatalog).2.1 p.fields a 0
  rw [hrows] at htells
  rcases Snippet.Trace.text_ok hls style.unit with ⟨e, he⟩ | htext
  · refine .inl ⟨.render (.indentation e), ?_, trivial⟩
    have hlevel : (Snippet.renderLevel s p.key 0 "" p.fields).text = .error (.indentation e) := he
    simp only [addGroup, p, hlevel, s]
  · have hlevel : (Snippet.renderLevel s p.key 0 "" p.fields).text =
        .ok (Code.text style.unit ls) := htext
    refine .inr ⟨?_, h.add htells (?_ : _ = _ ++ groupBlock g.title p.key (Code.text style.unit ls))⟩
      <;> simp only [addGroup, p, hlevel, s]

theorem steps_goesOn {run : Run} {ts : List Token} (h : Written run ts) (keys : List String) :
    GoesOn (ts ++ (resolved setup.library keys).flatMap (groupTokens setup style))
      (steps setup style run (keys.map .key)) := by
  refine steps_induction (motive := fun gs run r => ∀ ts, Written run ts →
    GoesOn (ts ++ gs.flatMap (groupTokens setup style)) r) ?done ?unknown ?ended ?added keys run ts h
  case done =>
    intro run ts hrun
    exact .inr ⟨rfl, by rwa [List.flatMap_nil, List.append_nil]⟩
  case unknown =>
    intro gs key run r ih ts hrun
    exact ih ts hrun
  case ended =>
    intro g gs run next e _ hadd ts hrun
    have hgroup := addGroup_goesOn hcatalog hunit (show Written run.asked ts from hrun) g
    rw [hadd] at hgroup
    rcases hgroup with hends | ⟨hnone, -⟩
    · exact .inl hends
    · cases hnone
  case added =>
    intro g gs run next r _ hadd ih ts hrun
    have hgroup := addGroup_goesOn hcatalog hunit (show Written run.asked ts from hrun) g
    rw [hadd] at hgroup
    rcases hgroup with ⟨e, he, -⟩ | ⟨-, hnext⟩
    · cases he
    · rw [List.flatMap_cons, ← List.append_assoc]
      exact ih _ hnext

end

-- A run over keys ends over an indentation or with a document, and the document is read to its end
-- with the tokens of the groups that answer the keys.
theorem generate_tokens {setup : Setup} (hcatalog : setup.catalog.Safe) (htime : IsTime setup.time)
    (a : Key.Allocator) (keys : List String) :
    (∃ e, (generate setup a (keys.map .key)).code = .error e ∧ e.IsIndentation) ∨
      ∃ style code ts, Style.ofOptions setup.options = .ok style ∧
        (generate setup a (keys.map .key)).code = .ok code ∧ lex code = some ts ∧
        gist ts = [.remark [], .remark []] ++
          (resolved setup.library keys).flatMap (groupTokens setup style) := by
  cases hstyle : Style.ofOptions setup.options with
  | error e =>
      refine .inl ⟨.indentation e, ?_, trivial⟩
      simp only [generate, hstyle]
  | ok style =>
      have hstart : Written (Run.start setup a) [.remark [], .remark []] :=
        ⟨_, header_eq _ _, tells_header setup.options.headerTitle.display htime⟩
      rw [generate_of_style hstyle]
      rcases steps_goesOn hcatalog (Style.isIndent_unit hstyle) hstart keys with
        ⟨e, he, hindent⟩ | ⟨hnone, cs, hcode, htells⟩
      · exact .inl ⟨e, by simp only [he], hindent⟩
      · obtain ⟨ts, hscan, hts⟩ := (tells_tidy htells).exists_scan
        refine .inr ⟨style, _, ts, rfl, by simp only [hnone]; rfl, ?_, hts⟩
        rw [hcode, tidy_opening]
        exact Php.lex_opening _ _ hscan

end FieldTemplates.Document
