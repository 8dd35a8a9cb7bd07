import FieldTemplates.Proofs.Document.Pages
import FieldTemplates.Proofs.Document.Report
import FieldTemplates.Proofs.Snippet.Masked
import Mathlib.Data.List.Forall2

namespace FieldTemplates

def Group.masked (g : Group) : Group := { g with fields := Field.maskedAll g.fields }

-- The library without the names and the labels of its passwords.
def Library.masked (l : Library) : Library := ⟨l.groups.map Group.masked⟩

namespace Document

open Code (IsRemark Veiled)
open Php (Tells codeOf? codeRows)
open Snippet (Paired RenderError Setting Style)
open Text (ended isIndent)

theorem bannerRow_isRemark (title key : String) : IsRemark (bannerRow title key) := by
  obtain ⟨cs, hrow, hcs⟩ := bannerRow_concat title key
  refine ⟨(tells_bannerRow title key).reads, by rw [hrow]; simp, ?_, ?_⟩
  · rw [hrow, List.mem_append, not_or]
    exact ⟨hcs, by decide⟩
  · rw [hrow]
    exact Text.trimRight_concat (by decide) cs

-- The number of blank rows before counts the same on both sides, as a comment is no blank row.
theorem squeeze_veiled {rows rows' : List (List Char)} (h : Veiled rows rows') (blanks : Nat) :
    Veiled (squeeze blanks rows) (squeeze blanks rows') := by
  induction h generalizing blanks with
  | nil => exact .nil
  | @code rows more more' ts h _ ih =>
      obtain ⟨after, hafter⟩ := squeeze_append blanks rows
      rw [hafter, hafter]
      exact .code (tells_squeeze (.inr Php.fresh_code) h) (ih after)
  | remark h h' _ ih =>
      rw [squeeze_cons blanks h.trimRight_eq h.ne_nil, squeeze_cons blanks h'.trimRight_eq h'.ne_nil]
      exact .remark h h' (ih 0)

theorem pageRows_veiled {pages pages' : List Page}
    (h : List.Forall₂ (fun p q => Veiled p.body q.body) pages pages') {keys keys' : List String}
    (hlength : keys.length = keys'.length) : Veiled (pageRows pages keys) (pageRows pages' keys') := by
  induction h generalizing keys keys' with
  | nil => exact .nil
  | @cons p q pages pages' hbody _ ih =>
      cases keys with
      | nil =>
          rw [List.length_eq_zero_iff.mp hlength.symm]
          exact .nil
      | cons key keys =>
          cases keys' with
          | nil => cases hlength
          | cons key' keys' =>
              rw [pageRows_cons, pageRows_cons]
              exact .remark (bannerRow_isRemark _ _) (bannerRow_isRemark _ _)
                (hbody.append (ih (Nat.succ.inj hlength)))

section

variable {s : Setting} (hunit : ∀ c ∈ s.style.unit, isIndent c = true)
  (hcatalog : s.catalog = .standard)
include hunit hcatalog

theorem pageOf_masked (g : Group) :
    Paired (fun p q : Page => Veiled p.body q.body) (pageOf s g) (pageOf s g.masked) := by
  have hlevel := ((Snippet.lines_masked hunit hcatalog).2.1 g.fields
    (Snippet.Accessor.nested { groupKey := g.key } "") 0).text
  rcases hlevel with ⟨e, he, he'⟩ | ⟨cs, ds, hcs, hds, hveiled⟩
  · refine .inl ⟨e, ?_, ?_⟩
    · simp only [pageOf, Snippet.renderLevel, he, Except.map]
    · simp only [pageOf, Group.masked, Snippet.renderLevel, he', Except.map]
  · refine .inr ⟨⟨g.title, Text.lines cs⟩, ⟨g.title, Text.lines ds⟩, ?_, ?_, hveiled⟩
    · simp only [pageOf, Snippet.renderLevel, hcs, Except.map]
    · simp only [pageOf, Group.masked, Snippet.renderLevel, hds, Except.map]

theorem pagesOf_masked (gs : List Group) :
    Paired (List.Forall₂ fun p q : Page => Veiled p.body q.body) (pagesOf s gs)
      (pagesOf s (gs.map Group.masked)) := by
  induction gs with
  | nil => exact .inr ⟨[], [], rfl, rfl, .nil⟩
  | cons g gs ih =>
      rw [List.map_cons, pagesOf_cons, pagesOf_cons]
      rcases pageOf_masked hunit hcatalog g with ⟨e, he, he'⟩ | ⟨p, q, hp, hq, hpq⟩
      · rw [he, he']
        exact .inl ⟨e, rfl, rfl⟩
      · rw [hp, hq]
        rcases ih with ⟨e, he, he'⟩ | ⟨ps, qs, hps, hqs, hall⟩
        · rw [he, he']
          exact .inl ⟨e, rfl, rfl⟩
        · rw [hps, hqs]
          exact .inr ⟨p :: ps, q :: qs, rfl, rfl, .cons hpq hall⟩

end

-- Documents with the same header, and below it rows that differ in comments only, have the same rows of
-- code.
theorem codeOf?_tidy (title : String) {time : String} (htime : IsTime time)
    {rows rows' : List (List Char)} (h : Veiled rows rows') :
    ∃ kept, codeOf? (tidy (header title time ++ ended rows)) = some kept ∧
      codeOf? (tidy (header title time ++ ended rows')) = some kept := by
  have hlines : ∀ rows : List (List Char), header title time ++ ended rows = Php.opening ++
      (headerLines title time ++ '\n' :: ended rows) := by
    intro rows
    rw [header_eq]
    simp only [List.append_assoc, List.cons_append, List.nil_append]
  have hheader := tells_header title htime
  rw [← Text.ended_lines] at hheader
  have hall : Veiled (squeeze 0 (Text.lines (headerLines title time ++ '\n' :: ended rows)))
      (squeeze 0 (Text.lines (headerLines title time ++ '\n' :: ended rows'))) := by
    rw [Text.lines_append, Text.lines_append, Text.lines_ended, Text.lines_ended]
    exact squeeze_veiled (.code hheader
      (h.lines.append .blank)) 0
  obtain ⟨kept, hkept, hkept'⟩ := hall.codeRows
  rw [hlines, hlines, tidy_opening, tidy_opening]
  refine ⟨kept, Php.codeOf?_opening ?_, Php.codeOf?_opening ?_⟩
  · rw [lines_tidy, hkept]
  · rw [lines_tidy, hkept']

-- Two runs that end over the same indentation, or with documents that have the same rows of code.
def SameCode (first second : Except RunError (List Char)) : Prop :=
  (∃ e, e.IsIndentation ∧ first = .error e ∧ second = .error e) ∨
    ∃ code code' rows, first = .ok code ∧ second = .ok code' ∧
      codeOf? code = some rows ∧ codeOf? code' = some rows

theorem SameCode.symm {first second : Except RunError (List Char)} (h : SameCode first second) :
    SameCode second first := by
  rcases h with ⟨e, hindent, he, he'⟩ | ⟨code, code', rows, hcode, hcode', hrows, hrows'⟩
  · exact .inl ⟨e, hindent, he', he⟩
  · exact .inr ⟨code', code, rows, hcode', hcode, hrows', hrows⟩

theorem SameCode.trans {first second third : Except RunError (List Char)} (h : SameCode first second)
    (h' : SameCode second third) : SameCode first third := by
  rcases h with ⟨e, hindent, he, rfl⟩ | ⟨code, code', rows, hcode, rfl, hrows, hrows'⟩
  · rcases h' with ⟨d, -, hd, hd'⟩ | ⟨_, _, _, hd, -⟩
    · cases hd
      exact .inl ⟨e, hindent, he, hd'⟩
    · cases hd
  · rcases h' with ⟨d, -, hd, -⟩ | ⟨code', code'', rows', hmid, hcode'', hsame, hlast⟩
    · cases hd
    · cases hmid
      rw [hrows'] at hsame
      cases hsame
      exact .inr ⟨code, code'', rows, hcode, hcode'', hrows, hlast⟩

theorem generate_masked {setup : Setup} (hcatalog : setup.catalog = .standard)
    (htime : IsTime setup.time) (a : Key.Allocator) (keys : List String) :
    SameCode (generate setup a (keys.map .key)).code
      (generate { setup with library := setup.library.masked } a (keys.map .key)).code := by
  let other : Setup := { setup with library := setup.library.masked }
  cases hstyle : Style.ofOptions setup.options with
  | error e =>
      refine .inl ⟨.indentation e, trivial, ?_, ?_⟩
      · simp only [generate, hstyle]
      · simp only [generate, hstyle]
  | ok style =>
      have hresolved : resolved other.library keys = (resolved setup.library keys).map Group.masked := by
        rw [resolved, resolved, List.map_filterMap]
        exact congrArg (keys.filterMap ·) (funext fun key => List.find?_map)
      have hpages := pagesOf_masked (s := ⟨setup.catalog, style⟩)
        (Snippet.Style.isIndent_unit hstyle) hcatalog (resolved setup.library keys)
      rw [← hresolved] at hpages
      have hcode := generate_code hstyle a keys
      have hcode' := @generate_code other style hstyle a keys
      rw [hcode, hcode']
      rcases hpages with ⟨e, he, he'⟩ | ⟨pages, pages', hps, hqs, hall⟩
      · rw [he, show pagesOf ⟨other.catalog, style⟩ (resolved other.library keys) = _ from he']
        exact .inl ⟨.render (.indentation e), trivial, rfl, rfl⟩
      · rw [hps, show pagesOf ⟨other.catalog, style⟩ (resolved other.library keys) = _ from hqs]
        have hlength : (givenKeys setup.source a (resolved setup.library keys)).length =
            (givenKeys other.source a (resolved other.library keys)).length := by
          rw [length_givenKeys, length_givenKeys, hresolved, List.length_map]
        obtain ⟨kept, hkept, hkept'⟩ := codeOf?_tidy setup.options.headerTitle.display htime
          (pageRows_veiled hall hlength)
        exact .inr ⟨_, _, kept, rfl, rfl, hkept, hkept'⟩

-- A password itself leaves no row of code.
theorem renderField_password {s : Setting} (hunit : ∀ c ∈ s.style.unit, isIndent c = true)
    (hcatalog : s.catalog = .standard) (a : Snippet.Accessor) (depth : Int) {f : Field}
    (h : Text.lower f.type = "password") :
    (∃ e, (Snippet.renderField s a depth f).text = .error (.indentation e)) ∨
      ∃ code, (Snippet.renderField s a depth f).text = .ok code ∧
        codeRows .code (Text.lines code) = some ([], .code) := by
  obtain ⟨key, name, label, type, subFields, layouts, extra⟩ := f
  have hlines := Snippet.password_lines hcatalog h a depth key name label subFields layouts extra
  rcases Snippet.Trace.text_ok hlines s.style.unit with hfail | hcode
  · exact .inl hfail
  · have hheading := Snippet.heading_isRemark hunit depth label type
    have hrow := Snippet.rowLine_isRemark hunit Snippet.remark_rows.2 a ⟨name, type⟩ depth 0
    refine .inr ⟨_, hcode, ?_⟩
    rw [Code.text_eq_ended, Text.lines_ended, List.map_cons, List.map_cons, List.flatMap_cons,
      List.flatMap_cons, Text.lines_of_no_newline hheading.unbroken,
      Text.lines_of_no_newline hrow.unbroken]
    exact (hheading.codeRows _).trans (hrow.codeRows _)

-- Two libraries that differ in nothing but the names and the labels of passwords, anywhere in them, have
-- documents with the same rows of code. A password itself has none, whatever it is called.
theorem passwords_not_in_code (setup : Setup) (hcatalog : setup.catalog = .standard)
    (htime : IsTime setup.time) (a : Key.Allocator) (keys : List String) :
    (∀ l : Library, l.masked = setup.library.masked →
      SameCode (generate setup a (keys.map .key)).code
        (generate { setup with library := l } a (keys.map .key)).code) ∧
    ∀ style, Style.ofOptions setup.options = .ok style →
      ∀ (accessor : Snippet.Accessor) (depth : Int) (f : Field), Text.lower f.type = "password" →
        (∃ e, (Snippet.renderField ⟨setup.catalog, style⟩ accessor depth f).text = .error (.indentation e)) ∨
          ∃ code, (Snippet.renderField ⟨setup.catalog, style⟩ accessor depth f).text = .ok code ∧
            codeRows .code (Text.lines code) = some ([], .code) := by
  refine ⟨fun l hl => ?_, fun style hstyle accessor depth f hf => ?_⟩
  · have hfirst := generate_masked hcatalog htime a keys
    have hsecond := @generate_masked { setup with library := l } hcatalog htime a keys
    rw [show Library.masked l = setup.library.masked from hl] at hsecond
    exact hfirst.trans hsecond.symm
  · exact renderField_password (Snippet.Style.isIndent_unit hstyle) hcatalog accessor depth hf

-- A page with passwords in rows and in a clone, called what is asked for.
def secretPage (name label : String) : Group :=
  ⟨"group_page", "Page", [
    ⟨"field_rows", "rows", "Rows", "repeater", [
      ⟨"field_pin", name, label, "PassWord", [], [], []⟩,
      ⟨"field_note", "it's", "Note", "text", [], [], []⟩], [], []⟩,
    ⟨"field_account", "account", "Account", "clone", [
      ⟨"field_code", label, name, "PASSWORD", [], [], []⟩], [], []⟩], []⟩

theorem passwords_not_in_code_of_secretPage :
    let setup := reportSetup (secretPage "pin" "PIN")
    let o := generate setup {} (["group_page"].map .key)
    let p := generate (reportSetup (secretPage "*/ eval('x'); /* ?>\n" "'")) {}
      (["group_page"].map .key)
    let f : Field := ⟨"field_pin", "*/ eval('x'); /* ?>\n", "'", "PassWord", [], [], []⟩
    (∃ code code' rows, o.code = .ok code ∧ p.code = .ok code' ∧ codeOf? code = some rows ∧
      codeOf? code' = some rows) ∧
    ∃ style code, Style.ofOptions setup.options = .ok style ∧
      (Snippet.renderField ⟨setup.catalog, style⟩ {} 1 f).text = .ok code ∧
        codeRows .code (Text.lines code) = some ([], .code) := by
  intro setup o p f
  have htime : IsTime setup.time := by decide +kernel
  have hok : o.code.isOk = true := by decide +kernel
  have hlower : Text.lower "PassWord" = "password" ∧ Text.lower "PASSWORD" = "password" := by
    decide +kernel
  have hmasked : Library.masked ⟨[secretPage "*/ eval('x'); /* ?>\n" "'"]⟩ =
      Library.masked ⟨[secretPage "pin" "PIN"]⟩ := by
    simp [Library.masked, Group.masked, secretPage, Field.maskedAll, Field.masked, Field.maskedLayouts,
      hlower]
  let style : Style := ⟨"    ".toList, setup.options.textDomain.display.toList,
    setup.options.imageSize.display.toList, setup.options.galleryImageSize.display.toList⟩
  have hstyle : Style.ofOptions setup.options = .ok style := rfl
  have hfine : (Snippet.renderField ⟨setup.catalog, style⟩ {} 1 f).text.isOk = true := by decide +kernel
  obtain ⟨hdocuments, hfragments⟩ :=
    passwords_not_in_code setup rfl htime {} ["group_page"]
  refine ⟨?documents, ?fragment⟩
  case documents =>
    rcases hdocuments _ hmasked with ⟨e, -, he, -⟩ | hsame
    · rw [show o.code = .error e from he] at hok
      cases hok
    · exact hsame
  case fragment =>
    rcases hfragments _ hstyle {} 1 f hlower.1 with ⟨e, he⟩ | ⟨code, hcode⟩
    · rw [he] at hfine
      cases hfine
    · exact ⟨style, code, hstyle, hcode⟩

end Document

end FieldTemplates
