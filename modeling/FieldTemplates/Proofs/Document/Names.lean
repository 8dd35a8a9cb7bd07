import FieldTemplates.Proofs.Document.Tokens
import FieldTemplates.Proofs.Snippet.Reading

namespace FieldTemplates

namespace Snippet

-- What a row reads: the functions it calls, each with the name of its subject.
def Placed.reads (p : Placed) : List (List Char × String) :=
  (p.row.readers p.sub).map fun f => (f, p.subject.name)

end Snippet

namespace Document

open Php (Call Token calls gist lex)
open Snippet (Catalog Placed Style fieldsRows)

-- What the code of a group reads.
def readsOf (g : Group) : List (List Char × String) :=
  (fieldsRows .standard {} g.fields).flatMap Placed.reads

-- A call with the name it is made for.
def callFor (read : List Char × String) : Call := ⟨read.1, some read.2.toList⟩

theorem calls_placed (style : Style) {ps : List Placed} (h : ∀ p ∈ ps, Catalog.standard.Has p.row) :
    calls (ps.flatMap (Placed.tokens style)) = (ps.flatMap Placed.reads).map callFor := by
  have hrow : ∀ p ∈ ps, calls (p.tokens style) = p.reads.map callFor := by
    intro p hp
    rw [Placed.calls_tokens style (h p hp), Placed.reads, List.map_map]
    rfl
  have hcomplete : ∀ p ∈ ps, ∀ call ∈ calls (p.tokens style), call.argument.isSome = true := by
    intro p hp call hcall
    rw [hrow p hp] at hcall
    obtain ⟨read, -, rfl⟩ := List.mem_map.mp hcall
    rfl
  rw [Php.calls_flatMap hcomplete, List.map_flatMap]
  exact List.flatMap_congr hrow

theorem calls_groupTokens {setup : Setup} (hcatalog : setup.catalog = .standard) (style : Style)
    (g : Group) : calls (groupTokens setup style g) =
      (readsOf g).map fun read => (callFor read).map Text.settle := by
  have hrows : calls (groupTokens setup style g) =
      calls (gist ((fieldsRows setup.catalog {} g.fields).flatMap (Placed.tokens style))) := rfl
  have hhas := (Snippet.has_of_mem_rows .standard).2.1 g.fields {}
  rw [hrows, gist, Php.rewords_gist.calls_map, hcatalog, calls_placed style hhas, List.map_map]
  rfl

theorem generate_calls {setup : Setup} (hcatalog : setup.catalog = .standard)
    (htime : IsTime setup.time) (a : Key.Allocator) (keys : List String) :
    (∃ e, (generate setup a (keys.map .key)).code = .error e ∧ e.IsIndentation) ∨
      ∃ code ts, (generate setup a (keys.map .key)).code = .ok code ∧ lex code = some ts ∧
        (calls ts).map (Call.map Text.settle) =
          ((resolved setup.library keys).flatMap readsOf).map fun read =>
            (callFor read).map Text.settle := by
  have hsafe : setup.catalog.Safe := hcatalog ▸ Catalog.standard_safe
  rcases generate_tokens hsafe htime a keys with hfail | ⟨style, code, ts, -, hcode, hlex, hts⟩
  · exact .inl hfail
  · refine .inr ⟨code, ts, hcode, hlex, ?_⟩
    have hheader : calls [.remark [], .remark []] = [] := rfl
    have hcomplete : ∀ g ∈ resolved setup.library keys, ∀ call ∈ calls (groupTokens setup style g),
        call.argument.isSome = true := by
      intro g _ call hcall
      rw [calls_groupTokens hcatalog] at hcall
      obtain ⟨read, -, rfl⟩ := List.mem_map.mp hcall
      rfl
    rw [← Php.rewords_gist.calls_map, ← gist, hts, Php.calls_append (by rw [hheader]; simp), hheader,
      List.nil_append, Php.calls_flatMap hcomplete, List.map_flatMap]
    exact List.flatMap_congr fun g _ => calls_groupTokens hcatalog style g

-- A call names what it is made for: exactly where the name is on one line, else up to the blanks
-- around the line feeds of the name.
structure Names (call : Call) (read : List Char × String) : Prop where
  function : call.function = read.1
  argument : ∃ name, call.argument = some name ∧ Text.settle name = Text.settle read.2.toList ∧
    ('\n' ∉ read.2.toList → name = read.2.toList)

theorem names_of_settled {call : Call} {read : List Char × String}
    (h : call.map Text.settle = (callFor read).map Text.settle) : Names call read := by
  obtain ⟨f, argument⟩ := call
  obtain ⟨hf, hargument⟩ := Call.mk.inj h
  cases argument with
  | none => cases hargument
  | some name =>
      have hname : Text.settle name = Text.settle read.2.toList := Option.some.inj hargument
      exact ⟨hf, name, rfl, hname, Text.eq_of_settle_eq hname⟩

-- In a document the calls that take names are, in order, those that the rows of the fields make, each
-- with a literal that names the field or the layout it is made for.
theorem calls_name_subjects (setup : Setup) (hcatalog : setup.catalog = .standard)
    (htime : IsTime setup.time) (a : Key.Allocator) (keys : List String) :
    (∃ e, (generate setup a (keys.map .key)).code = .error e ∧ e.IsIndentation) ∨
      ∃ code ts, (generate setup a (keys.map .key)).code = .ok code ∧ lex code = some ts ∧
        List.Forall₂ Names (calls ts) ((resolved setup.library keys).flatMap readsOf) := by
  rcases generate_calls hcatalog htime a keys with hfail | ⟨code, ts, hcode, hlex, hts⟩
  · exact .inl hfail
  · refine .inr ⟨code, ts, hcode, hlex, ?_⟩
    have hsame := List.forall₂_eq_eq_eq ▸ hts
    exact (List.forall₂_map_right_iff.mp (List.forall₂_map_left_iff.mp hsame)).imp fun _ _ =>
      names_of_settled

-- Names that need escapes, one with a line feed, and a layout.
def quotedPage : Group :=
  ⟨"group_page", "Page", [
    ⟨"field_rows", "it's \\", "Rows", "repeater", [
      ⟨"field_note", "'", "Note", "url", [], [], []⟩], [], []⟩,
    ⟨"field_sections", "\\\\'", "Sections", "flexible_content", [],
      [⟨"layout_list", "?>\n*/", "List", [], []⟩], []⟩], []⟩

def quotedSetup : Setup where
  library := ⟨[quotedPage]⟩
  catalog := .standard
  source := Key.constantSource
  time := "2024-01-02 03:04:05"

theorem calls_name_subjects_of_quotedPage :
    ∃ code ts, (generate quotedSetup {} (["group_page"].map .key)).code = .ok code ∧
      lex code = some ts ∧ List.Forall₂ Names (calls ts)
        [("have_rows".toList, "it's \\"), ("have_rows".toList, "it's \\"),
          ("get_sub_field".toList, "'"), ("have_rows".toList, "\\\\'"),
          ("have_rows".toList, "\\\\'"), ("get_row_layout".toList, "?>\n*/")] := by
  have htime : IsTime quotedSetup.time := by decide +kernel
  have hok : (generate quotedSetup {} (["group_page"].map .key)).code.isOk = true := by
    decide +kernel
  have hreads : (resolved quotedSetup.library ["group_page"]).flatMap readsOf =
      [("have_rows".toList, "it's \\"), ("have_rows".toList, "it's \\"),
        ("get_sub_field".toList, "'"), ("have_rows".toList, "\\\\'"),
        ("have_rows".toList, "\\\\'"), ("get_row_layout".toList, "?>\n*/")] := by
    decide +kernel
  rcases calls_name_subjects quotedSetup rfl htime {} ["group_page"] with
    ⟨e, he, -⟩ | ⟨code, ts, hcode, hlex, hnames⟩
  · rw [he] at hok
    cases hok
  · exact ⟨code, ts, hcode, hlex, hreads ▸ hnames⟩

-- A name with a blank before its line feed. Trailing blanks of rows are cut, in literals too.
def brokenPage : Group :=
  ⟨"group_page", "Page", [⟨"field_note", "a \nb", "Note", "text", [], [], []⟩], []⟩

def brokenSetup : Setup where
  library := ⟨[brokenPage]⟩
  catalog := .standard
  source := Key.constantSource
  time := "2024-01-02 03:04:05"

theorem calls_of_brokenPage :
    ∃ code ts, (generate brokenSetup {} (["group_page"].map .key)).code = .ok code ∧
      lex code = some ts ∧ ¬ ∀ call ∈ calls ts, call.argument = some "a \nb".toList := by
  have hcalls : ((generate brokenSetup {} (["group_page"].map .key)).code.toOption.bind lex).map
      calls = some [⟨"get_field".toList, some "a\nb".toList⟩,
        ⟨"get_field".toList, some "a\nb".toList⟩] := by decide +kernel
  cases hcode : (generate brokenSetup {} (["group_page"].map .key)).code with
  | error e =>
      rw [hcode] at hcalls
      cases hcalls
  | ok code =>
      rw [hcode] at hcalls
      obtain ⟨ts, hlex, hts⟩ := Option.map_eq_some_iff.mp hcalls
      refine ⟨code, ts, rfl, hlex, fun hall => ?_⟩
      have hfirst := hall ⟨"get_field".toList, some "a\nb".toList⟩ (hts ▸ List.mem_cons_self)
      exact absurd hfirst (by decide)

end Document

end FieldTemplates
