import FieldTemplates.Proofs.Document.Tokens
import FieldTemplates.Proofs.Snippet.Headings

namespace FieldTemplates.Document

open Php (Token comments gist lex)
open Snippet (Catalog Placed Style fieldsRows headingText isHeading)

def commentsOf (style : Style) (g : Group) : List (List Char) :=
  (fieldsRows .standard {} g.fields).flatMap fun p => comments (p.tokens style)

-- Comments are lines, so layout does not tell in them.
theorem newline_notMem_commentsOf (style : Style) (g : Group) : ∀ w ∈ commentsOf style g, '\n' ∉ w := by
  intro w hw
  obtain ⟨p, hp, hw⟩ := List.mem_flatMap.mp hw
  have hhas := (Snippet.has_of_mem_rows .standard).2.1 g.fields {} p hp
  exact Placed.newline_notMem_comments style hhas w hw

theorem comments_groupTokens {setup : Setup} (hcatalog : setup.catalog = .standard) (style : Style)
    (g : Group) : comments (groupTokens setup style g) = (commentsOf style g).map Text.settle := by
  have hrows : comments (groupTokens setup style g) =
      comments (gist ((fieldsRows setup.catalog {} g.fields).flatMap (Placed.tokens style))) := rfl
  rw [hrows, gist, Php.rewords_gist.comments_map, Php.comments_flatMap, hcatalog]
  rfl

theorem generate_comments {setup : Setup} (hcatalog : setup.catalog = .standard)
    (htime : IsTime setup.time) (a : Key.Allocator) (keys : List String) :
    (∃ e, (generate setup a (keys.map .key)).code = .error e ∧ e.IsIndentation) ∨
      ∃ style code ts, (generate setup a (keys.map .key)).code = .ok code ∧ lex code = some ts ∧
        comments ts = (resolved setup.library keys).flatMap (commentsOf style) := by
  have hsafe : setup.catalog.Safe := hcatalog ▸ Catalog.standard_safe
  rcases generate_tokens hsafe htime a keys with hfail | ⟨style, code, ts, -, hcode, hlex, hts⟩
  · exact .inl hfail
  · refine .inr ⟨style, code, ts, hcode, hlex, ?_⟩
    have hsettled : (comments ts).map Text.settle =
        ((resolved setup.library keys).flatMap (commentsOf style)).map Text.settle := by
      have hheader : comments [.remark [], .remark []] = [] := rfl
      rw [← Php.rewords_gist.comments_map, ← gist, hts, Php.comments_append, hheader,
        List.nil_append, Php.comments_flatMap, List.map_flatMap]
      exact List.flatMap_congr fun g _ => comments_groupTokens hcatalog style g
    refine Text.eq_of_map_settle_eq hsettled fun w hw => ?_
    obtain ⟨g, -, hw⟩ := List.mem_flatMap.mp hw
    exact newline_notMem_commentsOf style g w hw

-- The fields that are shown, group after group.
def shownFields (gs : List Group) : List Field := gs.flatMap fun g => Field.shownAll g.fields

theorem headings_commentsOf (style : Style) (gs : List Group) :
    (gs.flatMap (commentsOf style)).filter isHeading =
      (shownFields gs).map fun f => headingText f.label f.type := by
  rw [List.filter_flatMap, shownFields, List.map_flatMap]
  refine List.flatMap_congr fun g _ => ?_
  have hrows := (Snippet.gathers_headings style).shown g.fields
  rw [← List.map_eq_flatMap] at hrows
  rw [commentsOf, List.filter_flatMap]
  exact hrows

-- The block comments of a document that start as headings do are the headings of the fields that are
-- shown, one for each, group after group in the order of the requests. No text of a field, of a group
-- or of an option adds one, hides one or changes one.
theorem headings_of_shown_fields (setup : Setup) (hcatalog : setup.catalog = .standard)
    (htime : IsTime setup.time) (a : Key.Allocator) (keys : List String) :
    (∃ e, (generate setup a (keys.map .key)).code = .error e ∧ e.IsIndentation) ∨
      ∃ code ts, (generate setup a (keys.map .key)).code = .ok code ∧ lex code = some ts ∧
        (comments ts).filter isHeading =
          (shownFields (resolved setup.library keys)).map fun f => headingText f.label f.type := by
  rcases generate_comments hcatalog htime a keys with hfail | ⟨style, code, ts, hcode, hlex, hts⟩
  · exact .inl hfail
  · refine .inr ⟨code, ts, hcode, hlex, ?_⟩
    rw [hts, headings_commentsOf]

-- A page with a field that hides another, and labels that look like ends and starts of comments.
def forgedPage : Group :=
  ⟨"group_page", "Page */ /* Field: A (b) */", [
    ⟨"field_rows", "rows", "Rows", "Repeater", [
      ⟨"field_note", "note", "*/\n/* Field: A (b) ", "text",
        [⟨"field_hidden", "hidden", "Hidden", "text", [], [], []⟩], [], []⟩], [], []⟩,
    ⟨"field_tab", " Field: A", "Tab", "TAB", [], [], []⟩,
    ⟨"field_sections", "sections", "Sections", "flexible_content", [],
      [⟨"layout_list", "list", "List", [⟨"field_stars", "stars", "Stars", "?>", [], [], []⟩], []⟩],
      []⟩], []⟩

def forgedSetup : Setup where
  library := ⟨[forgedPage]⟩
  catalog := .standard
  source := Key.constantSource
  time := "2024-01-02 03:04:05"

theorem headings_of_shown_fields_of_forgedPage :
    ∃ code ts, (generate forgedSetup {} (["group_page", "none"].map .key)).code = .ok code ∧
      lex code = some ts ∧ (comments ts).filter isHeading =
        [" Field: Rows (Repeater) ", " Field: * / /* Field: A (b)  (text) ", " Field: Tab (TAB) ",
          " Field: Sections (flexible_content) ", " Field: Stars (? >) "].map String.toList := by
  have htime : IsTime forgedSetup.time := by decide +kernel
  have hok : (generate forgedSetup {} (["group_page", "none"].map .key)).code.isOk = true := by
    decide +kernel
  rcases headings_of_shown_fields forgedSetup rfl htime {} ["group_page", "none"] with
    ⟨e, he, -⟩ | ⟨code, ts, hcode, hlex, hts⟩
  · rw [he] at hok
    cases hok
  · refine ⟨code, ts, hcode, hlex, hts.trans ?_⟩
    decide +kernel

end FieldTemplates.Document
