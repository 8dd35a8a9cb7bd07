import FieldTemplates.Proofs.Document.Outline
import FieldTemplates.Proofs.Snippet.Nesting

namespace FieldTemplates.Document

open Php (Nested Token closes lex outline scan)
open Snippet (Accessor Catalog Style fieldOutline framed ifChain renderField)

theorem nested_groups (gs : List Group) :
    Nested .block (gs.flatMap fun g => Snippet.fieldsOutline .standard {} g.fields) := by
  induction gs with
  | nil => exact .nil _
  | cons g gs ih =>
      rw [List.flatMap_cons]
      exact (Snippet.nested_fields.2.1 g.fields {}).append ih

-- What is nested closes all that it opens.
theorem closes_of_nested {ts : List Token} (h : Nested .block ts) : closes [] ts = true := by
  have hcloses := h.closes [] []
  rw [List.append_nil] at hcloses
  exact hcloses

-- The code of a field at any depth, read anywhere, and the code of a document. A flexible field has
-- one chain with a branch for each of its layouts, and no chain without layouts.
theorem generated_code_nested :
    (∀ (o : Options) (style : Style), Style.ofOptions o = .ok style →
      ∀ (a : Accessor) (depth : Int) (f : Field),
        (∃ e, (renderField ⟨.standard, style⟩ a depth f).text = .error (.indentation e)) ∨
        ∃ code ts, (renderField ⟨.standard, style⟩ a depth f).text = .ok code ∧
          scan .code code = some (ts, .code) ∧ Nested .block (outline ts) ∧
          closes [] (outline ts) = true ∧
          (Text.lower f.type = Kind.flexibleContent.name → ∃ bodies : List (List Token),
            bodies.length = f.layouts.length ∧ (∀ body ∈ bodies, Nested .block body) ∧
            outline ts = framed (ifChain bodies))) ∧
    ∀ setup : Setup, setup.catalog = .standard → IsTime setup.time →
      ∀ (a : Key.Allocator) (keys : List String),
        (∃ e, (generate setup a (keys.map .key)).code = .error e ∧ e.IsIndentation) ∨
        ∃ code ts, (generate setup a (keys.map .key)).code = .ok code ∧ lex code = some ts ∧
          Nested .block (outline ts) ∧ closes [] (outline ts) = true := by
  refine ⟨?_, ?_⟩
  · intro o style hstyle a depth f
    have hlines := (Snippet.lines_yield (s := ⟨.standard, style⟩) (Style.isIndent_unit hstyle)
      Catalog.standard_safe).1 f a depth
    have hnested := Snippet.nested_fields.1 f a
    rcases Snippet.text_yields hlines with hfail | ⟨code, hcode, hread⟩
    · exact .inl hfail
    · obtain ⟨ts, t, hscan, hts, hbare⟩ := hread.exists_scan
      obtain rfl := Php.State.eq_code_of_bare hbare
      rw [← hts] at hnested
      refine .inr ⟨code, ts, hcode, hscan, hnested, closes_of_nested hnested, fun htype => ?_⟩
      exact hts ▸ Snippet.flexible_outline a f htype
  · intro setup hcatalog htime a keys
    have hsafe : setup.catalog.Safe := hcatalog ▸ Catalog.standard_safe
    rcases generate_outline hsafe htime a keys with hfail | ⟨code, ts, hcode, hlex, hts⟩
    · exact .inl hfail
    · have hnested : Nested .block (outline ts) := by
        rw [hts, hcatalog]
        exact nested_groups _
      exact .inr ⟨code, ts, hcode, hlex, hnested, closes_of_nested hnested⟩

-- Two layouts, one of them with rows inside.
def sampleSections : Field :=
  ⟨"field_sections", "sections", "Sections", "Flexible_Content", [],
    [⟨"layout_hero", "hero", "Hero", [⟨"field_title", "title", "Title", "text", [], [], []⟩], []⟩,
      ⟨"layout_list", "list", "List", [⟨"field_items", "items", "Items", "repeater", [], [], []⟩],
        []⟩], []⟩

def sectionsSetup : Setup where
  library := ⟨[⟨"group_page", "Page", [sampleSections], []⟩]⟩
  catalog := .standard
  source := Key.constantSource
  time := "2024-01-02 03:04:05"

theorem generated_code_nested_of_sections :
    (∃ style code ts, ∃ bodies : List (List Token), Style.ofOptions {} = .ok style ∧
      (renderField ⟨.standard, style⟩ {} 2 sampleSections).text = .ok code ∧
      scan .code code = some (ts, .code) ∧ bodies.length = 2 ∧
      outline ts = framed (ifChain bodies) ∧ closes [] (outline ts) = true) ∧
    ∃ code ts, (generate sectionsSetup {} (["group_page"].map .key)).code = .ok code ∧
      lex code = some ts ∧ Nested .block (outline ts) := by
  obtain ⟨hfield, hdocument⟩ := generated_code_nested
  refine ⟨?_, ?_⟩
  · let style : Style :=
      ⟨"    ".toList, "text-domain".toList, "full".toList, "thumbnail".toList⟩
    have hstyle : Style.ofOptions {} = .ok style := by decide +kernel
    have hok : (renderField ⟨.standard, style⟩ {} 2 sampleSections).text.isOk = true := by
      decide +kernel
    rcases hfield {} style hstyle {} 2 sampleSections with ⟨e, he⟩ | ⟨code, ts, hcode, hscan, h⟩
    · rw [he] at hok
      cases hok
    · obtain ⟨-, hcloses, hflexible⟩ := h
      obtain ⟨bodies, hlength, -, houtline⟩ := hflexible (by decide +kernel)
      exact ⟨style, code, ts, bodies, hstyle, hcode, hscan, hlength, houtline, hcloses⟩
  · have htime : IsTime sectionsSetup.time := by decide +kernel
    have hok : (generate sectionsSetup {} (["group_page"].map .key)).code.isOk = true := by
      decide +kernel
    rcases hdocument sectionsSetup rfl htime {} ["group_page"] with
      ⟨e, he, -⟩ | ⟨code, ts, hcode, hlex, hnested, -⟩
    · rw [he] at hok
      cases hok
    · exact ⟨code, ts, hcode, hlex, hnested⟩

end FieldTemplates.Document
