import FieldTemplates.Proofs.Document.Tokens
import FieldTemplates.Proofs.Snippet.Alike

namespace FieldTemplates.Document

open Php (lex outline)
open Snippet (Style fieldsOutline)

theorem outline_groupTokens {setup : Setup} (hcatalog : setup.catalog.Safe) (style : Style) (g : Group) :
    outline (groupTokens setup style g) = fieldsOutline setup.catalog {} g.fields := by
  have htokens := Snippet.outline_tokens hcatalog style
    ((Snippet.has_of_mem_rows setup.catalog).2.1 g.fields {})
  rw [← (Snippet.rows_outline setup.catalog).2.1, ← htokens]
  exact Php.outline_gist _

-- A run over keys ends over an indentation or with a document, and the document is read to its end
-- with the outlines of the groups that answer the keys.
theorem generate_outline {setup : Setup} (hcatalog : setup.catalog.Safe) (htime : IsTime setup.time)
    (a : Key.Allocator) (keys : List String) :
    (∃ e, (generate setup a (keys.map .key)).code = .error e ∧ e.IsIndentation) ∨
      ∃ code ts, (generate setup a (keys.map .key)).code = .ok code ∧ lex code = some ts ∧
        outline ts = (resolved setup.library keys).flatMap fun g =>
          fieldsOutline setup.catalog {} g.fields := by
  rcases generate_tokens hcatalog htime a keys with hfail | ⟨style, code, ts, -, hcode, hlex, hts⟩
  · exact .inl hfail
  · refine .inr ⟨code, ts, hcode, hlex, ?_⟩
    have hheader : outline [.remark [], .remark []] = [] := rfl
    rw [← Php.outline_gist, hts, Php.outline_append, hheader, List.nil_append, outline,
      List.filterMap_flatMap]
    exact List.flatMap_congr fun g _ => outline_groupTokens hcatalog style g

end FieldTemplates.Document
