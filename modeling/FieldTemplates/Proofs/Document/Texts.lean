import FieldTemplates.Proofs.Document.Outline

namespace FieldTemplates.Document

open Php (lex outline)
open Snippet (fieldsOutline)

theorem groups_congr {c : Snippet.Catalog} {gs hs : List Group}
    (h : List.Forall₂ (fun g h => Field.AlikeAll c g.fields h.fields) gs hs) :
    (gs.flatMap fun g => fieldsOutline c {} g.fields) =
      hs.flatMap fun g => fieldsOutline c {} g.fields := by
  induction h with
  | nil => rfl
  | cons hg _ ih =>
      have hfields := (Snippet.outline_congr c).2.1 _ _ {} {} hg ⟨rfl, Iff.rfl⟩
      rw [List.flatMap_cons, List.flatMap_cons, hfields, ih]

-- A document is read to its end, in code, and what texts there are does not tell in its outline: two
-- runs over groups that differ in their texts only have the same. Everything else about the runs is
-- free, options, times, keys given before and the rest of the library included.
theorem outline_free_of_texts (setup : Setup) (hcatalog : setup.catalog = .standard)
    (htime : IsTime setup.time) (a : Key.Allocator) (keys : List String) :
    ((∃ e, (generate setup a (keys.map .key)).code = .error e ∧ e.IsIndentation) ∨
      ∃ code ts, (generate setup a (keys.map .key)).code = .ok code ∧ lex code = some ts) ∧
    ∀ (other : Setup), other.catalog = .standard → IsTime other.time →
      ∀ (b : Key.Allocator) (more : List String),
        List.Forall₂ (fun g h => Field.AlikeAll .standard g.fields h.fields)
          (resolved setup.library keys) (resolved other.library more) →
        ∀ code code', (generate setup a (keys.map .key)).code = .ok code →
          (generate other b (more.map .key)).code = .ok code' →
          ∃ ts us, lex code = some ts ∧ lex code' = some us ∧ outline ts = outline us := by
  have hsafe : setup.catalog.Safe := hcatalog ▸ Snippet.Catalog.standard_safe
  have hfirst := generate_outline hsafe htime a keys
  refine ⟨?_, ?_⟩
  · rcases hfirst with hfail | ⟨code, ts, hcode, hlex, -⟩
    · exact .inl hfail
    · exact .inr ⟨code, ts, hcode, hlex⟩
  · intro other hcatalog' htime' b more halike code code' hcode hcode'
    have hsafe' : other.catalog.Safe := hcatalog' ▸ Snippet.Catalog.standard_safe
    have hgroups : (resolved setup.library keys).flatMap
          (fun g => fieldsOutline setup.catalog {} g.fields) =
        (resolved other.library more).flatMap fun g => fieldsOutline other.catalog {} g.fields := by
      rw [hcatalog, hcatalog']
      exact groups_congr halike
    rcases hfirst with ⟨e, he, -⟩ | ⟨_, ts, hok, hlex, hts⟩
    · rw [hcode] at he
      cases he
    · rcases generate_outline hsafe' htime' b more with ⟨e, he, -⟩ | ⟨_, us, hok', hlex', hus⟩
      · rw [hcode'] at he
        cases he
      · rw [hcode] at hok
        rw [hcode'] at hok'
        cases hok
        cases hok'
        exact ⟨ts, us, hlex, hlex', by rw [hts, hus, hgroups]⟩

-- Two pages of one shape. The texts of the second try to get out of literals and comments.
def plainPage : Group :=
  ⟨"group_page", "Page", [⟨"field_hero", "hero", "Hero", "group",
    [⟨"field_title", "title", "Title", "text", [], [], []⟩], [], []⟩], []⟩

def hostilePage : Group :=
  ⟨"*/ group", "Page ?> <b>\r\n?>", [⟨"", "it's\n'; evil(); //", "*/ evil(); /*", "GROUP",
    [⟨"'", "\\", "?>", "Email", [], [], []⟩], [], []⟩], []⟩

def pageSetup (page : Group) (title : String) : Setup where
  library := ⟨[page]⟩
  catalog := .standard
  options := { headerTitle := .text title, useTabs := .bool (title = "") }
  source := Key.constantSource
  time := "2024-01-02 03:04:05"

theorem outline_free_of_texts_of_hostilePage : ∃ code code' ts us,
    (generate (pageSetup plainPage "Page") {} (["group_page"].map .key)).code = .ok code ∧
      (generate (pageSetup hostilePage "") {} (["none", "*/ group"].map .key)).code = .ok code' ∧
      lex code = some ts ∧ lex code' = some us ∧ outline ts = outline us := by
  have htime : IsTime "2024-01-02 03:04:05" := by decide +kernel
  have hgroup : Snippet.Catalog.standard.resolve "group" = .ok .group ∧
      Snippet.Catalog.standard.resolve "GROUP" = .ok .group := by decide +kernel
  have htext : Snippet.Catalog.standard.resolve "text" = .ok .text ∧
      Snippet.Catalog.standard.resolve "Email" = .ok .text := by decide +kernel
  have hplain : resolved ⟨[plainPage]⟩ ["group_page"] = [plainPage] := by
    simp [resolved, Library.find?, plainPage]
  have hhostile : resolved ⟨[hostilePage]⟩ ["none", "*/ group"] = [hostilePage] := by
    simp [resolved, Library.find?, hostilePage]
  have halike : List.Forall₂ (fun g h : Group => Field.AlikeAll .standard g.fields h.fields)
      (resolved ⟨[plainPage]⟩ ["group_page"]) (resolved ⟨[hostilePage]⟩ ["none", "*/ group"]) := by
    rw [hplain, hhostile]
    refine .cons ⟨_, [], rfl, ⟨⟨.group, hgroup.1, hgroup.2, ?_⟩, ?_, rfl⟩, rfl⟩ .nil
    · decide
    · exact ⟨_, [], rfl, ⟨⟨.text, htext.1, htext.2, by decide⟩, rfl, rfl⟩, rfl⟩
  have hok : (generate (pageSetup plainPage "Page") {} (["group_page"].map .key)).code.isOk ∧
      (generate (pageSetup hostilePage "") {} (["none", "*/ group"].map .key)).code.isOk := by
    decide +kernel
  have hpair := (outline_free_of_texts (pageSetup plainPage "Page") rfl htime {} ["group_page"]).2
    (pageSetup hostilePage "") rfl htime {} ["none", "*/ group"] halike
  cases hcode : (generate (pageSetup plainPage "Page") {} (["group_page"].map .key)).code with
  | error e =>
      rw [hcode] at hok
      cases hok.1
  | ok code =>
      cases hcode' :
          (generate (pageSetup hostilePage "") {} (["none", "*/ group"].map .key)).code with
      | error e =>
          rw [hcode'] at hok
          cases hok.2
      | ok code' =>
          obtain ⟨ts, us, hts, hus, hsame⟩ := hpair code code' hcode hcode'
          exact ⟨code, code', ts, us, rfl, rfl, hts, hus, hsame⟩

end FieldTemplates.Document
