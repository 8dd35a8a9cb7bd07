import FieldTemplates.Proofs.Snippet.Inside
import FieldTemplates.Proofs.Snippet.Levels
import FieldTemplates.Proofs.Snippet.Types

namespace FieldTemplates

namespace Kind

def names : List String := all.map name

-- The kinds with fields inside.
def compositeNames : List String := ["repeater", "group", "clone", "flexible_content"]

theorem name_of_ofName? {s : String} {kind : Kind} (h : ofName? s = some kind) :
    kind ∈ all ∧ kind.name = s := by
  rw [ofName?] at h
  have hname := List.find?_some h
  exact ⟨List.mem_of_find?_eq_some h, beq_iff_eq.mp hname⟩

theorem ofName?_eq_none_iff {s : String} : ofName? s = none ↔ s ∉ names := by
  rw [ofName?, List.find?_eq_none, names, List.mem_map]
  simp

theorem lower_name {s : String} (h : s ∈ names) : Text.lower s = s := by
  have hall : ∀ name ∈ names, Text.lower name = name := by decide
  exact hall s h

-- A text names a kind where its small letters do and it has no others.
theorem ofName?_eq_none_iff_lower {s : String} :
    ofName? s = none ↔ ofName? (Text.lower s) = none ∨ Text.lower s ≠ s := by
  rw [ofName?_eq_none_iff, ofName?_eq_none_iff]
  by_cases hsmall : Text.lower s = s
  · rw [hsmall]
    simp
  · exact iff_of_true (fun hs => hsmall (lower_name hs)) (.inr hsmall)

theorem composite_iff {s : String} : (ofName? s).any composite = true ↔ s ∈ compositeNames := by
  have hall : ∀ kind ∈ all, kind.composite = true → kind.name ∈ compositeNames := by decide
  have hnames : ∀ name ∈ compositeNames, (ofName? name).any composite = true := by decide
  refine ⟨fun h => ?_, hnames s⟩
  cases hkind : ofName? s with
  | none =>
      rw [hkind] at h
      cases h
  | some kind =>
      rw [hkind] at h
      obtain ⟨hmem, rfl⟩ := name_of_ofName? hkind
      exact hall kind hmem h

end Kind

namespace Snippet

open Code (Line)

-- Every kind has a name in the table of renderers, and there are no other names in it.
theorem mem_names_standardTable {name : String} : name ∈ standardTable.names ↔ name ∈ Kind.names := by
  have htable : ∀ name ∈ standardTable.names, name ∈ Kind.names := by decide
  have hkinds : ∀ name ∈ Kind.names, name ∈ standardTable.names := by decide
  exact ⟨htable name, hkinds name⟩

theorem Catalog.standard_find?_eq_none_iff {type : String} :
    Catalog.standard.find? type = none ↔ Kind.ofName? (Text.lower type) = none := by
  rw [standard_find?, Kind.ofName?_eq_none_iff, ← mem_names_standardTable, ← Table.isSome_find?,
    Option.not_isSome_iff_eq_none]

-- What is inside fields of a type makes a difference to what is written for them.
def Catalog.ShowsInside (c : Catalog) (type : String) : Prop :=
  ∃ (style : Style) (a : Accessor) (depth : Int) (f g : Field), f.type = type ∧ g.type = type ∧
    g.name = f.name ∧ g.label = f.label ∧
    (renderField ⟨c, style⟩ a depth g).text ≠ (renderField ⟨c, style⟩ a depth f).text

theorem not_showsInside_of_isLeaf {c : Catalog} {type : String} {r : Renderer}
    (hr : c.resolve type = .ok r) (hleaf : r.isLeaf = true) : ¬ c.ShowsInside type := by
  rintro ⟨style, a, depth, f, g, hf, hg, hname, hlabel, hne⟩
  let s : Setting := ⟨c, style⟩
  have htype : g.type = f.type := hg.trans hf.symm
  have hlines : r.lines s a depth g = r.lines s a depth f :=
    Renderer.lines_of_isLeaf hleaf rfl hname htype a depth
  obtain ⟨ls, hls⟩ := Renderer.exists_lines_of_isLeaf hleaf s a depth f
  refine hne ?_
  have hg := fieldLines_eq_enclosed (s := s) (f := g) (hg ▸ hr) a depth
  have hf := fieldLines_eq_enclosed (s := s) (f := f) (hf ▸ hr) a depth
  rw [hlines, hls, enclosed, hlabel, htype] at hg
  rw [hls, enclosed] at hf
  exact (Trace.text_of_lines hg s.style.unit).trans (Trace.text_of_lines hf s.style.unit).symm

-- The text of a small field is not too deep to be written.
theorem renderField_of_small {f : Field} (hsize : Field.size (Field.flattenAll [f]) < 2 ^ 25)
    {ls : List Line} (h : fieldLines ⟨.standard, .plain⟩ {} 0 f = .ok ls) :
    (renderField ⟨.standard, .plain⟩ {} 0 f).text = .ok (Code.text Style.plain.unit ls) := by
  let s : Setting := ⟨.standard, .plain⟩
  have hcatalog : s.catalog = .standard := by simp only [s]
  have hplain : s.style.unit.length ≤ 16 ∧ s.style.size < 2 ^ 25 := by decide
  rcases Trace.text_ok h s.style.unit with ⟨e, hrefused⟩ | htext
  · rw [← fieldsTrace_singleton] at hrefused
    have hlarge := size_of_refused hcatalog hplain.1 hrefused
    omega
  · exact htext

theorem standard_showsInside_iff {type : String} :
    Catalog.standard.ShowsInside type ↔ Text.lower type ∈ Kind.compositeNames := by
  have hshows : ∀ r, Catalog.standard.resolve type = .ok r → r.isLeaf = false →
      Catalog.standard.ShowsInside type := by
    intro r hr hleaf
    obtain ⟨ls, ms, hls, hms, hlonger⟩ := longer_fullField hr hleaf .plain {} 0
    refine ⟨.plain, {}, 0, bareField type, fullField type, rfl, rfl, rfl, rfl, fun heq => ?_⟩
    have hbare : Field.size (Field.flattenAll [bareField type]) = 1 := rfl
    have hfull : Field.size (Field.flattenAll [fullField type]) = 3 := rfl
    rw [renderField_of_small (by omega) hls, renderField_of_small (by omega) hms] at heq
    rw [Except.ok.inj heq] at hlonger
    exact absurd hlonger (Nat.lt_irrefl _)
  rcases standard_type_cases type with ⟨htype, hr⟩ | ⟨htype, hr⟩ | ⟨htype, hr⟩ | ⟨htype, hr⟩ |
    ⟨htype, r, -, hr, hleaf⟩
  · exact iff_of_true (hshows _ hr rfl) (by rw [htype]; decide)
  · exact iff_of_true (hshows _ hr rfl) (by rw [htype]; decide)
  · exact iff_of_true (hshows _ hr rfl) (by rw [htype]; decide)
  · exact iff_of_true (hshows _ hr rfl) (by rw [htype]; decide)
  · exact iff_of_false (not_showsInside_of_isLeaf hr hleaf) htype

-- A field is of no known kind where its type has no standard renderer or has other than small letters, and
-- it is composite where its type shows what is inside and has small letters only. In small letters a
-- type names a kind exactly where it has a standard renderer, and a composite one exactly where that
-- renderer shows what is inside.
theorem kinds_rendered_in_small_letters (f : Field) :
    (f.kind? = none ↔ Catalog.standard.find? f.type = none ∨ Text.lower f.type ≠ f.type) ∧
      (f.isComposite = true ↔ Catalog.standard.ShowsInside f.type ∧ Text.lower f.type = f.type) ∧
      (Kind.ofName? (Text.lower f.type) = none ↔ Catalog.standard.find? f.type = none) ∧
      ((Kind.ofName? (Text.lower f.type)).any Kind.composite = true ↔
        Catalog.standard.ShowsInside f.type) := by
  refine ⟨?_, ?_, Catalog.standard_find?_eq_none_iff.symm, ?_⟩
  · rw [Catalog.standard_find?_eq_none_iff]
    exact Kind.ofName?_eq_none_iff_lower
  · rw [Field.isComposite, Field.kind?, Kind.composite_iff, standard_showsInside_iff]
    constructor
    · intro hmem
      have hnames : ∀ name ∈ Kind.compositeNames, Text.lower name = name := by decide
      have hsmall := hnames _ hmem
      exact ⟨hsmall.symm ▸ hmem, hsmall⟩
    · rintro ⟨hmem, hsmall⟩
      exact hsmall ▸ hmem
  · rw [Kind.composite_iff, standard_showsInside_iff]

-- A capital letter is enough for a field to be of no known kind, and it is rendered as a repeater
-- nevertheless.
theorem kind_of_capital_repeater :
    let f : Field := ⟨"field_rows", "rows", "Rows", "Repeater", [], [], []⟩
    f.kind? = none ∧ Catalog.standard.find? f.type ≠ none ∧ f.isComposite = false ∧
      Catalog.standard.ShowsInside f.type := by
  have hlower : Text.lower "Repeater" ∈ Kind.compositeNames := by decide
  have hrendered : Kind.ofName? (Text.lower "Repeater") ≠ none := by decide
  exact ⟨by decide, fun hnone => hrendered (Catalog.standard_find?_eq_none_iff.mp hnone), by decide,
    standard_showsInside_iff.mpr hlower⟩

end Snippet

end FieldTemplates
