import FieldTemplates.Proofs.Snippet.Catalog.Answers
import FieldTemplates.Proofs.Text.Trim

namespace FieldTemplates.Snippet.Catalog

-- A name that stands for a type and has a renderer of its own as well.
def Doubled (c : Catalog) (name : String) : Prop :=
  (c.own? name).isSome = true ∧ (c.ownerOf? name).isSome = true

-- Documentation that is there and has nothing to read.
def IsBlankDoc (doc : Option String) : Prop :=
  ∃ s, doc = some s ∧ s ≠ "" ∧ ∀ c ∈ s.toList, Text.isBlank c = true

theorem description_cases (doc : Option String) :
    (IsBlankDoc doc ∧ description doc = .error .noDescription) ∨
      ¬ IsBlankDoc doc ∧ ∃ text, description doc = .ok text := by
  fun_cases description doc with
  | case1 => exact .inr ⟨fun ⟨s, hs, _⟩ => absurd hs.symm (Option.some_ne_none s), "", rfl⟩
  | case2 => exact .inr ⟨fun ⟨s, hs, hne, _⟩ => hne (Option.some.inj hs).symm, "", rfl⟩
  | case3 s hne htrim =>
      exact .inl ⟨⟨s, rfl, hne, Text.trim_eq_nil_iff.mp htrim⟩, rfl⟩
  | case4 s hne htrim =>
      refine .inr ⟨fun ⟨t, ht, _, hblank⟩ => ?_, _, rfl⟩
      obtain rfl := Option.some.inj ht
      exact htrim (Text.trim_eq_nil_iff.mpr hblank)

-- The type that is told about under a name.
def nameOf (c : Catalog) (name : String) : String := (c.ownerOf? name).getD (Text.lower name)

theorem Doubled.told {c : Catalog} {name : String} (h : c.Doubled name) {r : Renderer}
    (hr : c.find? name = some r) :
    c.own? name = some r ∧ c.ownerOf? name = some (c.nameOf name) := by
  obtain ⟨own, hown⟩ := Option.isSome_iff_exists.mp h.1
  obtain ⟨owner, howner⟩ := Option.isSome_iff_exists.mp h.2
  rw [find?_of_own hown] at hr
  rw [nameOf, howner, hown, hr]
  exact ⟨rfl, rfl⟩

theorem info_of_none {c : Catalog} {name : String} (h : c.find? name = none) :
    c.info name = .error (.noRenderer name) := by
  simp only [info, h]

theorem info_of_some {c : Catalog} {name : String} {r : Renderer} (h : c.find? name = some r) :
    c.info name = (description r.doc).map fun text =>
      ⟨c.nameOf name, r.name, c.aliasesOf (c.nameOf name), text⟩ := by
  simp only [info, h]
  cases description r.doc <;> rfl

variable {c : Catalog} (h : c.Sound)
include h

theorem Sound.mem_aliasesOf {type name : String} : name ∈ c.aliasesOf type ↔
    Text.lower name = name ∧ c.ownerOf? name = some (Text.lower type) := by
  have hsorted : name ∈ c.aliasesOf type ↔ (name, Text.lower type) ∈ c.aliases := by
    rw [aliasesOf, (Text.sorted_perm _).mem_iff]
    simp
  rw [hsorted, ← Table.find?_eq_some_iff h.nodup_aliases]
  constructor
  · intro hfind
    have hlower : Text.lower name = name :=
      h.lower_aliases name (List.mem_map_of_mem (Table.mem_of_find? hfind))
    exact ⟨hlower, by rw [ownerOf?, hlower, hfind]⟩
  · rintro ⟨hlower, howner⟩
    rwa [ownerOf?, hlower] at howner

-- The type that is told about is in lower case and has a renderer.
theorem Sound.nameOf_mem {name : String} {r : Renderer} (hfind : c.find? name = some r) :
    c.nameOf name ∈ c.renderers.names := by
  rw [nameOf]
  cases howner : c.ownerOf? name with
  | some owner => exact h.owned _ (Table.mem_of_find? howner)
  | none =>
      rw [find?_eq_or, howner, Option.bind_none, Option.or_none] at hfind
      exact List.mem_map_of_mem (Table.mem_of_find? hfind)

theorem Sound.find?_owner {name owner : String} (howner : c.ownerOf? name = some owner)
    (hdoubled : ¬ c.Doubled name) : c.find? name = c.find? owner := by
  have hmem : owner ∈ c.renderers.names := h.owned _ (Table.mem_of_find? howner)
  have hown : c.own? name = none := by
    rw [← Option.not_isSome_iff_eq_none]
    exact fun hsome => hdoubled ⟨hsome, by rw [howner]; rfl⟩
  obtain ⟨r, hr⟩ := Option.isSome_iff_exists.mp (Table.isSome_find?.mpr hmem)
  have hownOwner : c.own? owner = some r := by rw [own?, h.lower_types owner hmem, hr]
  rw [find?_of_own hownOwner, find?_eq_or, hown, howner, Option.none_or, Option.bind_some, hr]

theorem Sound.find?_nameOf {name : String} (hdoubled : ¬ c.Doubled name) :
    c.find? (c.nameOf name) = c.find? name := by
  rw [nameOf]
  cases howner : c.ownerOf? name with
  | some owner => exact (h.find?_owner howner hdoubled).symm
  | none => simp only [Option.getD_none, find?, Text.lower_lower]

omit h

-- After any calls, a name is told about where it has a renderer, but for documentation that is blank. What is
-- told names this renderer. It goes under a type that this renders too, unless the name is doubled: then
-- the renderer is the name's own and the type is the one that it stands for. It lists all names that
-- stand for the type, and what renders the type renders them, unless they are doubled.
theorem told_of_what_renders (fallback : Option Renderer) (calls : List Call) (name : String) :
    let c := after fallback calls
    (c.info name = .error (.noRenderer name) ↔ c.find? name = none) ∧
      ∀ r, c.find? name = some r →
        (IsBlankDoc r.doc ∧ c.info name = .error .noDescription) ∨
          ¬ IsBlankDoc r.doc ∧ ∃ i, c.info name = .ok i ∧ i.renderer = r.name ∧
            (c.find? i.name).isSome = true ∧ (¬ c.Doubled name → c.find? i.name = some r) ∧
            (c.Doubled name → c.own? name = some r ∧ c.ownerOf? name = some i.name) ∧
            (∀ other, other ∈ i.aliases ↔
              Text.lower other = other ∧ c.ownerOf? other = some i.name) ∧
            ∀ other ∈ i.aliases, ¬ c.Doubled other → c.find? other = c.find? i.name := by
  intro c
  have hsound : c.Sound := sound_after fallback calls
  refine ⟨⟨fun hinfo => ?_, info_of_none⟩, fun r hr => ?_⟩
  · cases hfind : c.find? name with
    | none => rfl
    | some r =>
        rw [info_of_some hfind] at hinfo
        rcases description_cases r.doc with ⟨-, hdoc⟩ | ⟨-, text, hdoc⟩
        · rw [hdoc] at hinfo
          cases hinfo
        · rw [hdoc] at hinfo
          cases hinfo
  · have hmem := hsound.nameOf_mem hr
    have hlower := hsound.lower_types _ hmem
    have haliases : ∀ other, other ∈ c.aliasesOf (c.nameOf name) ↔
        Text.lower other = other ∧ c.ownerOf? other = some (c.nameOf name) := fun other => by
      rw [hsound.mem_aliasesOf, hlower]
    obtain ⟨p, hp⟩ := Option.isSome_iff_exists.mp (Table.isSome_find?.mpr hmem)
    have hown : c.own? (c.nameOf name) = some p := by rw [own?, hlower, hp]
    rw [info_of_some hr]
    rcases description_cases r.doc with ⟨hblank, hdoc⟩ | ⟨hsaid, text, hdoc⟩
    · exact .inl ⟨hblank, by rw [hdoc]; rfl⟩
    · refine .inr ⟨hsaid, _, by rw [hdoc]; rfl, rfl, by rw [find?_of_own hown]; rfl, fun hdoubled => ?_,
        fun hdoubled => ?_, haliases, fun other hother hdoubled => ?_⟩
      · exact (hsound.find?_nameOf hdoubled).trans hr
      · exact hdoubled.told hr
      · exact hsound.find?_owner ((haliases other).mp hother).2 hdoubled

-- The standard renderers, among which some are shared.
def standardCalls : List Call := [.addStandard false]

theorem told_of_what_renders_of_standardCalls :
    let c := after none standardCalls
    ∃ i, c.info "TextArea" = .ok i ∧ i.renderer = "render_text" ∧ c.find? i.name = some .text ∧
      "email" ∈ i.aliases ∧ c.find? "email" = c.find? i.name := by
  intro c
  have hfind : c.find? "TextArea" = some .text := by decide +kernel
  have hsingle : ¬ c.Doubled "TextArea" ∧ ¬ c.Doubled "email" := by
    unfold Doubled
    decide +kernel
  have hemail : Text.lower "email" = "email" ∧ c.ownerOf? "email" = some (c.nameOf "TextArea") := by
    decide +kernel
  obtain ⟨-, htold⟩ := told_of_what_renders none standardCalls "TextArea"
  rcases htold .text hfind with ⟨⟨s, hs, -, hblank⟩, -⟩ | ⟨-, i, hinfo, hname, -, hsame, -, hlisted, hothers⟩
  · obtain rfl := Option.some.inj hs
    exact absurd (hblank 'E' (by decide +kernel)) (by decide)
  · have hi : i.name = c.nameOf "TextArea" := by
      rw [info_of_some hfind] at hinfo
      obtain rfl := Except.ok.inj hinfo
      rfl
    have hmem : "email" ∈ i.aliases := (hlisted "email").mpr ⟨hemail.1, hi ▸ hemail.2⟩
    exact ⟨i, hinfo, hname, hsame hsingle.1, hmem, hothers "email" hmem hsingle.2⟩

-- A name that got a renderer of its own after it stood for a type, and a renderer with blanks to read.
def doubledCatalog : Catalog := after none [.register "rating" (some .url) ["stars"] false,
  .register "stars" (some .text) [] false, .register "rule" (some ⟨"rule", some "   ", []⟩) [] false]

theorem told_of_doubledCatalog :
    (∃ i, doubledCatalog.info "stars" = .ok i ∧
        doubledCatalog.find? i.name ≠ doubledCatalog.find? "stars") ∧
      doubledCatalog.find? "rule" ≠ none ∧ doubledCatalog.info "rule" = .error .noDescription := by
  have hfind : doubledCatalog.find? "stars" = some .text ∧
      doubledCatalog.find? "rule" = some ⟨"rule", some "   ", []⟩ ∧
      doubledCatalog.nameOf "stars" = "rating" ∧ doubledCatalog.find? "rating" = some .url := by
    decide +kernel
  obtain ⟨hstars, hrule, hname, hrating⟩ := hfind
  refine ⟨?_, by rw [hrule]; exact Option.some_ne_none _, ?_⟩
  · rw [info_of_some hstars]
    refine ⟨_, rfl, ?_⟩
    rw [hname, hrating, hstars]
    decide
  · rw [info_of_some hrule]
    rfl

end FieldTemplates.Snippet.Catalog
