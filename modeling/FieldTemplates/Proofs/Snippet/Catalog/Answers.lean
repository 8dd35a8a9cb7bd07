import FieldTemplates.Proofs.Snippet.Catalog.History
import FieldTemplates.Proofs.Text.Sorted

namespace FieldTemplates.Snippet.Catalog

-- All that a catalog answers about types.
structure SameAnswers (c d : Catalog) : Prop where
  find? : ∀ type, d.find? type = c.find? type
  resolve : ∀ type, d.resolve type = c.resolve type
  supports : ∀ type, d.supports type = c.supports type
  types : d.types = c.types
  aliasesOf : ∀ type, d.aliasesOf type = c.aliasesOf type

theorem SameAnswers.refl (c : Catalog) : c.SameAnswers c :=
  ⟨fun _ => rfl, fun _ => rfl, fun _ => rfl, rfl, fun _ => rfl⟩

theorem mem_types {c : Catalog} {name : String} : name ∈ c.types ↔ name ∈ c.renderers.names :=
  (Text.sorted_perm _).mem_iff

theorem own?_eq_none {c : Catalog} {type : String} :
    c.own? type = none ↔ Text.lower type ∉ c.types := by
  rw [mem_types, ← Table.isSome_find?, Bool.not_eq_true, Option.isSome_eq_false_iff, Option.isNone_iff_eq_none,
    own?]

-- Without leave to replace, no alias that goes in has a renderer of its own.
theorem free_of_register {c d : Catalog} {type : String} {r : Renderer} {names : List String}
    (hnew : c.own? type = none) (h : c.register type (some r) names false = (d, none)) :
    d = c.registered type r names ∧
      ∀ name ∈ names, Text.lower name = Text.lower type ∨ c.own? name = none := by
  have hends := register_ends c type (some r) names false
  rw [h] at hends
  cases hends with
  | kept _ hown => simp [hnew] at hown
  | done _ hfree => exact ⟨rfl, hfree rfl⟩

-- In a sound catalog no name stands for a type without a renderer.
theorem Sound.ownerOf?_ne {c : Catalog} (h : c.Sound) {type : String} (hnew : c.own? type = none)
    (name : String) : c.ownerOf? name ≠ some (Text.lower type) := by
  intro howner
  have hmem := h.owned _ (Table.mem_of_find? howner)
  exact own?_eq_none.mp hnew (mem_types.mpr hmem)

-- A type that is new to a sound catalog, and its aliases, are found then; all else is found as before.
theorem Sound.find?_registered {c : Catalog} (h : c.Sound) {type : String} {r : Renderer}
    {names : List String} (hnew : c.own? type = none)
    (hfree : ∀ name ∈ names, Text.lower name = Text.lower type ∨ c.own? name = none) (name : String) :
    (c.registered type r names).find? name =
      if Text.lower name ∈ (type :: names).map Text.lower then some r else c.find? name := by
  rw [Catalog.find?_registered, List.map_cons]
  by_cases htype : Text.lower name = Text.lower type
  · rw [if_pos htype, if_pos (htype ▸ List.mem_cons_self)]
  · rw [if_neg htype]
    by_cases hname : Text.lower name ∈ names.map Text.lower
    · obtain ⟨other, hother, heq⟩ := List.mem_map.mp hname
      have hown : c.own? name = none := by
        rw [own?, ← heq]
        exact (hfree other hother).resolve_left (fun hself => htype (heq.symm.trans hself))
      rw [hown, Option.none_or, if_pos hname, if_pos (List.mem_cons_of_mem _ hname)]
    · have hnone : Text.lower name ∉ Text.lower type :: names.map Text.lower := by
        rw [List.mem_cons]
        exact fun hor => hor.elim htype hname
      rw [if_neg hname, if_neg hnone, find?_eq_or]
      cases howner : c.ownerOf? name with
      | none => rfl
      | some owner =>
          have hne : owner ≠ Text.lower type := fun heq => h.ownerOf?_ne hnew name (heq ▸ howner)
          rw [Option.bind_some, Option.bind_some, Table.find?_put, if_neg hne]

-- A registration is refused before it changes anything where nothing renders, and only then is all
-- answered as before. Refused over an alias, it leaves what it would leave with the aliases in front of
-- that one alone: these and the type have the renderer.
theorem refused_registration_goes_halfway (fallback : Option Renderer) (calls : List Call)
    (type : String) (r : Option Renderer) (aliases : List String) (replace : Bool) (e : CatalogError)
    (h : ((after fallback calls).register type r aliases replace).2 = some e) :
    let c := after fallback calls
    let d := (c.register type r aliases replace).1
    (c.SameAnswers d ↔ r = none) ∧ (r = none → d = c ∧ e = .notCallable type) ∧
      ∀ q, r = some q → replace = false ∧ Text.lower type ∉ c.types ∧ Text.lower type ∈ d.types ∧
        ∃ front name back, aliases = front ++ name :: back ∧
          d.refusal? (Text.lower type) name = some e ∧ c.register type r front replace = (d, none) ∧
          ∀ other, d.find? other =
            if Text.lower other ∈ (type :: front).map Text.lower then some q else c.find? other := by
  intro c d
  have hends := register_ends c type r aliases replace
  rcases hresult : c.register type r aliases replace with ⟨left, end?⟩
  have hd : d = left := congrArg Prod.fst hresult
  have hend : end? = some e := (congrArg Prod.snd hresult).symm.trans h
  rw [hresult, hend] at hends
  rw [hd]
  cases hends with
  | notCallable =>
      exact ⟨⟨fun _ => rfl, fun _ => .refl c⟩, fun _ => ⟨rfl, rfl⟩,
        fun q hq => absurd hq (Option.some_ne_none q).symm⟩
  | @refused q front back name _ hnew haliases hrefused hfront =>
      have hmem : Text.lower type ∈ (c.registered type q front).types := by
        rw [mem_types, renderers_registered]
        exact Table.mem_names_put.mpr (.inl rfl)
      have hnotMem : Text.lower type ∉ c.types := own?_eq_none.mp hnew
      have hsome : some q ≠ none := Option.some_ne_none q
      refine ⟨⟨fun hsame => absurd (hsame.types ▸ hmem) hnotMem, fun hnone => absurd hnone hsome⟩,
        fun hnone => absurd hnone hsome, fun p hp => ?_⟩
      obtain rfl := Option.some.inj hp
      refine ⟨rfl, hnotMem, hmem, front, name, back, haliases, hrefused, hfront, ?_⟩
      exact (sound_after fallback calls).find?_registered hnew (free_of_register hnew hfront).2

-- A catalog for texts.
def textCatalog : Catalog := after none [.register "text" (some .text) [] false]

theorem refused_registration_goes_halfway_of_textCatalog :
    let r := textCatalog.register "Rating" (some .url) ["stars", "TEXT"] false
    r.2 = some (.aliasIsType "TEXT") ∧ ¬ textCatalog.SameAnswers r.1 ∧
      r.1.find? "RATING" = some .url := by
  intro r
  have h : r.2 = some (.aliasIsType "TEXT") := by decide +kernel
  obtain ⟨hsame, -, hhalf⟩ := refused_registration_goes_halfway none
    [.register "text" (some .text) [] false] "Rating" (some .url) ["stars", "TEXT"] false _ h
  obtain ⟨-, -, -, front, -, -, -, -, -, hfound⟩ := hhalf .url rfl
  have hlower : Text.lower "RATING" = Text.lower "Rating" := by decide +kernel
  have hmem : Text.lower "RATING" ∈ ("Rating" :: front).map Text.lower := by
    rw [hlower]
    exact List.mem_cons_self
  have hrating := hfound "RATING"
  rw [if_pos hmem] at hrating
  exact ⟨h, fun hanswers => absurd (hsame.mp hanswers) (Option.some_ne_none _), hrating⟩

-- The alias in front of the refused one is supported from then on.
theorem answers_of_refused_rating :
    let r := textCatalog.register "rating" (some .url) ["stars", "text"] false
    r.2 = some (.aliasIsType "text") ∧ ¬ textCatalog.SameAnswers r.1 := by
  intro r
  have hstars : r.1.supports "stars" = true ∧ textCatalog.supports "stars" = false := by decide +kernel
  refine ⟨by decide +kernel, fun hsame => ?_⟩
  have hsupports := hsame.supports "stars"
  rw [hstars.1, hstars.2] at hsupports
  cases hsupports

-- Where a registration goes through and the type is new or may be replaced, the type is found with the
-- renderer, and so is each of its aliases but those that have a renderer of their own, which keep it.
-- Only with leave to replace are there such aliases.
theorem registered_names_found {c : Catalog} {type : String} {r : Renderer} {aliases : List String}
    {replace : Bool} (hdone : (c.register type (some r) aliases replace).2 = none)
    (hnew : replace = true ∨ c.own? type = none) :
    let d := (c.register type (some r) aliases replace).1
    (∀ name, Text.lower name = Text.lower type → d.find? name = some r) ∧
      ∀ alias_ ∈ aliases, ∀ name, Text.lower name = Text.lower alias_ →
        (Text.lower name ≠ Text.lower type → d.find? name = some ((c.own? name).getD r)) ∧
        (replace = false → d.find? name = some r) := by
  intro d
  have hends := register_ends c type (some r) aliases replace
  rcases hresult : c.register type (some r) aliases replace with ⟨left, end?⟩
  have hd : d = left := congrArg Prod.fst hresult
  have hend : end? = none := (congrArg Prod.snd hresult).symm.trans hdone
  rw [hresult, hend] at hends
  rw [hd]
  cases hends with
  | kept _ hown =>
      rcases hnew with hreplace | hnone
      · cases hreplace
      · simp [hnone] at hown
  | done _ hfree =>
      have htype : ∀ name, Text.lower name = Text.lower type →
          (c.registered type r aliases).find? name = some r := fun name hname => by
        rw [find?_registered, if_pos hname]
      refine ⟨htype, fun alias_ halias name hname => ?_⟩
      have hmem : Text.lower name ∈ aliases.map Text.lower := hname ▸ List.mem_map_of_mem halias
      have hother : Text.lower name ≠ Text.lower type →
          (c.registered type r aliases).find? name = some ((c.own? name).getD r) := fun hne => by
        rw [find?_registered, if_neg hne, if_pos hmem]
        cases c.own? name <;> rfl
      refine ⟨hother, fun hreplace => ?_⟩
      by_cases hself : Text.lower name = Text.lower type
      · exact htype name hself
      · have hown : c.own? name = none := by
          rw [own?, hname]
          exact (hfree hreplace alias_ halias).resolve_left (fun h => hself (hname.trans h))
        rw [hother hself, hown, Option.getD_none]

theorem registered_names_found_of_textCatalog :
    let r := textCatalog.register "Rating" (some .url) ["STARS", "text", "rating"] true
    r.2 = none ∧ r.1.find? "RATING" = some .url ∧ r.1.find? "stars" = some .url ∧
      r.1.find? "Text" = some .text := by
  intro r
  have hdone : r.2 = none := by decide +kernel
  have hlower : Text.lower "RATING" = Text.lower "Rating" ∧ Text.lower "stars" = Text.lower "STARS" ∧
      Text.lower "stars" ≠ Text.lower "Rating" ∧ Text.lower "Text" = Text.lower "text" ∧
      Text.lower "Text" ≠ Text.lower "Rating" := by decide +kernel
  have hown : textCatalog.own? "stars" = none ∧ textCatalog.own? "Text" = some .text := by
    decide +kernel
  obtain ⟨htype, haliases⟩ := registered_names_found hdone (.inl rfl)
  have hstars := (haliases "STARS" (by decide) "stars" hlower.2.1).1 hlower.2.2.1
  have htext := (haliases "text" (by decide) "Text" hlower.2.2.2.1).1 hlower.2.2.2.2
  rw [hown.1] at hstars
  rw [hown.2] at htext
  exact ⟨hdone, htype "RATING" hlower.1, hstars, htext⟩

-- An alias that is a type keeps the renderer of its own.
theorem names_of_replaced_rating :
    let r := textCatalog.register "rating" (some .url) ["text"] true
    r.2 = none ∧ r.1.find? "text" ≠ some .url := by
  decide +kernel

end FieldTemplates.Snippet.Catalog
