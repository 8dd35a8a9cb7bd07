import FieldTemplates.Proofs.Snippet.Catalog.Answers

namespace FieldTemplates.Snippet.Catalog

-- Types stay types and aliases stay aliases, whatever they lead to.
structure Extends (c d : Catalog) : Prop where
  types : ∀ name ∈ c.renderers.names, name ∈ d.renderers.names
  aliases : ∀ name ∈ c.aliases.names, name ∈ d.aliases.names

theorem Extends.refl (c : Catalog) : c.Extends c := ⟨fun _ h => h, fun _ h => h⟩

theorem extends_kept (c : Catalog) : Kept c.Extends where
  setFallback _ h := ⟨h.types, h.aliases⟩
  setOwn _ _ h := ⟨fun name hname => Table.mem_names_put.mpr (.inr (h.types name hname)), h.aliases⟩
  point {d type} name _ h := by
    refine ⟨by rw [renderers_point]; exact h.types, fun other hother => ?_⟩
    unfold Catalog.point
    split_ifs
    · exact h.aliases other hother
    · exact Table.mem_names_put.mpr (.inr (h.aliases other hother))

theorem nodup_types_kept : Kept fun c => c.renderers.names.Nodup where
  setFallback _ h := h
  setOwn _ _ h := Table.nodup_put h _ _
  point _ _ h := by rwa [renderers_point]

-- Every alias of a sound catalog is found, because it stands for a type with a renderer.
theorem Sound.supports_iff {c : Catalog} (h : c.Sound) (name : String) : c.supports name = true ↔
    Text.lower name ∈ c.renderers.names ∨ Text.lower name ∈ c.aliases.names := by
  rw [supports, find?_eq_or, Option.isSome_or, Bool.or_eq_true, own?, Table.isSome_find?,
    ← Table.isSome_find? (t := c.aliases)]
  refine or_congr_right ?_
  cases howner : c.ownerOf? name with
  | none =>
      rw [ownerOf?] at howner
      rw [howner]
      rfl
  | some owner =>
      have hmem : owner ∈ c.renderers.names := h.owned _ (Table.mem_of_find? howner)
      rw [ownerOf?] at howner
      rw [howner, Option.bind_some]
      exact iff_of_true (Table.isSome_find?.mpr hmem) rfl

theorem Extends.supports {c d : Catalog} (h : c.Extends d) (hc : c.Sound) (hd : d.Sound) {name : String}
    (hname : c.supports name = true) : d.supports name = true := by
  rw [hd.supports_iff]
  exact ((hc.supports_iff name).mp hname).imp (h.types _) (h.aliases _)

theorem supports_of_mem_types {c : Catalog} (h : c.Sound) {name : String} (hname : name ∈ c.types) :
    c.supports name = true := by
  have hmem := mem_types.mp hname
  rw [h.supports_iff, h.lower_types name hmem]
  exact .inl hmem

-- The fallback is for names that are not supported, and only where there is none are they refused.
section

variable {c : Catalog} {name : String}

theorem resolve_eq_error_iff {e : CatalogError} : c.resolve name = .error e ↔
    c.supports name = false ∧ c.fallback = none ∧ e = .unknownType name c.types := by
  rw [resolve, supports]
  cases c.find? name <;> cases c.fallback <;> simp [eq_comm]

theorem resolve_eq_ok_iff {r : Renderer} : c.resolve name = .ok r ↔
    c.supports name = true ∧ c.find? name = some r ∨ c.supports name = false ∧ c.fallback = some r := by
  rw [resolve, supports]
  cases c.find? name <;> cases c.fallback <;> simp

end

-- After any calls, those that were refused included, every alias stands for a type with a renderer. What
-- is supported then is supported whatever calls come after. A name is refused where it is not supported
-- and there is no fallback; else it has the renderer that it is found with, or the fallback where it is not
-- supported. The types are in strict order, and all of them are supported.
theorem in_order_after_any_calls (fallback : Option Renderer) (calls : List Call) :
    let c := after fallback calls
    (∀ m ∈ c.aliases, (Table.find? c.renderers m.2).isSome = true) ∧
      (∀ name more, c.supports name = true → (after fallback (calls ++ more)).supports name = true) ∧
      (∀ name e, c.resolve name = .error e ↔
        c.supports name = false ∧ c.fallback = none ∧ e = .unknownType name c.types) ∧
      (∀ name r, c.resolve name = .ok r ↔ c.supports name = true ∧ c.find? name = some r ∨
        c.supports name = false ∧ c.fallback = some r) ∧
      c.types.Pairwise (Text.precedes · · = true) ∧ ∀ name ∈ c.types, c.supports name = true := by
  intro c
  have hsound : c.Sound := sound_after fallback calls
  have hnodup : c.renderers.names.Nodup := nodup_types_kept.foldl calls List.nodup_nil
  refine ⟨fun m hm => Table.isSome_find?.mpr (hsound.owned m hm), fun name more hname => ?_,
    fun _ _ => resolve_eq_error_iff, fun _ _ => resolve_eq_ok_iff, Text.sorted_pairwise hnodup,
    fun _ => supports_of_mem_types hsound⟩
  have happend : after fallback (calls ++ more) = more.foldl perform c := List.foldl_append
  have hmore : c.Extends (after fallback (calls ++ more)) := by
    rw [happend]
    exact (extends_kept c).foldl more (.refl c)
  exact hmore.supports hsound (sound_after fallback (calls ++ more)) hname

-- A registration that is refused behind its first alias, and one that takes this alias over.
def refusedRating : Call := .register "Rating" (some .url) ["stars", "TEXT"] false

def takenStars : Call := .register "score" (some .image) ["Stars"] true

def ratedTexts : List Call := [.register "text" (some .text) [] false, refusedRating]

theorem in_order_after_any_calls_of_refusedRating :
    let c := after (some .unsupported) ratedTexts
    c.supports "STARS" = true ∧
      (after (some .unsupported) (ratedTexts ++ [takenStars])).supports "STARS" = true ∧
      c.resolve "rule" = .ok .unsupported := by
  intro c
  have hanswers : c.supports "STARS" = true ∧ c.supports "rule" = false := by decide
  obtain ⟨hstars, hrule⟩ := hanswers
  obtain ⟨-, hstays, -, hok, -, -⟩ := in_order_after_any_calls (some .unsupported) ratedTexts
  exact ⟨hstars, hstays "STARS" [takenStars] hstars, (hok "rule" .unsupported).mpr (.inr ⟨hrule, rfl⟩)⟩

end FieldTemplates.Snippet.Catalog
