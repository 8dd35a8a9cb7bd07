import FieldTemplates.Proofs.Snippet.Catalog.Register
import FieldTemplates.Proofs.Text.LowerCase

namespace FieldTemplates.Snippet.Catalog

-- A change of a catalog; a registration may be refused and leaves then what it leaves.
inductive Call where
  | register (type : String) (r : Option Renderer) (aliases : List String) (replace : Bool)
  | setFallback (r : Renderer)
  | addStandard (replace : Bool)

def perform (c : Catalog) : Call → Catalog
  | .register type r aliases replace => (c.register type r aliases replace).1
  | .setFallback r => c.setFallback r
  | .addStandard replace => (c.addStandard replace).1

-- The catalog after calls, one after another, on an empty one.
def after (fallback : Option Renderer) (calls : List Call) : Catalog :=
  calls.foldl perform { fallback }

structure Sound (c : Catalog) : Prop where
  lower_types : ∀ name ∈ c.renderers.names, Text.lower name = name
  lower_aliases : ∀ name ∈ c.aliases.names, Text.lower name = name
  nodup_aliases : c.aliases.names.Nodup
  owned : ∀ m ∈ c.aliases, m.2 ∈ c.renderers.names

theorem sound_empty (fallback : Option Renderer) : Sound { fallback } :=
  ⟨fun _ h => absurd h List.not_mem_nil, fun _ h => absurd h List.not_mem_nil, List.nodup_nil,
    fun _ h => absurd h List.not_mem_nil⟩

-- What every single change of a catalog keeps: a new fallback, a renderer for a type, and a name that is to
-- stand for a type with a renderer.
structure Kept (P : Catalog → Prop) : Prop where
  setFallback : ∀ {c} (r : Renderer), P c → P (c.setFallback r)
  setOwn : ∀ {c} (type : String) (r : Renderer), P c → P (c.setOwn (Text.lower type) r)
  point : ∀ {c type} (name : String), type ∈ c.renderers.names → P c → P (c.point type name)

-- A call is a row of single changes, also one that is refused halfway, and so is a history.
namespace Kept

variable {P : Catalog → Prop} (h : Kept P) {c : Catalog}
include h

theorem pointAll {type : String} (htype : type ∈ c.renderers.names) (names : List String) (hc : P c) :
    P (c.pointAll type names) := by
  induction names generalizing c with
  | nil => exact hc
  | cons name names ih =>
      rw [pointAll_cons]
      exact ih (by rwa [renderers_point]) (h.point name htype hc)

theorem registered (type : String) (r : Renderer) (names : List String) (hc : P c) :
    P (c.registered type r names) := by
  have htype : Text.lower type ∈ (c.setOwn (Text.lower type) r).renderers.names :=
    Table.mem_names_put.mpr (.inl rfl)
  exact h.pointAll htype names (h.setOwn type r hc)

theorem register (type : String) (r : Option Renderer) (aliases : List String) (replace : Bool)
    (hc : P c) : P (c.register type r aliases replace).1 := by
  have hends := register_ends c type r aliases replace
  generalize c.register type r aliases replace = result at hends ⊢
  cases hends with
  | notCallable => exact hc
  | kept => exact hc
  | done => exact h.registered type _ aliases hc
  | refused => exact h.registered type _ _ hc

theorem addStandard (replace : Bool) (hc : P c) : P (c.addStandard replace).1 := by
  have hall : P (c.registerAll replace standardRenderers).1 :=
    registerAll_kept (fun _ hd p _ => h.register p.1.name (some p.2.1) (p.2.2.map Kind.name) replace hd) hc
  rcases c.addStandard_fst replace with hend | hend
  · rw [hend]
    exact hall
  · rw [hend]
    exact h.setFallback _ hall

theorem perform (call : Call) (hc : P c) : P (c.perform call) := by
  cases call with
  | register type r aliases replace => exact h.register type r aliases replace hc
  | setFallback r => exact h.setFallback r hc
  | addStandard replace => exact h.addStandard replace hc

theorem foldl (calls : List Call) (hc : P c) : P (calls.foldl Catalog.perform c) := by
  induction calls generalizing c with
  | nil => exact hc
  | cons call calls ih => exact ih (h.perform call hc)

end Kept

theorem sound_kept : Kept Sound where
  setFallback _ h := ⟨h.lower_types, h.lower_aliases, h.nodup_aliases, h.owned⟩
  setOwn type r h := by
    refine ⟨fun name hname => ?_, h.lower_aliases, h.nodup_aliases, fun m hm => ?_⟩
    · rcases Table.mem_names_put.mp hname with rfl | hname
      · exact Text.lower_lower type
      · exact h.lower_types name hname
    · exact Table.mem_names_put.mpr (.inr (h.owned m hm))
  point {c type} name htype h := by
    by_cases hself : Text.lower name = type
    · rw [Catalog.point, if_pos hself]
      exact h
    · rw [Catalog.point, if_neg hself]
      refine ⟨h.lower_types, fun other hother => ?_, Table.nodup_put h.nodup_aliases _ _, fun m hm => ?_⟩
      · rcases Table.mem_names_put.mp hother with rfl | hother
        · exact Text.lower_lower name
        · exact h.lower_aliases other hother
      · rcases Table.mem_put hm with rfl | hm
        · exact htype
        · exact h.owned m hm

theorem sound_after (fallback : Option Renderer) (calls : List Call) : (after fallback calls).Sound :=
  sound_kept.foldl calls (sound_empty fallback)

end FieldTemplates.Snippet.Catalog
