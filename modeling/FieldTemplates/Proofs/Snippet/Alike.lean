import FieldTemplates.Proofs.Snippet.Standard

namespace FieldTemplates

namespace Snippet

-- Accessors that read values the same way, of fields that have a name or have none.
def Accessor.Alike (a b : Accessor) : Prop :=
  a.isSubField = b.isSubField ∧ (a.fieldName = "" ↔ b.fieldName = "")

theorem Accessor.nested_alike {a b : Accessor} {m n : String} (h : m = "" ↔ n = "") :
    (a.nested m).Alike (b.nested n) := by
  have hempty : (m == "") = (n == "") := Bool.eq_iff_iff.mpr (by simpa only [beq_iff_eq] using h)
  exact ⟨by simp only [nested, bne, hempty], h⟩

theorem Accessor.enclosing_alike {a b : Accessor} (h : a.Alike b) :
    a.enclosing = "" ↔ b.enclosing = "" := by
  obtain ⟨hsub, hname⟩ := h
  simp only [enclosing, hsub]
  split
  · exact hname
  · exact Iff.rfl

end Snippet

namespace Field

open Snippet

mutual

-- The same renderer, the same shape below and, where the field holds code of other fields, names
-- that are both empty or both not.
def Alike (c : Catalog) : Field → Field → Prop
  | ⟨_, name, _, type, subFields, layouts, _⟩, g =>
    (∃ r, c.resolve type = .ok r ∧ c.resolve g.type = .ok r ∧
      (r.isLeaf = false → (name = "" ↔ g.name = ""))) ∧
    AlikeAll c subFields g.subFields ∧ AlikeLayouts c layouts g.layouts

def AlikeAll (c : Catalog) : List Field → List Field → Prop
  | [], gs => gs = []
  | f :: fs, gs => ∃ g hs, gs = g :: hs ∧ Alike c f g ∧ AlikeAll c fs hs

def AlikeLayouts (c : Catalog) : List Layout → List Layout → Prop
  | [], ms => ms = []
  | ⟨_, _, _, subFields, _⟩ :: ls, ms =>
    ∃ m ns, ms = m :: ns ∧ AlikeAll c subFields m.subFields ∧ AlikeLayouts c ls ns

end

end Field

namespace Snippet

-- Only renderers, layouts and which fields have a name tell in an outline.
theorem outline_congr (c : Catalog) :
    (∀ f g a b, Field.Alike c f g → a.Alike b → fieldOutline c a f = fieldOutline c b g) ∧
      (∀ fs gs a b, Field.AlikeAll c fs gs → a.Alike b →
        fieldsOutline c a fs = fieldsOutline c b gs) ∧
      (∀ ls ms a b, Field.AlikeLayouts c ls ms → a.Alike b →
        bodyOutlines c a ls = bodyOutlines c b ms) := by
  refine Field.tree_induction ?_ ?_ ?_ ?_ ?_
  · intro key name label type subFields layouts extra hsub hlayouts g a b halike hab
    obtain ⟨key', name', label', type', subFields', layouts', extra'⟩ := g
    obtain ⟨⟨r, hr, hr', hname⟩, hsubs, hlays⟩ := halike
    simp only [fieldOutline, hr, hr']
    cases hleaf : r.isLeaf with
    | true =>
        rw [Renderer.outline_of_isLeaf hleaf, Renderer.outline_of_isLeaf hleaf, hab.1]
    | false =>
        have hnested := Accessor.nested_alike (a := a) (b := b) (hname hleaf)
        have hspliced := Accessor.nested_alike (a := a) (b := b) (Accessor.enclosing_alike hab)
        rw [hab.1, hsub _ _ _ hsubs hnested, hsub _ _ _ hsubs hspliced,
          hlayouts _ _ _ hlays hnested]
  · rintro gs a b rfl hab
    rfl
  · rintro f fs hf hfs gs a b ⟨g, hs, rfl, hfg, hrest⟩ hab
    simp only [fieldsOutline, hf g a b hfg hab, hfs hs a b hrest hab]
  · rintro ms a b rfl hab
    rfl
  · rintro key name label subFields extra ls hsub hlayouts ms a b ⟨m, ns, rfl, hm, hrest⟩ hab
    obtain ⟨key', name', label', subFields', extra'⟩ := m
    simp only [bodyOutlines, hsub _ a b hm hab, hlayouts ns a b hrest hab]

end Snippet

end FieldTemplates
