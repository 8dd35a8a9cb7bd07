import FieldTemplates.Field.Basic

namespace FieldTemplates

-- One induction for fields, lists of fields and lists of layouts, with a case for each way in which
-- the functions on trees descend.
theorem Field.tree_induction {P : Field → Prop} {Q : List Field → Prop} {R : List Layout → Prop}
    (field : ∀ key name label type subFields layouts extra, Q subFields → R layouts →
      P ⟨key, name, label, type, subFields, layouts, extra⟩)
    (nil : Q []) (cons : ∀ f fs, P f → Q fs → Q (f :: fs))
    (noLayout : R []) (layout : ∀ key name label subFields extra ls, Q subFields → R ls →
      R (⟨key, name, label, subFields, extra⟩ :: ls)) :
    (∀ f, P f) ∧ (∀ fs, Q fs) ∧ (∀ ls, R ls) := by
  have hlayout : ∀ l ls, Q l.subFields → R ls → R (l :: ls) := by
    rintro ⟨key, name, label, subFields, extra⟩ ls hs hl
    exact layout key name label subFields extra ls hs hl
  refine ⟨?_, ?_, ?_⟩
  · exact @Field.rec (fun l => Q l.subFields) P Q R (fun _ _ _ _ _ h => h) field nil cons
      noLayout hlayout
  · exact @Layout.rec_1 (fun l => Q l.subFields) P Q R (fun _ _ _ _ _ h => h) field nil cons
      noLayout hlayout
  · exact @Layout.rec_2 (fun l => Q l.subFields) P Q R (fun _ _ _ _ _ h => h) field nil cons
      noLayout hlayout

namespace Field

mutual

-- Everything but the keys.
def unkeyed : Field → Field
  | ⟨_, name, label, type, subFields, layouts, extra⟩ =>
    ⟨"", name, label, type, unkeyedAll subFields, unkeyedLayouts layouts, extra⟩

def unkeyedAll : List Field → List Field
  | [] => []
  | f :: fs => unkeyed f :: unkeyedAll fs

def unkeyedLayouts : List Layout → List Layout
  | [] => []
  | ⟨_, name, label, subFields, extra⟩ :: ls =>
    ⟨"", name, label, unkeyedAll subFields, extra⟩ :: unkeyedLayouts ls

end

mutual

-- The layouts anywhere in a tree.
def layoutCount : Field → Nat
  | ⟨_, _, _, _, subFields, layouts, _⟩ => layoutCountAll subFields + layoutCountIn layouts

def layoutCountAll : List Field → Nat
  | [] => 0
  | f :: fs => layoutCount f + layoutCountAll fs

def layoutCountIn : List Layout → Nat
  | [] => 0
  | ⟨_, _, _, subFields, _⟩ :: ls => 1 + layoutCountAll subFields + layoutCountIn ls

end

-- Names and types do not depend on keys.
theorem flatten_unkeyed :
    (∀ f : Field, f.unkeyed.flatten.map (fun g => (g.type, g.name)) =
        f.flatten.map fun g => (g.type, g.name)) ∧
      (∀ fs, (flattenAll (unkeyedAll fs)).map (fun g => (g.type, g.name)) =
        (flattenAll fs).map fun g => (g.type, g.name)) ∧
      (∀ ls, (flattenLayouts (unkeyedLayouts ls)).map (fun g => (g.type, g.name)) =
        (flattenLayouts ls).map fun g => (g.type, g.name)) := by
  refine tree_induction ?_ ?_ ?_ ?_ ?_
  · intro key name label type subFields layouts extra hsub hlayouts
    simp only [unkeyed, flatten, List.map_cons, List.map_append, hsub, hlayouts]
  · rfl
  · intro f fs hf hfs
    simp only [unkeyedAll, flattenAll, List.map_append, hf, hfs]
  · rfl
  · intro key name label subFields extra ls hsub hlayouts
    simp only [unkeyedLayouts, flattenLayouts, List.map_append, hsub, hlayouts]

theorem length_flatten_unkeyed (fs : List Field) :
    (flattenAll (unkeyedAll fs)).length = (flattenAll fs).length := by
  have hlength := congrArg List.length (flatten_unkeyed.2.1 fs)
  rwa [List.length_map, List.length_map] at hlength

end Field

def Group.unkeyed (g : Group) : Group :=
  { g with key := "", fields := Field.unkeyedAll g.fields }

end FieldTemplates
