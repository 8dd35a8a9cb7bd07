import FieldTemplates.Field.Basic
import FieldTemplates.Snippet.Accessor
import FieldTemplates.Text.LowerCase

namespace FieldTemplates

-- A field in a tree and the fields around it, from the nearest out.
structure Spot where
  field : Field
  around : List Field

namespace Field

def isClone (f : Field) : Bool := Text.lower f.type == "clone"

-- The name of the nearest field that is no clone; the empty name where there is none.
def ownerName (around : List Field) : String :=
  ((around.find? (!·.isClone)).map name).getD ""

theorem ownerName_cons_of_clone {f : Field} (h : f.isClone = true) (around : List Field) :
    ownerName (f :: around) = ownerName around := by
  simp only [ownerName, List.find?_cons, h, Bool.not_true]

theorem ownerName_cons {f : Field} (h : f.isClone = false) (around : List Field) :
    ownerName (f :: around) = f.name := by
  simp only [ownerName, List.find?_cons, h, Bool.not_false, Option.map_some, Option.getD_some]

mutual

-- The fields that have code of their own, in the order of their code, each with the fields around it.
-- Only rows, groups and clones show their sub-fields, only flexible fields those of their layouts.
def spots (around : List Field) : Field → List Spot
  | ⟨key, name, label, type, subFields, layouts, extra⟩ =>
    let f : Field := ⟨key, name, label, type, subFields, layouts, extra⟩
    ⟨f, around⟩ ::
      if Text.lower type ∈ ["repeater", "group", "clone"] then spotsAll (f :: around) subFields
      else if Text.lower type = "flexible_content" then spotsIn (f :: around) layouts
      else []

def spotsAll (around : List Field) : List Field → List Spot
  | [] => []
  | f :: fs => spots around f ++ spotsAll around fs

def spotsIn (around : List Field) : List Layout → List Spot
  | [] => []
  | ⟨_, _, _, subFields, _⟩ :: ls => spotsAll around subFields ++ spotsIn around ls

end

end Field

-- The name of the field whose rows the field at a spot is read from; empty where it is read from the page.
def Spot.owner (p : Spot) : String := Field.ownerName p.around

namespace Snippet

-- How values are read inside these fields, in a group with that key.
def Accessor.inside (groupKey : String) (around : List Field) : Accessor where
  isSubField := Field.ownerName around != ""
  fieldName := Field.ownerName around
  groupKey := groupKey

namespace Accessor

variable (k : String) (around : List Field)

theorem nested_inside {f : Field} (h : f.isClone = false) :
    (inside k around).nested f.name = inside k (f :: around) := by
  simp only [nested, inside, Field.ownerName_cons h]

theorem enclosing_nested (a : Accessor) (parent : String) : (a.nested parent).enclosing = parent := by
  by_cases hempty : parent = ""
  · simp [nested, enclosing, hempty]
  · simp [nested, enclosing, hempty]

-- A clone hands on what it is handed.
theorem nested_enclosing_inside {f : Field} (h : f.isClone = true) :
    (inside k around).nested (inside k around).enclosing = inside k (f :: around) := by
  have hname : (inside k around).enclosing = Field.ownerName around :=
    enclosing_nested { groupKey := k } (Field.ownerName around)
  rw [hname]
  simp only [nested, inside, Field.ownerName_cons_of_clone h]

end Accessor

end Snippet

end FieldTemplates
