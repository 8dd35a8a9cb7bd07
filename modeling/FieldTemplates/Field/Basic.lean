import FieldTemplates.Field.Kind
import FieldTemplates.Value.Basic

namespace FieldTemplates

mutual

structure Layout where
  key : String
  name : String
  label : String
  subFields : List Field
  extra : List (String × Value)

structure Field where
  key : String
  name : String
  label : String
  type : String
  subFields : List Field
  layouts : List Layout
  extra : List (String × Value)

end

structure Group where
  key : String
  title : String
  fields : List Field
  extra : Table Value

namespace Field

def kind? (f : Field) : Option Kind := Kind.ofName? f.type

def isComposite (f : Field) : Bool := f.kind?.any Kind.composite

mutual

-- The field and every field below it: sub-fields first, then the fields of each layout.
def flatten : Field → List Field
  | ⟨key, name, label, type, subFields, layouts, extra⟩ =>
    ⟨key, name, label, type, subFields, layouts, extra⟩ ::
      (flattenAll subFields ++ flattenLayouts layouts)

def flattenAll : List Field → List Field
  | [] => []
  | f :: fs => flatten f ++ flattenAll fs

def flattenLayouts : List Layout → List Field
  | [] => []
  | ⟨_, _, _, subFields, _⟩ :: ls => flattenAll subFields ++ flattenLayouts ls

end

end Field

namespace Group

def flatten (g : Group) : List Field := Field.flattenAll g.fields

-- The first top-level field of that name.
def field? (g : Group) (name : String) : Option Field := g.fields.find? (·.name == name)

end Group

end FieldTemplates
