import FieldTemplates.Field.Basic
import FieldTemplates.Value.Display

namespace FieldTemplates

-- Nothing is the empty text.
def Value.asText : Value → String
  | null => ""
  | v => v.display

def textIn (members : Table Value) (name : String) : String :=
  ((Table.find? members name).getD .null).asText

-- The label, or the name where the label is empty.
def labelIn (members : Table Value) : String :=
  let label := textIn members "label"
  if label = "" then textIn members "name" else label

def fieldMembers : List String := ["key", "name", "label", "type", "sub_fields", "layouts"]

def layoutMembers : List String := ["key", "name", "label", "sub_fields"]

def groupMembers : List String := ["key", "title", "fields"]

def Field.ofParts (members : Table Value) (subFields : List Field) (layouts : List Layout) :
    Field where
  key := textIn members "key"
  name := textIn members "name"
  label := labelIn members
  type := textIn members "type"
  subFields := subFields
  layouts := layouts
  extra := Table.without members fieldMembers

-- A layout without a key takes the fallback.
def Layout.ofParts (fallback : String) (members : Table Value) (subFields : List Field) :
    Layout where
  key := let key := textIn members "key"; if key = "" then fallback else key
  name := textIn members "name"
  label := labelIn members
  subFields := subFields
  extra := Table.without members layoutMembers

mutual

def subFieldsIn : List (String × Value) → List Field
  | [] => []
  | (name, v) :: ms => if name = "sub_fields" then fieldsOf v else subFieldsIn ms

def layoutsIn : List (String × Value) → List Layout
  | [] => []
  | (name, v) :: ms => if name = "layouts" then layoutsOf v else layoutsIn ms

def fieldsOf : Value → List Field
  | .list items => fieldsOfItems items
  | _ => []

-- Items that are no objects are passed over.
def fieldsOfItems : List Value → List Field
  | [] => []
  | .object members :: vs =>
    Field.ofParts members (subFieldsIn members) (layoutsIn members) :: fieldsOfItems vs
  | _ :: vs => fieldsOfItems vs

-- A list of layouts, or a mapping from layout keys to layouts.
def layoutsOf : Value → List Layout
  | .list items => layoutsOfItems items
  | .object members => layoutsOfMembers members
  | _ => []

def layoutsOfItems : List Value → List Layout
  | [] => []
  | .object members :: vs => Layout.ofParts "" members (subFieldsIn members) :: layoutsOfItems vs
  | _ :: vs => layoutsOfItems vs

def layoutsOfMembers : List (String × Value) → List Layout
  | [] => []
  | (name, .object members) :: ms =>
    Layout.ofParts name members (subFieldsIn members) :: layoutsOfMembers ms
  | _ :: ms => layoutsOfMembers ms

end

def Field.ofMembers (members : Table Value) : Field :=
  Field.ofParts members (subFieldsIn members) (layoutsIn members)

def Layout.ofMembers (members : Table Value) (fallback : String) : Layout :=
  Layout.ofParts fallback members (subFieldsIn members)

def Group.ofMembers (members : Table Value) : Group where
  key := textIn members "key"
  title := textIn members "title"
  fields := fieldsOf ((Table.find? members "fields").getD .null)
  extra := Table.without members groupMembers

end FieldTemplates
