import FieldTemplates.Field.Basic

namespace FieldTemplates

mutual

def Field.toValue : Field → Value
  | ⟨key, name, label, type, subFields, layouts, extra⟩ =>
    let own : Table Value := Table.merge extra
      [("key", .text key), ("label", .text label), ("name", .text name), ("type", .text type)]
    let own := if subFields.isEmpty then own
      else own.put "sub_fields" (.list (fieldValues subFields))
    .object (if layouts.isEmpty then own else own.put "layouts" (.list (layoutValues layouts)))

def fieldValues : List Field → List Value
  | [] => []
  | f :: fs => f.toValue :: fieldValues fs

def layoutValues : List Layout → List Value
  | [] => []
  | ⟨key, name, label, subFields, extra⟩ :: ls =>
    .object (Table.merge extra [("key", .text key), ("name", .text name), ("label", .text label),
      ("sub_fields", .list (fieldValues subFields))]) :: layoutValues ls

end

def Layout.toValue (l : Layout) : Value :=
  .object (Table.merge l.extra [("key", .text l.key), ("name", .text l.name),
    ("label", .text l.label), ("sub_fields", .list (fieldValues l.subFields))])

def Group.toValue (g : Group) : Value :=
  .object (Table.merge [("key", .text g.key), ("title", .text g.title),
    ("fields", .list (fieldValues g.fields))] g.extra)

end FieldTemplates
