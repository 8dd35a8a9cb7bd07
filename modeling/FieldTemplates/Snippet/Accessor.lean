import FieldTemplates.Php.Quoted

namespace FieldTemplates.Snippet

-- `fieldName` names the field whose rows are read.
structure Accessor where
  isSubField : Bool := false
  fieldName : String := ""
  groupKey : String := ""
deriving DecidableEq, Repr

namespace Accessor

-- The expression for the value of a field.
def value (a : Accessor) (name : String) : List Char :=
  (if a.isSubField then "get_sub_field" else "get_field").toList ++
    "('".toList ++ Php.quoted name.toList ++ "')".toList

-- Inside the rows of a field; a field without a name has no rows of its own.
def nested (a : Accessor) (parent : String) : Accessor :=
  { a with isSubField := parent != "", fieldName := parent }

-- The field whose rows are read, or the empty name at the top.
def enclosing (a : Accessor) : String := if a.isSubField then a.fieldName else ""

end Accessor

end FieldTemplates.Snippet
