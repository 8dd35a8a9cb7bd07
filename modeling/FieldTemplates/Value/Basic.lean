import FieldTemplates.Data.Table
import FieldTemplates.Number.Binary64

namespace FieldTemplates

inductive Value where
  | null
  | bool (b : Bool)
  | int (n : Int)
  | real (x : Binary64)
  | text (s : String)
  | list (items : List Value)
  | object (members : List (String × Value))
deriving Inhabited

namespace Value

-- Whether a value says anything: nothing, zero and the empty ones do not.
def truthy : Value → Bool
  | null => false
  | bool b => b
  | int n => n != 0
  | real x => !x.isZero
  | text s => s != ""
  | list items => !items.isEmpty
  | object members => !members.isEmpty

-- The word for the kind of value in messages.
def kind : Value → String
  | null => "NoneType"
  | bool _ => "bool"
  | int _ => "int"
  | real _ => "float"
  | text _ => "str"
  | list _ => "list"
  | object _ => "dict"

-- The member of that name; anything but an object has none.
def member? (v : Value) (name : String) : Option Value :=
  match v with
  | object members => Table.find? members name
  | _ => none

def isNull : Value → Bool
  | null => true
  | _ => false

end Value

end FieldTemplates
