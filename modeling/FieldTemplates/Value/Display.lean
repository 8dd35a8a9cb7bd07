import FieldTemplates.Value.Basic
import FieldTemplates.Number.Shortest
import FieldTemplates.Text.Quoted

namespace FieldTemplates.Value

def boolText (b : Bool) : String := if b then "True" else "False"

mutual

def literal : Value → String
  | null => "None"
  | bool b => boolText b
  | int n => toString n
  | real x => x.text
  | text s => Text.quoted s
  | list items => "[" ++ ", ".intercalate (literals items) ++ "]"
  | object members => "\x7b" ++ ", ".intercalate (memberLiterals members) ++ "\x7d"

def literals : List Value → List String
  | [] => []
  | v :: vs => literal v :: literals vs

def memberLiterals : List (String × Value) → List String
  | [] => []
  | (name, v) :: ms => (Text.quoted name ++ ": " ++ literal v) :: memberLiterals ms

end

def display : Value → String
  | text s => s
  | v => literal v

end FieldTemplates.Value
