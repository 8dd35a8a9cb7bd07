import FieldTemplates.Field.Decode

namespace FieldTemplates.Export

inductive Problem where
  | noDocument
  | empty
  | noObject (index : Nat)
  | missing (index : Nat) (names : List String)
  | fieldsNoList (key : Value)

def Problem.message : Problem → String
  | .noDocument => "JSON must be an array or object representing ACF field groups"
  | .empty => "JSON is empty"
  | .noObject i => s!"Field group #{i} is not an object"
  | .missing i names => s!"Field group #{i}: missing " ++ " and ".intercalate names
  | .fieldsNoList key => s!"Field group '{key.display}': 'fields' must be a list"

-- Why a document is refused; never without a problem when `load` reports it.
structure Invalid where
  problems : List Problem

def Invalid.message (e : Invalid) : String :=
  "Invalid schema: " ++ "; ".intercalate (e.problems.map Problem.message)

-- An object with a key is a group itself; any other collection holds the candidates.
def candidates : Value → List Value
  | .object members => if Table.has members "key" then [.object members] else Table.values members
  | .list items => items
  | v => [v]

-- The first problem of a candidate; the others are not looked for.
def problem? (index : Nat) : Value → Option Problem
  | .object members =>
    let missing := ["key", "title"].filter fun name =>
      !((Table.find? members name).any Value.truthy)
    if missing.isEmpty then
      match Table.find? members "fields" with
      | none | some (.list _) => none
      | some _ => some (.fieldsNoList ((Table.find? members "key").getD .null))
    else some (.missing index missing)
  | _ => some (.noObject index)

def problemsFrom (index : Nat) : List Value → List Problem
  | [] => []
  | v :: vs => (problem? index v).toList ++ problemsFrom (index + 1) vs

def isDocument : Value → Bool
  | .list _ | .object _ => true
  | _ => false

def problems (v : Value) : List Problem :=
  if !isDocument v then [.noDocument]
  else match candidates v with
    | [] => [.empty]
    | vs => problemsFrom 0 vs

def groupOf : Value → Group
  | .object members => Group.ofMembers members
  | _ => Group.ofMembers []

def load (v : Value) : Except Invalid (List Group) :=
  match problems v with
  | [] => .ok ((candidates v).map groupOf)
  | ps => .error ⟨ps⟩

end FieldTemplates.Export
