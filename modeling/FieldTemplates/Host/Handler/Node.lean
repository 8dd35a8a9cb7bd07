
namespace FieldTemplates.Host.Handler

-- Why an expression is no literal.
inductive Refusal where
  | computed
  -- A member of a set or a key of a table that may change.
  | unhashable (type : String)
deriving DecidableEq, Repr

def Refusal.message : Refusal → String
  | computed => "malformed node or string"
  | unhashable type => s!"unhashable type: '{type}'"

inductive Meaning where
  | real
  | imaginary
  | signedReal
  -- Any other value that cannot change.
  | fixed
  | changing (type : String)
  | refused (r : Refusal)
deriving DecidableEq, Repr

namespace Meaning

def computed : Meaning := refused .computed

def firstRefused? (ms : List Meaning) : Option Meaning :=
  ms.find? fun
    | refused _ => true
    | _ => false

def firstChanging? (ms : List Meaning) : Option String :=
  ms.findSome? fun
    | changing type => some type
    | _ => none

def tuple (ms : List Meaning) : Meaning :=
  match firstRefused? ms, firstChanging? ms with
  | some m, _ => m
  | none, some type => changing type
  | none, none => fixed

-- What members of a set, or keys of a table, must be.
def kept (m : Meaning) : Meaning :=
  match m with
  | changing type => refused (.unhashable type)
  | m => m

def set (ms : List Meaning) : Meaning := (firstRefused? (ms.map kept)).getD (changing "set")

def table (ms : List (Meaning × Meaning)) : Meaning :=
  (firstRefused? (ms.flatMap fun (k, v) =>
    match k with
    | refused _ => [k]
    | k => [v, kept k])).getD (changing "dict")

-- A number behind a plus or a minus.
def signed : Meaning → Meaning
  | real => signedReal
  | imaginary => fixed
  | _ => computed

-- Real and imaginary part.
def sum : Meaning → Meaning → Meaning
  | real, imaginary | signedReal, imaginary => fixed
  | _, _ => computed

end Meaning

-- An expression, with what a message calls it.
structure Node where
  label : String
  meaning : Meaning := .computed

end FieldTemplates.Host.Handler
