import FieldTemplates.Text.Lines
import FieldTemplates.Text.Utf8

namespace FieldTemplates.Files

structure Path where
  root : String
  steps : List String
deriving DecidableEq, Repr

namespace Path

def here : Path := ⟨"", []⟩

-- Two slashes at the front, and no third, are a root of their own.
def rootOf : List Char → String
  | '/' :: '/' :: '/' :: _ => "/"
  | '/' :: '/' :: _ => "//"
  | '/' :: _ => "/"
  | _ => ""

def ofText (s : String) : Path :=
  let steps := (Text.pieces '/' s.toList).map String.ofList
  ⟨rootOf s.toList, steps.filter fun step => step ≠ "" ∧ step ≠ "."⟩

def text (p : Path) : String :=
  if p.root = "" ∧ p.steps = [] then "." else p.root ++ "/".intercalate p.steps

def child (p : Path) (name : String) : Path := ⟨p.root, p.steps ++ [name]⟩

def name (p : Path) : String := p.steps.getLast?.getD ""

-- The last dot of the name and what follows it, unless the dot stands at an end of the name.
def suffix (p : Path) : String :=
  let cs := p.name.toList
  let after := (cs.reverse.takeWhile (· != '.')).reverse
  if after.isEmpty || cs.length ≤ after.length + 1 then "" else String.ofList ('.' :: after)

-- Without the steps that `..` takes back, as the names alone tell. Nothing lies above a root.
def collapse (p : Path) : Path :=
  ⟨p.root, p.steps.foldl (fun before step =>
    if step ≠ ".." then before ++ [step]
    else match before.getLast? with
      | none => if p.root = "" then [".."] else []
      | some ".." => before ++ [".."]
      | some _ => before.dropLast) []⟩

-- Why the system cannot be asked about a path at all.
inductive Fault where
  | unencodable (e : Text.Utf8.EncodeError)
  | nullCharacter
deriving DecidableEq, Repr

def Fault.message : Fault → String
  | .unencodable e => e.message
  | .nullCharacter => "embedded null byte"

-- The bytes that the system knows a path by.
def bytes (p : Path) : Except Fault (List UInt8) := do
  let bytes ← (Text.Utf8.encodeName p.text.toList).mapError .unencodable
  if bytes.contains 0 then .error .nullCharacter else .ok bytes

end Path

end FieldTemplates.Files
