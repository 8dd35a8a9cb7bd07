import FieldTemplates.Value.Basic
import FieldTemplates.Number.Shortest
import FieldTemplates.Text.Quoted

namespace FieldTemplates.Json

def escapeChar (c : Char) : List Char :=
  match c with
  | '"' => ['\\', '"']
  | '\\' => ['\\', '\\']
  | '\n' => ['\\', 'n']
  | '\r' => ['\\', 'r']
  | '\t' => ['\\', 't']
  | '\x08' => ['\\', 'b']
  | '\x0c' => ['\\', 'f']
  | c => if c.toNat < 0x20 then '\\' :: 'u' :: Text.hexDigits 4 c.toNat else [c]

def string (s : String) : String :=
  String.ofList ('"' :: s.toList.flatMap escapeChar ++ ['"'])

def real : Binary64 → String
  | .nan => "NaN"
  | .infinite s => Binary64.signText s ++ "Infinity"
  | x => x.text

-- How the parts of a list or object are set: what stands after the opening bracket and before the
-- closing one at a given depth, and between two parts.
structure Spacing where
  opening : Nat → String
  closing : Nat → String
  between : Nat → String

def onOneLine : Spacing := ⟨fun _ => "", fun _ => "", fun _ => ", "⟩

def newline (depth : Nat) : String := String.ofList ('\n' :: List.replicate (2 * depth) ' ')

-- One part a line, two spaces for each depth.
def onManyLines : Spacing :=
  ⟨fun d => newline (d + 1), fun d => newline d, fun d => "," ++ newline (d + 1)⟩

def enclose (sp : Spacing) (depth : Nat) (first last : String) : List String → String
  | [] => first ++ last
  | parts =>
    first ++ sp.opening depth ++ (sp.between depth).intercalate parts ++ sp.closing depth ++ last

mutual

def encodeAt (sp : Spacing) (depth : Nat) : Value → String
  | .null => "null"
  | .bool b => if b then "true" else "false"
  | .int n => toString n
  | .real x => real x
  | .text s => string s
  | .list items => enclose sp depth "[" "]" (encodeItems sp (depth + 1) items)
  | .object members => enclose sp depth "\x7b" "\x7d" (encodeMembers sp (depth + 1) members)

def encodeItems (sp : Spacing) (depth : Nat) : List Value → List String
  | [] => []
  | v :: vs => encodeAt sp depth v :: encodeItems sp depth vs

def encodeMembers (sp : Spacing) (depth : Nat) : List (String × Value) → List String
  | [] => []
  | (name, v) :: ms => (string name ++ ": " ++ encodeAt sp depth v) :: encodeMembers sp depth ms

end

def encode (v : Value) : String := encodeAt onOneLine 0 v

def encodePretty (v : Value) : String := encodeAt onManyLines 0 v

end FieldTemplates.Json
