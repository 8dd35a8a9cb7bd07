import FieldTemplates.Code.Line

namespace FieldTemplates.Code

inductive Chunk where
  | line (l : Line)
  | verbatim (text : List Char)
deriving DecidableEq, Repr

structure Buffer where
  unit : List Char := "    ".toList
  depth : Int := 0
  chunks : List Chunk := []

namespace Buffer

def push (b : Buffer) (added : List Chunk) : Buffer := { b with chunks := b.chunks ++ added }

def line (b : Buffer) (content : List Char) (offset : Int) : Buffer :=
  b.push [.line ⟨b.depth + offset, content⟩]

def lines (b : Buffer) (contents : List (List Char)) : Buffer :=
  b.push (contents.map fun c => .line ⟨b.depth, c⟩)

def block (b : Buffer) (cs : List Char) : Buffer := b.push ((Code.block b.depth cs).map .line)

def blank (b : Buffer) : Buffer := b.push [.line Code.blank]

-- Empty text leaves no chunk.
def verbatim (b : Buffer) (cs : List Char) : Buffer :=
  if cs.isEmpty then b else b.push [.verbatim cs]

def deepen (b : Buffer) (levels : Int) : Buffer := { b with depth := b.depth + levels }

def size (b : Buffer) : Nat := b.chunks.length

-- Why the first line without a text has none.
def error? (b : Buffer) : Option Text.RepeatError :=
  b.chunks.findSome? fun
    | .line l => l.error? b.unit
    | .verbatim _ => none

def text (b : Buffer) : List Char :=
  b.chunks.flatMap fun
    | .line l => l.text b.unit
    | .verbatim cs => cs

end Buffer

end FieldTemplates.Code
