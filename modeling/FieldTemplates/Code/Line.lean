import FieldTemplates.Text.Dedent
import FieldTemplates.Text.Repeat

namespace FieldTemplates.Code

structure Line where
  level : Int
  content : List Char
deriving DecidableEq, Repr

-- `count` units; none for a negative count.
def indent (unit : List Char) (count : Int) : List Char := Text.repeated count unit

-- An empty line carries no indentation.
def Line.text (unit : List Char) (l : Line) : List Char :=
  if l.content.isEmpty then ['\n'] else indent unit l.level ++ l.content ++ ['\n']

def text (unit : List Char) (ls : List Line) : List Char := ls.flatMap (Line.text unit)

-- Why a line has no text.
def Line.error? (unit : List Char) (l : Line) : Option Text.RepeatError :=
  if l.content.isEmpty then none else Text.repeatError? unit.length l.level

-- The text of lines that all have one.
def text? (unit : List Char) (ls : List Line) : Except Text.RepeatError (List Char) :=
  match ls.findSome? (Line.error? unit) with
  | some e => .error e
  | none => .ok (text unit ls)

def Line.raise (levels : Int) (l : Line) : Line := { l with level := l.level + levels }

def blank : Line := ⟨0, []⟩

def dropBreaks (cs : List Char) : List Char := cs.dropWhile (· == '\n')

-- Without the line feeds at both ends.
def trimBreaks (cs : List Char) : List Char := (dropBreaks (dropBreaks cs).reverse).reverse

-- Every four spaces at the front of a line are one level.
def blockLine (depth : Int) (row : List Char) : Line :=
  let content := row.dropWhile (· == ' ')
  ⟨depth + ((row.length - content.length) / 4 : Nat), content⟩

-- The lines of a text written with a margin of its own.
def block (depth : Int) (cs : List Char) : List Line :=
  (Text.lines (trimBreaks (Text.dedent cs))).map (blockLine depth)

end FieldTemplates.Code
