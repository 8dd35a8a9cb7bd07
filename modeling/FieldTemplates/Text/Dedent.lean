import FieldTemplates.Text.Lines

namespace FieldTemplates.Text

def isIndent (c : Char) : Bool := c == ' ' || c == '\t'

-- A line of spaces and tabs only carries no margin and loses them all.
def clearIndentOnly (line : List Char) : List Char :=
  if line.all isIndent then [] else line

def indentOf (line : List Char) : List Char := line.takeWhile isIndent

def commonStart : List Char → List Char → List Char
  | a :: as, b :: bs => if a = b then a :: commonStart as bs else []
  | _, _ => []

-- The longest indent that starts every non-empty line.
def margin (ls : List (List Char)) : List Char :=
  match (ls.filter (!·.isEmpty)).map indentOf with
  | [] => []
  | i :: is => is.foldl commonStart i

def dropStart (start line : List Char) : List Char :=
  if start.isPrefixOf line then line.drop start.length else line

def dedent (cs : List Char) : List Char :=
  let ls := (lines cs).map clearIndentOnly
  unlines (ls.map (dropStart (margin ls)))

end FieldTemplates.Text
