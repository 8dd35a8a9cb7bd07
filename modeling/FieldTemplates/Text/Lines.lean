
namespace FieldTemplates.Text

-- The pieces between the occurrences of `sep`: one more than there are occurrences.
def pieces (sep : Char) : List Char → List (List Char)
  | [] => [[]]
  | c :: cs =>
    if c = sep then [] :: pieces sep cs
    else match pieces sep cs with
      | [] => [[c]]
      | p :: ps => (c :: p) :: ps

def glue (sep : Char) : List (List Char) → List Char
  | [] => []
  | [p] => p
  | p :: q :: ps => p ++ sep :: glue sep (q :: ps)

-- Lines in the narrow sense: only a line feed ends one, and what follows the last is a line too.
def lines (cs : List Char) : List (List Char) := pieces '\n' cs

def unlines (ls : List (List Char)) : List Char := glue '\n' ls

-- A carriage return, alone or before a line feed, becomes a line feed.
def plainNewlines : List Char → List Char
  | [] => []
  | '\r' :: '\n' :: cs => '\n' :: plainNewlines cs
  | '\r' :: cs => '\n' :: plainNewlines cs
  | c :: cs => c :: plainNewlines cs

-- Every character that Unicode lets end a line, and the file, group and record separators.
def endsLine (c : Char) : Bool :=
  let n := c.toNat
  (10 ≤ n && n ≤ 13) || (0x1C ≤ n && n ≤ 0x1E) || n == 0x85 || n == 0x2028 || n == 0x2029

-- What stands before the first line end in the wide sense.
def firstLine (cs : List Char) : List Char := cs.takeWhile (!endsLine ·)

end FieldTemplates.Text
