
namespace FieldTemplates.Text

-- What stands before and after the first occurrence of `mark`.
def breakOn (mark : List Char) : List Char → Option (List Char × List Char)
  | [] => if mark.isEmpty then some ([], []) else none
  | c :: cs =>
    if mark.isPrefixOf (c :: cs) then some ([], (c :: cs).drop mark.length)
    else (breakOn mark cs).map fun (before, after) => (c :: before, after)

namespace Fence

def opening : List Char := "```json\n".toList

def closing : List Char := "\n```".toList

-- The first block that is closed, or the whole text where none is.
def content (cs : List Char) : List Char :=
  match breakOn opening cs with
  | none => cs
  | some (_, inside) =>
    match breakOn closing inside with
    | none => cs
    | some (block, _) => block

end Fence

end FieldTemplates.Text
