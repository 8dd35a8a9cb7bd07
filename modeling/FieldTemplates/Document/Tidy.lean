import FieldTemplates.Text.Blank
import FieldTemplates.Text.Lines

namespace FieldTemplates.Document

-- `blanks` counts the blank lines just before.
def squeeze (blanks : Nat) : List (List Char) → List (List Char)
  | [] => []
  | l :: ls =>
    let kept := Text.trimRight l
    if kept.isEmpty then
      if blanks < 2 then [] :: squeeze (blanks + 1) ls else squeeze (blanks + 1) ls
    else kept :: squeeze 0 ls

def tidy (cs : List Char) : List Char := Text.unlines (squeeze 0 (Text.lines cs))

end FieldTemplates.Document
