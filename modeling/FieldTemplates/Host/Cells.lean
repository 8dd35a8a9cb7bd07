import FieldTemplates.Host.Cells.Table
import FieldTemplates.Text.Printable

namespace FieldTemplates.Host

def cellsOf (c : Char) : Nat :=
  if 0x20 ≤ c.toNat && c.toNat < 0x7F then 1
  else if Text.inRanges hollowRanges c.toNat then 0
  else if Text.inRanges wideRanges c.toNat then 2
  else 1

def cells (cs : List Char) : Nat := cs.foldl (fun n c => n + cellsOf c) 0

def spaces (n : Nat) : List Char := List.replicate n ' '

-- A beginning that fills `size` cells, looked for between two lengths by halving: which characters
-- without a width it takes along depends on the halves. A blank stands for half a wide character.
def beginning (size : Nat) (cs : List Char) : Nat → Nat → Nat → List Char
  | 0, _, _ => []
  | steps + 1, start, stop =>
    let middle := (start + stop) / 2
    let front := cs.take (middle + 1)
    let room := cells front
    if room = size + 1 && (front.getLast?.map cellsOf) == some 2 then front.dropLast ++ [' ']
    else if room = size then front
    else if room > size then beginning size cs steps start middle
    else beginning size cs steps middle stop

-- The text in exactly `size` cells, filled with blanks or cut.
def resized (size : Nat) (cs : List Char) : List Char :=
  if cells cs ≤ size then cs ++ spaces (size - cells cs)
  else if size = 0 then []
  else beginning size cs cs.length 0 cs.length

-- The text in no more than `size` cells.
def cropped (size : Nat) (cs : List Char) : List Char :=
  if cells cs ≤ size then cs else resized size cs

end FieldTemplates.Host
