import FieldTemplates.Host.Cells
import FieldTemplates.Text.Blank
import FieldTemplates.Text.Lines

namespace FieldTemplates.Host

abbrev Line := List Char

-- Where a line stands in its room.
inductive Side where
  -- At the left, without blanks after it.
  | loose
  | left
  | right
  | middle
deriving DecidableEq, Repr

structure Layout where
  side : Side := .loose
  -- Whether a word that is too wide goes on in the next line, or is cut with a mark.
  folds : Bool := true
  -- Whether lines end between words.
  breaks : Bool := true

def tabWidth : Nat := 8

-- The next tab stop after a cell.
def tabStop (cell : Nat) : Nat := (cell / tabWidth + 1) * tabWidth

-- The pieces between tabs, each from its tab stop on.
def joinTabs (start : Nat) : List Line → Line
  | [] => []
  | [p] => p
  | p :: ps =>
    let stop := start + cells p
    p ++ spaces (tabStop stop - stop) ++ joinTabs (tabStop stop) ps

def expandTabs (l : Line) : Line := joinTabs 0 (l.splitOn '\t')

-- Words in turn with blanks: each word takes the blanks after it.
def joinBlanks : List Line → List Line
  | word :: blanks :: runs => (word ++ blanks) :: joinBlanks runs
  | runs => runs

-- The words with the blanks around them; no words in blanks alone.
def wordsOf (l : Line) : List Line :=
  match l.splitBy fun a b => Text.isBlank a == Text.isBlank b with
  | [] => []
  | run :: runs =>
    if run.all Text.isBlank then
      match joinBlanks runs with
      | [] => []
      | word :: words => (run ++ word) :: words
    else joinBlanks (run :: runs)

-- A text cut wherever it fills the room. `used` cells of the first line are taken.
def chop (width used : Nat) : Line → List Line
  | [] => [[]]
  | c :: cs =>
    let fits := used + cellsOf c ≤ width
    match chop width (if fits then used + cellsOf c else cellsOf c) cs with
    | [] => []
    | l :: ls => if fits then (c :: l) :: ls else [] :: (c :: l) :: ls

-- Lines so far, the last one first.
structure Breaker where
  ended : List Line := []
  line : Line := []
  used : Nat := 0
  -- Whether any character came before.
  begun : Bool := false

namespace Breaker

def next (b : Breaker) (word : Line) (used : Nat) : Breaker :=
  { ended := if b.begun then b.line :: b.ended else b.ended, line := word, used,
    begun := b.begun || !word.isEmpty }

def extend (b : Breaker) (word : Line) : Breaker :=
  { b with line := b.line ++ word, used := b.used + cells word, begun := true }

def add (width : Nat) (folds : Bool) (b : Breaker) (word : Line) : Breaker :=
  let size := cells (Text.trimRight word)
  if b.used + size ≤ width then b.extend word
  else if size ≤ width || !folds then b.next word (cells word)
  else (chop width 0 word).foldl (fun b part => b.next part (cells part)) b

def lines (b : Breaker) : List Line := (b.line :: b.ended).reverse

end Breaker

def broken (width : Nat) (folds : Bool) (l : Line) : List Line :=
  match wordsOf l with
  | [] => [l]
  | words => (words.foldl (Breaker.add width folds) {}).lines

-- Blanks at the end of a line that has more than `width` characters are left out as far as they
-- are too many.
def withoutExcess (width : Nat) (l : Line) : Line :=
  l.take (max width (Text.trimRight l).length)

def cut (width : Nat) (folds : Bool) (l : Line) : Line :=
  if cells l ≤ width then l
  else if folds then resized width l
  else resized (width - 1) l ++ ['…']

def placed (width : Nat) (o : Layout) (l : Line) : Line :=
  match o.side with
  | .loose => cut width o.folds l
  | .left => let l := cut width o.folds l; l ++ spaces (width - cells l)
  | .right =>
    let l := cut width o.folds (Text.trimRight l)
    spaces (width - cells l) ++ l
  | .middle =>
    let l := cut width o.folds (Text.trimRight l)
    let l := spaces ((width - cells l) / 2) ++ l
    l ++ spaces (width - cells l)

def wrapLine (width : Nat) (o : Layout) (l : Line) : List Line :=
  let l := expandTabs l
  let ls := if o.breaks then broken width o.folds l else [l]
  ls.map fun l => placed width o (withoutExcess width l)

-- No room, no lines.
def wrap (width : Nat) (o : Layout) (text : List Char) : List Line :=
  if width = 0 then [] else (Text.lines text).flatMap (wrapLine width o)

-- The cells of the widest line. Anything that ends a line does so here.
def widest (text : List Char) : Nat :=
  (text.splitOnP Text.endsLine).foldl (fun n l => max n (cells l)) 0

end FieldTemplates.Host
