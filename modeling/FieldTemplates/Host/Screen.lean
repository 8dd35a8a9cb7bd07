import FieldTemplates.Command.Screen
import FieldTemplates.Host.Markup
import FieldTemplates.Host.Wrap

namespace FieldTemplates.Host

open Command (Channel Column Frame Grid Panel Screen ScreenError)

-- What stands before, between and after the cells of a line.
structure Bars where
  first : Line
  between : Line
  last : Line

def Bars.line (b : Bars) (cells : List Line) : Line :=
  b.first ++ b.between.intercalate cells ++ b.last

def upright : Bars := ⟨['│'], ['│'], ['│']⟩

def noBars : Bars := ⟨[' '], [' '], [' ']⟩

def barsOf : Frame → Bars
  | .rounded => upright
  | .ruled => noBars

-- The cells of one column, the heading first, as plain text.
structure Contents where
  column : Column
  cells : List (List Char)

-- One blank on either side of a cell.
def margin : Nat := 2

def Contents.size (c : Contents) : Nat := (c.cells.map widest).foldl max 0 + margin

def total (ns : List Nat) : Nat := ns.foldl (fun m n => m + n) 0

-- Columns that may become narrower, with their widths.
abbrev Widths := List (Bool × Nat)

def Widths.total (ws : Widths) : Nat := Host.total (ws.map (·.2))

-- `n / d` rounded, halves to the even neighbour.
def rounded (n d : Nat) : Nat :=
  let q := n / d
  if n % d * 2 < d || (n % d * 2 = d && q % 2 = 0) then q else q + 1

-- Takes `excess` away from `shares` columns, in even parts but no more than `most` from each.
def reduce (most : Nat → Nat) (takes : Bool × Nat → Bool) : Nat → Nat → Widths → Widths
  | _, _, [] => []
  | excess, shares, w :: ws =>
    if takes w then
      let part := min (most w.2) (rounded excess shares)
      (w.1, w.2 - part) :: reduce most takes (excess - part) (shares - 1) ws
    else w :: reduce most takes excess shares ws

def reduced (most : Nat → Nat) (takes : Bool × Nat → Bool) (excess : Nat) (ws : Widths) : Widths :=
  reduce most takes excess (ws.countP takes) ws

-- The widest columns shrink to the next width, again and again, until the table fits. Every step
-- takes away one cell at least.
def collapse (room : Nat) : Nat → Widths → Widths
  | 0, ws => ws
  | steps + 1, ws =>
    let excess := ws.total - room
    let sizes := (ws.filter (·.1)).map (·.2)
    let top := sizes.foldl max 0
    let next := (sizes.filter (· != top)).foldl max 0
    if excess = 0 || top = next then ws
    else
      collapse room steps
        (reduced (fun _ => min excess (top - next)) (fun w => w.1 && w.2 = top) excess ws)

-- What is left over is taken from all columns.
def squeeze (room : Nat) (ws : Widths) : Widths :=
  let ws := collapse room (ws.total - room) ws
  reduced (fun w => w) (fun w => w.2 != 0) (ws.total - room) ws

-- The widths of the columns in so much room.
def widths (room : Nat) (cs : List Contents) : List Nat :=
  let ws := cs.map fun c => (!c.column.stiff, max 1 (min room c.size))
  if Widths.total ws ≤ room then ws.map (·.2)
  else ((squeeze room ws).zip cs).map fun (w, c) => min w.2 c.size

def layoutOf (c : Column) : Layout :=
  ⟨if c.right then .right else .left, false, !c.stiff⟩

def cellLines (c : Column) (width : Nat) (text : List Char) : List Line :=
  (wrap (width - margin) (layoutOf c) text).map fun l => ' ' :: resized (width - margin) l ++ [' ']

-- Cells of one row, side by side, each with its width. The headings stand on a common last line.
def rowLines (bars : Bars) (heading : Bool) (row : List (Nat × List Line)) : List Line :=
  let height := max 1 ((row.map (·.2.length)).foldl max 0)
  let full := row.map fun (n, ls) =>
    let blanks := List.replicate (height - ls.length) (spaces n)
    if heading then blanks ++ ls else ls ++ blanks
  (List.range height).map fun i => bars.line (full.map (·.getD i []))

def rule (bars : Bars) (widths : List Nat) : Line :=
  bars.line (widths.map fun n => List.replicate n '─')

def contentsOf (g : Grid) : Except Markup.Error (List Contents) :=
  (g.columns.zipIdx).mapM fun (c, i) => do
    .ok ⟨c, ← (c.heading :: g.rows.map (·.getD i "")).mapM Markup.plain⟩

def gridLines (g : Grid) (columns : Nat) : Except Markup.Error (List Line) := do
  let cs ← contentsOf g
  let edges := cs.length + 1
  let ws := widths (columns - edges) cs
  let title ← Markup.plain g.title
  let bars := barsOf g.frame
  let row (i : Nat) : List Line :=
    rowLines bars (i = 0) ((cs.zip ws).map fun (c, w) =>
      (w, cellLines c.column w (c.cells.getD i [])))
  let body := (List.range g.rows.length).flatMap fun i => row (i + 1)
  .ok (wrap (total ws + edges) ⟨.middle, true, true⟩ title ++ match g.frame with
    | .rounded =>
      rule ⟨['╭'], ['┬'], ['╮']⟩ ws :: row 0 ++ rule ⟨['├'], ['┼'], ['┤']⟩ ws :: body ++
        [rule ⟨['╰'], ['┴'], ['╯']⟩ ws]
    | .ruled =>
      let empty := spaces (total ws + edges)
      empty :: row 0 ++ rule ⟨[' '], ['─'], [' ']⟩ ws :: body ++ [empty])

def edge (n : Nat) : Line := List.replicate n '─'

-- An upper edge without room for a title has none.
def upperEdge (columns : Nat) (title : Line) : Line :=
  if columns ≤ 4 then edge (columns - 2)
  else
    let title := cropped (columns - 4) (' ' :: title ++ [' '])
    let room := columns - 4 - cells title
    '─' :: edge (room / 2) ++ title ++ edge (room - room / 2) ++ ['─']

def panelLines (p : Panel) (columns : Nat) : Except Markup.Error (List Line) := do
  let content ← Markup.plain p.content
  let title ← Markup.plain p.title
  .ok ((['╭'] ++ upperEdge columns title ++ ['╮']) ::
    (wrap (columns - 4) {} content).map (fun l =>
      ['│', ' '] ++ resized (columns - 4) l ++ [' ', '│']) ++
    [['╰'] ++ edge (columns - 2) ++ ['╯']])

-- A line of markup, in as many lines as it needs.
def paragraph (columns : Nat) (markup : String) : Except Markup.Error (List Line) :=
  (Markup.plain markup).map (wrap columns {})

def refusal : Markup.Error → ScreenError
  | .number e => .value e.message
  | e => .markup e.message

-- What is too wide for the screen is left out.
def drawn (columns : Nat) (lines : Except Markup.Error (List Line)) :
    Except ScreenError (List Char) :=
  (lines.mapError refusal).map fun ls => ls.flatMap fun l => cropped columns l ++ ['\n']

-- A screen without colours that is so many cells wide.
def screen (columns : Nat) : Screen where
  paragraph _ markup := drawn columns (paragraph columns markup)
  grid _ g := drawn columns (gridLines g columns)
  panel _ p := drawn columns (panelLines p columns)
  plain _ text := .ok text.toList

-- The output has to have bytes; what tells of errors makes do without.
def encoded (channel : Channel) (shown : Except ScreenError (List Char)) :
    Except ScreenError (List Char) := do
  let cs ← shown
  match channel, Text.Utf8.encode cs with
  | .out, .error e => .error (.unencodable e)
  | _, _ => .ok cs

-- The same screen behind channels of bytes.
def encoding (s : Screen) : Screen where
  paragraph channel markup := encoded channel (s.paragraph channel markup)
  grid channel g := encoded channel (s.grid channel g)
  panel channel p := encoded channel (s.panel channel p)
  plain channel text := encoded channel (s.plain channel text)

end FieldTemplates.Host
