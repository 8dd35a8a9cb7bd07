import FieldTemplates.Text.Utf8

namespace FieldTemplates.Command

inductive Channel where
  | out
  | err
deriving DecidableEq, Repr

structure Column where
  heading : String
  right : Bool := false
  -- Cells stay on one line, and the column keeps its width when others become narrower.
  stiff : Bool := false
deriving DecidableEq, Repr

inductive Frame where
  -- Lines all around, and between the columns.
  | rounded
  -- One line below the headings.
  | ruled
deriving DecidableEq, Repr

-- A table; its title and its cells hold markup.
structure Grid where
  title : String
  columns : List Column
  rows : List (List String)
  frame : Frame
deriving DecidableEq, Repr

-- Text in a box whose upper edge holds the title.
structure Panel where
  title : String
  content : String
deriving DecidableEq, Repr

-- Why a screen does not show something.
inductive ScreenError where
  -- Markup that cannot be read, as where a tag is closed that is not open.
  | markup (message : String)
  -- A value in markup that cannot be read.
  | value (message : String)
  -- A text that the channel has no bytes for.
  | unencodable (e : Text.Utf8.EncodeError)
deriving DecidableEq, Repr

def ScreenError.message : ScreenError → String
  | .markup message => message
  | .value message => message
  | .unencodable e => e.message

-- What commands show is laid out and written elsewhere: the text that a channel comes to hold, or
-- why it comes to hold none.
structure Screen where
  paragraph : Channel → String → Except ScreenError (List Char)
  grid : Channel → Grid → Except ScreenError (List Char)
  panel : Channel → Panel → Except ScreenError (List Char)
  -- Text that is no markup.
  plain : Channel → String → Except ScreenError (List Char)

end FieldTemplates.Command
