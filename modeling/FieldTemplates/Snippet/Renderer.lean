import FieldTemplates.Code.Line
import FieldTemplates.Php.Comment
import FieldTemplates.Snippet.Accessor
import FieldTemplates.Snippet.Style

namespace FieldTemplates.Snippet

-- A piece of a row: fixed code, or a text of the field or of the style in its safe form.
inductive Piece where
  | code (s : String)
  | value
  | literalName
  | className
  | commentName
  | commentType
  | bareName
  | textDomain
  | imageSize
  | gallerySize
deriving DecidableEq, Repr

instance : Coe String Piece := ⟨.code⟩

abbrev Row := List Piece

inductive Step where
  -- One line, `offset` levels below the field.
  | line (offset : Nat) (row : Row)
  -- Lines set as one text with a margin of their own; a line end in a value starts a new line.
  | block (rows : List (Nat × Row))
  -- The sub-fields as rows of this field, `offset` levels below it.
  | children (offset : Nat)
  -- The sub-fields in place of this field, as if they stood beside it.
  | splice
  -- A branch for each layout, with its fields as rows of this field.
  | branches
deriving DecidableEq, Repr

structure Renderer where
  name : String
  doc : Option String
  steps : List Step
deriving DecidableEq, Repr

-- What a renderer may read of its field.
structure Subject where
  name : String
  type : String
deriving DecidableEq, Repr

namespace Piece

def text (style : Style) (a : Accessor) (subject : Subject) : Piece → List Char
  | code s => s.toList
  | value => a.value subject.name
  | literalName => Php.quoted subject.name.toList
  | className => Php.inAttribute subject.name.toList
  | commentName => Php.comment subject.name.toList
  | commentType => Php.comment subject.type.toList
  | bareName => subject.name.toList
  | textDomain => Php.quoted style.textDomain
  | imageSize => Php.quoted style.imageSize
  | gallerySize => Php.quoted style.gallerySize

end Piece

def rowText (style : Style) (a : Accessor) (subject : Subject) (row : Row) : List Char :=
  row.flatMap (Piece.text style a subject)

def spaces (n : Nat) : List Char := List.replicate n ' '

-- A block has a margin of eight spaces and four for each level. A value with a line end can start
-- a line without them, which then becomes the margin of all.
def blockText (style : Style) (a : Accessor) (subject : Subject) (rows : List (Nat × Row)) :
    List Char :=
  '\n' :: rows.flatMap (fun r => spaces (8 + 4 * r.1) ++ rowText style a subject r.2 ++ ['\n']) ++
    spaces 8

end FieldTemplates.Snippet
