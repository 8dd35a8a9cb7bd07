import FieldTemplates.Text.Repeat
import FieldTemplates.Value.Display

namespace FieldTemplates

structure Options where
  outputFile : Value := .null
  headerTitle : Value := .text "ACF Template Snippets for Selected Field Groups"
  indentSize : Value := .int 4
  useTabs : Value := .bool false
  textDomain : Value := .text "text-domain"
  imageSize : Value := .text "full"
  galleryImageSize : Value := .text "thumbnail"
  custom : Value := .object []

namespace Options

def toTable (o : Options) : Table Value := [
  ("output_file", o.outputFile), ("header_title", o.headerTitle), ("indent_size", o.indentSize),
  ("use_tabs", o.useTabs), ("text_domain", o.textDomain), ("image_size", o.imageSize),
  ("gallery_image_size", o.galleryImageSize), ("custom", o.custom)]

def names : List String := Table.names ({} : Options).toTable

-- Options with the members of a table in place of the given ones; other members are passed over.
def update (o : Options) (t : Table Value) : Options where
  outputFile := (Table.find? t "output_file").getD o.outputFile
  headerTitle := (Table.find? t "header_title").getD o.headerTitle
  indentSize := (Table.find? t "indent_size").getD o.indentSize
  useTabs := (Table.find? t "use_tabs").getD o.useTabs
  textDomain := (Table.find? t "text_domain").getD o.textDomain
  imageSize := (Table.find? t "image_size").getD o.imageSize
  galleryImageSize := (Table.find? t "gallery_image_size").getD o.galleryImageSize
  custom := (Table.find? t "custom").getD o.custom

-- Options from members that are all known, taken as they are.
def ofTable? (t : Table Value) : Option Options :=
  if (Table.names t).all names.contains then some (({} : Options).update t) else none

inductive Problem where
  | indentNoInteger (v : Value)
  | indentOutOfRange (n : Int)
  | empty (name : String)

def Problem.message : Problem → String
  | .indentNoInteger v => "Invalid indent_size: " ++ v.literal
  | .indentOutOfRange n => s!"indent_size out of range (0-16): {n}"
  | .empty name => s!"{name} must not be empty"

def indentProblem? : Value → Option Problem
  | .int n => if 0 ≤ n ∧ n ≤ 16 then none else some (.indentOutOfRange n)
  | v => some (.indentNoInteger v)

def emptyProblem? (name : String) (v : Value) : Option Problem :=
  if v.truthy then none else some (.empty name)

def problems (o : Options) : List Problem :=
  (indentProblem? o.indentSize).toList ++ (emptyProblem? "text_domain" o.textDomain).toList ++
    (emptyProblem? "image_size" o.imageSize).toList ++
    (emptyProblem? "gallery_image_size" o.galleryImageSize).toList

-- Why an indentation level has no text.
inductive IndentError where
  | noCount (kind : String)
  | size (e : Text.RepeatError)
deriving DecidableEq, Repr

def IndentError.message : IndentError → String
  | .noCount kind => s!"can't multiply sequence by non-int of type '{kind}'"
  | .size e => e.message

-- The text of one indentation level.
def indentUnit (o : Options) : Except IndentError (List Char) :=
  if o.useTabs.truthy then .ok ['\t']
  else match o.indentSize with
    | .int n => (Text.repeated? n [' ']).mapError .size
    | .bool b => .ok (if b then [' '] else [])
    | v => .error (.noCount v.kind)

end Options

end FieldTemplates
