import FieldTemplates.Files.Path
import FieldTemplates.Php.Comment
import FieldTemplates.Value.Display

namespace FieldTemplates.Document

inductive Part where
  | fixed (s : String)
  -- A value as it is.
  | slot (name : String)
  -- A value made harmless for a comment.
  | comment (name : String)
deriving DecidableEq, Repr

abbrev Banner := List Part

namespace Banner

def header : Banner := [.fixed "<?php\n// ", .comment "title", .fixed "\n// Generated on ",
  .slot "generated_at", .fixed "\n\n"]

def group : Banner := [.fixed "// Template for Field Group: ", .comment "title", .fixed " (",
  .comment "key", .fixed ")\n", .slot "body", .fixed "\n"]

-- The banners by the names of their files.
def all : Table Banner := [("group.php.j2", group), ("header.php.j2", header)]

-- The banner that a path leads to. No path leads there by way of another directory.
def named? (path : String) : Option Banner :=
  match (Files.Path.ofText path).steps with
  | [name] => Table.find? all name
  | _ => none

def slotName? : Part → Option String
  | .fixed _ => none
  | .slot name | .comment name => some name

def fill (value : String → List Char) (b : Banner) : List Char :=
  b.flatMap fun
    | .fixed s => s.toList
    | .slot name => value name
    | .comment name => Php.comment (value name)

inductive RenderError where
  -- A slot without a value.
  | unfilled (banner slot : String)
  -- A value with the name of the banner itself.
  | reserved
deriving DecidableEq, Repr

def RenderError.message : RenderError → String
  | .unfilled banner slot => s!"Failed to render template {banner}: '{slot}' is undefined"
  | .reserved => ""

def ownName : String := "self"

-- The first slot without a value is refused; values without a slot are passed over.
def render (name : String) (b : Banner) (values : Table Value) : Except RenderError (List Char) :=
  if Table.has values ownName then .error .reserved
  else match (b.filterMap slotName?).find? (fun slot => !Table.has values slot) with
    | some slot => .error (.unfilled name slot)
    | none => .ok (b.fill fun slot => ((Table.find? values slot).getD .null).display.toList)

end Banner

-- The start of every document.
def header (title : String) (time : String) : List Char :=
  Banner.header.fill fun slot => (if slot = "title" then title else time).toList

def groupBlock (title key : String) (body : List Char) : List Char :=
  Banner.group.fill fun slot =>
    if slot = "title" then title.toList else if slot = "key" then key.toList else body

end FieldTemplates.Document
