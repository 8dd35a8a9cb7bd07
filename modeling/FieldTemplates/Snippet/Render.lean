import FieldTemplates.Field.Basic
import FieldTemplates.Snippet.Catalog

namespace FieldTemplates.Snippet

open Code (Line)

-- What stays the same throughout a rendering.
structure Setting where
  catalog : Catalog
  style : Style

-- The comment that opens a field.
def heading (depth : Int) (label type : String) : Line :=
  ⟨depth, "/* Field: ".toList ++ Php.comment label.toList ++ " (".toList ++
    Php.comment type.toList ++ ") */".toList⟩

def rowLine (style : Style) (a : Accessor) (subject : Subject) (depth : Int) (offset : Nat)
    (row : Row) : Line :=
  ⟨depth + offset, rowText style a subject row⟩

def branchOpening (first : Bool) (depth : Int) (layout : String) : List Line := [
  ⟨depth + 2, (if first then "if ( " else "\x7d elseif ( ").toList ++
    "get_row_layout() == '".toList ++ Php.quoted layout.toList ++ "' ) \x7b".toList⟩,
  ⟨depth + 3, "echo '<div class=\"layout-".toList ++ Php.inAttribute layout.toList ++
    "\">';".toList⟩]

def branchClosing (depth : Int) : List Line := [⟨depth + 3, "echo '</div>';".toList⟩]

-- What ends the chain of branches, if there is one.
def branchesEnd (depth : Int) (layouts : List Layout) : List Line :=
  if layouts.isEmpty then [] else [⟨depth + 2, ['\x7d']⟩]

-- A renderer at work: for which field, how it reads values there, and how deep its lines stand.
structure Call where
  field : Field
  accessor : Accessor
  depth : Int

def Call.subject (c : Call) : Subject := ⟨c.field.name, c.field.type⟩

inductive Event where
  | call (c : Call)
  | line (l : Line)

namespace Event

def call? : Event → Option Call
  | call c => some c
  | line _ => none

def error? (unit : List Char) : Event → Option Text.RepeatError
  | call _ => none
  | line l => l.error? unit

def text (unit : List Char) : Event → List Char
  | call _ => []
  | line l => l.text unit

end Event

-- What is done in turn, and why it goes no further, where a type has no renderer.
structure Trace where
  events : List Event
  refusal : Option CatalogError

namespace Trace

def empty : Trace := ⟨[], none⟩

def called (c : Call) : Trace := ⟨[.call c], none⟩

def lines (ls : List Line) : Trace := ⟨ls.map .line, none⟩

def refused (e : CatalogError) : Trace := ⟨[], some e⟩

def andThen (t u : Trace) : Trace :=
  match t.refusal with
  | some _ => t
  | none => ⟨t.events ++ u.events, u.refusal⟩

def all (ts : List Trace) : Trace := ts.foldr andThen empty

end Trace

mutual

-- One field, with a blank line at its end. What its renderer writes, and what it hands on to the
-- fields inside, is made of what it was called with.
def fieldTrace (s : Setting) (a : Accessor) (depth : Int) : Field → Trace
  | ⟨key, name, label, type, subFields, layouts, extra⟩ =>
    let c : Call := ⟨⟨key, name, label, type, subFields, layouts, extra⟩, a, depth⟩
    (Trace.lines [heading depth label type]).andThen
      (match s.catalog.resolve type with
      | .error e => .refused e
      | .ok r => (Trace.called c).andThen ((Trace.all (r.steps.map fun
        | .line offset row => .lines [rowLine s.style c.accessor c.subject c.depth offset row]
        | .block rows => .lines (Code.block c.depth (blockText s.style c.accessor c.subject rows))
        | .children offset => fieldsTrace s (c.accessor.nested name) (c.depth + offset) subFields
        | .splice => fieldsTrace s (c.accessor.nested c.accessor.enclosing) c.depth subFields
        | .branches => (branchTrace s (c.accessor.nested name) c.depth true layouts).andThen
            (.lines (branchesEnd c.depth layouts)))).andThen (.lines [Code.blank])))

def fieldsTrace (s : Setting) (a : Accessor) (depth : Int) : List Field → Trace
  | [] => .empty
  | f :: fs => (fieldTrace s a depth f).andThen (fieldsTrace s a depth fs)

-- One branch for each layout, all but the first joined to the one before.
def branchTrace (s : Setting) (a : Accessor) (depth : Int) (first : Bool) : List Layout → Trace
  | [] => .empty
  | ⟨_, name, _, subFields, _⟩ :: ls =>
    (Trace.lines (branchOpening first depth name)).andThen
      ((fieldsTrace s a (depth + 4) subFields).andThen
        ((Trace.lines (branchClosing depth)).andThen (branchTrace s a depth false ls)))

end

-- Why fields have no text.
inductive RenderError where
  | catalog (e : CatalogError)
  | indentation (e : Text.RepeatError)
deriving DecidableEq, Repr

def RenderError.message : RenderError → String
  | .catalog e => e.message
  | .indentation e => e.message

-- The renderers that were called, in order, and the text that came of it.
structure Rendered where
  calls : List Call
  text : Except RenderError (List Char)

-- Rendering ends with the first line that has no text.
def Trace.rendered (unit : List Char) (t : Trace) : Rendered where
  calls := (t.events.takeWhile fun e => (e.error? unit).isNone).filterMap Event.call?
  text := match t.events.findSome? (Event.error? unit), t.refusal with
    | some e, _ => .error (.indentation e)
    | none, some e => .error (.catalog e)
    | none, none => .ok (t.events.flatMap (Event.text unit))

-- The fields of a level, read as rows of `parent`, or from the page where `parent` is empty.
def renderLevel (s : Setting) (groupKey : String) (depth : Int) (parent : String)
    (fields : List Field) : Rendered :=
  (fieldsTrace s (Accessor.nested { groupKey } parent) depth fields).rendered s.style.unit

def renderField (s : Setting) (a : Accessor) (depth : Int) (f : Field) : Rendered :=
  (fieldTrace s a depth f).rendered s.style.unit

end FieldTemplates.Snippet
