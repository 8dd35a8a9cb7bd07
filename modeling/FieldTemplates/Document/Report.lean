import FieldTemplates.Log.Entry
import FieldTemplates.Text.Quoted
import FieldTemplates.Value.Basic

namespace FieldTemplates.Document

structure Report where
  requested : Nat := 0
  rendered : Nat := 0
  fields : Nat := 0
  replaced : Nat := 0
  unsupported : List String := []
deriving DecidableEq, Repr

def Report.toTable (r : Report) : Table Value := [
  ("groups_requested", .int r.requested), ("groups_rendered", .int r.rendered),
  ("fields_rendered", .int r.fields), ("keys_rewritten", .int r.replaced),
  ("unsupported_types", .list (r.unsupported.map .text))]

inductive Warning where
  | notFound (key : String)
  | unsupported (type name title : String)
deriving DecidableEq, Repr

def Warning.message : Warning → String
  | .notFound key => s!"Field group '{key}' not found; skipped"
  | .unsupported type name title =>
    s!"Unsupported field type '{type}' for field '{name}' in '{title}'; generic output used"

def Warning.entry : Warning → Log.Entry
  | .notFound key => Log.warning s!"Field group not found, skipping: {key}"
  | .unsupported type name title =>
    Log.warning s!"Unsupported field type {Text.quoted type} for field {name} in {title}"

end FieldTemplates.Document
