import FieldTemplates.Value.Display

namespace FieldTemplates.Document

inductive Request where
  | key (key : String)
  -- A scalar that is no text, by its text.
  | scalar (text : String)
  -- A collection cannot be looked up at all.
  | collection (kind : String)
deriving DecidableEq, Repr

namespace Request

def ofValue : Value → Request
  | .text s => .key s
  | .list items => .collection (Value.list items).kind
  | .object members => .collection (Value.object members).kind
  | v => .scalar v.display

-- A text asks for each of its characters, an object for each of its names.
def listOf? : Value → Option (List Request)
  | .list items => some (items.map ofValue)
  | .object members => some (members.map fun m => .key m.1)
  | .text s => some (s.toList.map fun c => .key (String.ofList [c]))
  | _ => none

end Request

end FieldTemplates.Document
