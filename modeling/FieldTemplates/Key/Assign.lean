import FieldTemplates.Field.Basic
import FieldTemplates.Key.Allocator

namespace FieldTemplates.Key

-- A result with the allocator after it and the number of keys that changed.
structure Assigned (α : Type) where
  result : α
  allocator : Allocator
  changed : Nat

def countChange (old new : String) : Nat := if new = old then 0 else 1

mutual

-- A field's key comes before those of its sub-fields, and these before its layouts.
def assignField (source : Source) (a : Allocator) : Field → Assigned Field
  | ⟨key, name, label, type, subFields, layouts, extra⟩ =>
    let (new, a) := a.allocate source key "field"
    let subs := assignFields source a subFields
    let lays := assignLayouts source subs.allocator layouts
    ⟨⟨new, name, label, type, subs.result, lays.result, extra⟩, lays.allocator,
      countChange key new + subs.changed + lays.changed⟩

def assignFields (source : Source) (a : Allocator) : List Field → Assigned (List Field)
  | [] => ⟨[], a, 0⟩
  | f :: fs =>
    let first := assignField source a f
    let rest := assignFields source first.allocator fs
    ⟨first.result :: rest.result, rest.allocator, first.changed + rest.changed⟩

def assignLayouts (source : Source) (a : Allocator) : List Layout → Assigned (List Layout)
  | [] => ⟨[], a, 0⟩
  | ⟨key, name, label, subFields, extra⟩ :: ls =>
    let (new, a) := a.allocate source key "layout"
    let subs := assignFields source a subFields
    let rest := assignLayouts source subs.allocator ls
    ⟨⟨new, name, label, subs.result, extra⟩ :: rest.result, rest.allocator,
      countChange key new + subs.changed + rest.changed⟩

end

end FieldTemplates.Key
