import FieldTemplates.Snippet.Renderer
import FieldTemplates.Text.Blank
import FieldTemplates.Text.Half
import FieldTemplates.Text.LowerCase

namespace FieldTemplates.Snippet

inductive CatalogError where
  | notCallable (type : String)
  | aliasIsType (name : String)
  | aliasTaken (name owner : String)
  | noRenderer (type : String)
  | unknownType (type : String) (available : List String)
  | noDescription
deriving DecidableEq, Repr

def CatalogError.message : CatalogError → String
  | .notCallable t => s!"Renderer for '{t}' must be callable"
  | .aliasIsType a => s!"Alias '{a}' conflicts with existing field type"
  | .aliasTaken a owner => s!"Alias '{a}' already points to '{owner}'"
  | .noRenderer t => s!"No renderer registered for field type: {t}"
  | .unknownType t available =>
    s!"No renderer registered for field type: {t}. Available: " ++ ", ".intercalate available
  | .noDescription => ""

structure Catalog where
  renderers : Table Renderer := []
  aliases : Table String := []
  fallback : Option Renderer := none

-- What is known about a type.
structure TypeInfo where
  name : String
  renderer : String
  aliases : List String
  description : String
deriving DecidableEq, Repr

namespace Catalog

-- The renderer of a type or of the type that an alias stands for.
def find? (c : Catalog) (type : String) : Option Renderer :=
  let key := Text.lower type
  match Table.find? c.renderers key with
  | some r => some r
  | none => (Table.find? c.aliases key).bind (Table.find? c.renderers)

def supports (c : Catalog) (type : String) : Bool := (c.find? type).isSome

def types (c : Catalog) : List String := Text.sorted (Table.names c.renderers)

def resolve (c : Catalog) (type : String) : Except CatalogError Renderer :=
  match c.find? type, c.fallback with
  | some r, _ => .ok r
  | none, some r => .ok r
  | none, none => .error (.unknownType type c.types)

-- The names that stand for a type.
def aliasesOf (c : Catalog) (type : String) : List String :=
  Text.sorted ((c.aliases.filter (·.2 == Text.lower type)).map (·.1))

-- The first line of the documentation; documentation of blanks only has none.
def description : Option String → Except CatalogError String
  | none | some "" => .ok ""
  | some doc =>
    match Text.trim doc.toList with
    | [] => .error .noDescription
    | cs => .ok (String.ofList (Text.firstLine cs))

def info (c : Catalog) (type : String) : Except CatalogError TypeInfo := do
  match c.find? type with
  | none => .error (.noRenderer type)
  | some r =>
    let key := Text.lower type
    let name := (Table.find? c.aliases key).getD key
    .ok ⟨name, r.name, c.aliasesOf name, ← description r.doc⟩

-- Aliases in order, up to the first that is refused.
def addAliases (c : Catalog) (type : String) (replace : Bool) :
    List String → Catalog × Option CatalogError
  | [] => (c, none)
  | name :: names =>
    let key := Text.lower name
    if key = type then c.addAliases type replace names
    else if !replace && Table.has c.renderers key then (c, some (.aliasIsType name))
    else match Table.find? c.aliases key with
      | some owner =>
        if !replace && owner != type then (c, some (.aliasTaken name owner))
        else addAliases { c with aliases := c.aliases.put key type } type replace names
      | none => addAliases { c with aliases := c.aliases.put key type } type replace names

-- Registers a renderer, `none` standing for something that cannot render. Without `replace` a
-- type that has a renderer keeps it, and its aliases too.
def register (c : Catalog) (type : String) (r : Option Renderer) (aliases : List String := [])
    (replace : Bool := false) : Catalog × Option CatalogError :=
  match r with
  | none => (c, some (.notCallable type))
  | some r =>
    let key := Text.lower type
    if Table.has c.renderers key && !replace then (c, none)
    else addAliases { c with renderers := c.renderers.put key r } key replace aliases

def setFallback (c : Catalog) (r : Renderer) : Catalog := { c with fallback := some r }

end Catalog

end FieldTemplates.Snippet
