import FieldTemplates.Document.Banner
import FieldTemplates.Document.Report
import FieldTemplates.Document.Request
import FieldTemplates.Document.Tidy
import FieldTemplates.Key.Assign
import FieldTemplates.Library.Basic
import FieldTemplates.Snippet.Render

namespace FieldTemplates.Document

open Snippet

inductive RunError where
  | indentation (e : Options.IndentError)
  | requests (kind : String)
  | lookup (kind : String)
  | render (e : RenderError)
  -- Options that are no options at all.
  | options (kind : String)
deriving DecidableEq, Repr

def RunError.message : RunError → String
  | .indentation e => e.message
  | .requests kind => s!"'{kind}' object is not iterable"
  | .lookup kind => s!"unhashable type: '{kind}'"
  | .render e => e.message
  | .options kind => s!"'{kind}' object has no attribute 'indent_unit'"

-- What a run works with: where groups come from, how they are rendered, where keys and times
-- come from.
structure Setup where
  library : Library
  catalog : Catalog
  options : Options := {}
  source : Key.Source
  time : String

-- How far a run has come.
structure Run where
  allocator : Key.Allocator
  report : Report := {}
  warnings : List Warning := []
  code : List Char := []

-- A warning for each field that the catalog has no renderer for.
def unsupportedIn (c : Catalog) (title : String) (fields : List Field) : List Warning :=
  (fields.filter fun f => !c.supports f.type).map fun f => .unsupported f.type f.name title

def addTypes (known : List String) (fields : List Field) : List String :=
  fields.foldl (fun known f => if f.type ∈ known then known else known ++ [f.type]) known

-- A group with its own key and those below made unique.
structure Prepared where
  key : String
  fields : List Field
  allocator : Key.Allocator
  changed : Nat

def prepare (source : Key.Source) (a : Key.Allocator) (g : Group) : Prepared :=
  let (key, a) := a.allocate source g.key "group"
  let r := Key.assignFields source a g.fields
  ⟨key, r.result, r.allocator, Key.countChange g.key key + r.changed⟩

-- Adds one group. Where its rendering fails, the keys stay given and the warnings stay written.
def addGroup (setup : Setup) (style : Style) (run : Run) (g : Group) : Run × Option RunError :=
  let p := prepare setup.source run.allocator g
  let all := Field.flattenAll p.fields
  let bad := all.filter fun f => !setup.catalog.supports f.type
  let run := { run with
    allocator := p.allocator
    warnings := run.warnings ++ unsupportedIn setup.catalog g.title all
    report := { run.report with unsupported := addTypes run.report.unsupported bad } }
  match (renderLevel ⟨setup.catalog, style⟩ p.key 0 "" p.fields).text with
  | .error e => (run, some (.render e))
  | .ok body =>
    ({ run with
        code := run.code ++ groupBlock g.title p.key body
        report := { run.report with
          rendered := run.report.rendered + 1
          fields := run.report.fields + all.length
          replaced := run.report.replaced + p.changed } }, none)

def skip (run : Run) (key : String) : Run :=
  { run with warnings := run.warnings ++ [.notFound key] }

def step (setup : Setup) (style : Style) (run : Run) (r : Request) : Run × Option RunError :=
  let run := { run with report := { run.report with requested := run.report.requested + 1 } }
  match r with
  | .collection kind => (run, some (.lookup kind))
  | .scalar text => (skip run text, none)
  | .key key =>
    match setup.library.find? key with
    | none => (skip run key, none)
    | some g => addGroup setup style run g

def steps (setup : Setup) (style : Style) (run : Run) : List Request → Run × Option RunError
  | [] => (run, none)
  | r :: rs =>
    match step setup style run r with
    | (run, some e) => (run, some e)
    | (run, none) => steps setup style run rs

-- The document of a run, or what ended it, with the state it reached.
structure Outcome where
  code : Except RunError (List Char)
  run : Run

def generate (setup : Setup) (a : Key.Allocator) (rs : List Request) : Outcome :=
  match Style.ofOptions setup.options with
  | .error e => ⟨.error (.indentation e), { allocator := a }⟩
  | .ok style =>
    let start : Run :=
      { allocator := a, code := header setup.options.headerTitle.display setup.time }
    match steps setup style start rs with
    | (run, some e) => ⟨.error e, run⟩
    | (run, none) => ⟨.ok (tidy run.code), run⟩

-- Every group of the library, in its order.
def generateAll (setup : Setup) (a : Key.Allocator) : Outcome :=
  generate setup a (setup.library.keys.map .key)

def Outcome.log (o : Outcome) : List Log.Entry := o.run.warnings.map Warning.entry

end FieldTemplates.Document
