import FieldTemplates.Document.Assembly
import FieldTemplates.Export
import FieldTemplates.Json.Decode
import FieldTemplates.Options.Load
import FieldTemplates.Snippet.Standard

namespace FieldTemplates.Document

-- A finished document with its report, or the failure of the run.
structure Generation where
  code : List Char
  warnings : List Warning
  report : Option Report
  failure : Option RunError

def Generation.metadata (g : Generation) : Table Value :=
  match g.report with
  | none => []
  | some r => r.toTable ++ [("language", .text "php"), ("file_extension", .text ".php")]

def RunError.report (e : RunError) : String := "Code generation failed: " ++ e.message

def Generation.failed (e : RunError) : Generation := ⟨[], [], none, some e⟩

-- The requests for keys; `none` asks for every group, as a null does.
def requestsOf (keys : Value) : Except RunError (Option (List Request)) :=
  match keys with
  | .null => .ok none
  | v => match Request.listOf? v with
    | none => .error (.requests v.kind)
    | some rs => .ok (some rs)

-- Keys come from a fresh allocator.
def Generation.run (setup : Setup) (keys : Value) (counter : Nat) :
    Generation × List Log.Entry × Nat :=
  let start : Key.Allocator := { next := counter }
  match requestsOf keys with
  | .error e => (.failed e, [Log.error "Snippet generation failed"], counter)
  | .ok requests =>
    let o := match requests with
      | none => generateAll setup start
      | some rs => generate setup start rs
    match o.code with
    | .ok code => (⟨code, o.run.warnings, some o.run.report, none⟩, o.log, o.run.allocator.next)
    | .error e =>
      (.failed e, o.log ++ [Log.error "Snippet generation failed"], o.run.allocator.next)

-- Why nothing could be generated from a document.
inductive InputError where
  | text (e : Json.Failure)
  | options (e : Options.LoadError)
  | invalid (e : Export.Invalid)
  | run (e : RunError)
  -- Named options that name the document or the keys, or are no named options.
  | names

def InputError.message : InputError → String
  | .text e => e.message
  | .options e => e.message
  | .invalid e => e.message
  | .run e => "Snippet generation failed: " ++ e.report
  | .names => ""

-- A text is a document still to be decoded.
def documentOf : Value → Except Json.Failure Value
  | .text s => Json.decode s.toList
  | v => .ok v

-- The options that overrides ask for. Values that are no object show themselves only in the run,
-- unless they are empty in any way.
def optionsOf (overrides : Value) : Except Options.LoadError (Except RunError Options) :=
  match overrides with
  | .object _ => (Options.load ⟨[]⟩ none overrides).map .ok
  | v => .ok (if v.truthy then .error (.options v.kind) else .ok {})

-- Generates from a document with the standard renderers.
def fromDocument (data keys overrides : Value) (source : Key.Source) (time : String)
    (counter : Nat) : Except InputError Generation := do
  let v ← (documentOf data).mapError .text
  let options ← (optionsOf overrides).mapError .options
  let groups ← (Export.load v).mapError .invalid
  match requestsOf keys, options with
  | .error e, _ | .ok _, .error e => .ok (.failed e)
  | .ok _, .ok options =>
    let setup : Setup := ⟨.ofGroups groups, .standard, options, source, time⟩
    .ok (Generation.run setup keys counter).1

-- The same with options that are there already.
def fromOptions (data keys : Value) (options : Options) (source : Key.Source) (time : String)
    (counter : Nat) : Except InputError Generation := do
  let v ← (documentOf data).mapError .text
  let groups ← (Export.load v).mapError .invalid
  .ok (Generation.run ⟨.ofGroups groups, .standard, options, source, time⟩ keys counter).1

def areNamed (options : Value) : Bool :=
  match options with
  | .object members =>
    !Table.has members "json_data" && !Table.has members "group_keys"
  | v => v.isNull

-- Only the code; a failed run is an error.
def quick (data keys options : Value) (source : Key.Source) (time : String) (counter : Nat) :
    Except InputError (List Char) := do
  if !areNamed options then .error .names
  let g ← fromDocument data keys options source time counter
  match g.failure with
  | none => .ok g.code
  | some e => .error (.run e)

end FieldTemplates.Document
