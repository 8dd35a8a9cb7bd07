import FieldTemplates.Files.Tree
import FieldTemplates.Json.Decode
import FieldTemplates.Options.Basic
import FieldTemplates.Text.LowerCase
import FieldTemplates.Text.Utf8
import FieldTemplates.Value.Pairs

namespace FieldTemplates.Options

inductive LoadError where
  | fileAbsent (path : String)
  | fileNoJson (path : String)
  | fileIsDirectory (path : String)
  | fileSystem (path : String) (e : Files.SystemError)
  | fileUndecodable (e : Text.Utf8.Error)
  | fileInvalid (path : String) (e : Json.Error)
  | fileBeyond (limit : Json.Limit)
  | fileNoObject (path : String)
  | refused (problems : List Problem)
  | overridesNoObject
  | custom (e : Value.PairsError)

def LoadError.message : LoadError → String
  | .fileAbsent p => s!"Configuration file not found: {p}"
  | .fileNoJson p => s!"Configuration file must be JSON: {p}"
  | .fileIsDirectory p =>
    s!"Failed to load configuration file {p}: " ++ Files.SystemError.message p .isDirectory
  | .fileSystem p e => e.message p
  | .fileUndecodable e => e.message
  | .fileInvalid p e => s!"Invalid JSON in configuration file {p}: {e.message}"
  | .fileBeyond l => l.message
  | .fileNoObject p => s!"Configuration file must contain a JSON object: {p}"
  | .refused ps => "; ".intercalate (ps.map Problem.message)
  | .overridesNoObject => ""
  | .custom e => e.message

-- Whether the error says that the options are refused; the others come from values, bytes and sizes
-- that nobody expects.
def LoadError.isRefusal : LoadError → Bool
  | .fileSystem _ _ | .fileUndecodable _ | .fileBeyond _ | .overridesNoObject | .custom _ => false
  | _ => true

-- A device holds nothing.
def contentOf : Files.Node → List UInt8
  | .file bytes => bytes
  | _ => []

def readFile (files : Files.Tree) (path : Files.Path) : Except LoadError (Table Value) :=
  match files.find? path with
  | .error e => .error (.fileSystem path.text e)
  | .ok none => .error (.fileAbsent path.text)
  | .ok (some node) =>
    if Text.lower path.suffix ≠ ".json" then .error (.fileNoJson path.text)
    else match node with
      | .directory => .error (.fileIsDirectory path.text)
      | node =>
        match Text.Utf8.decode (contentOf node) with
        | .error e => .error (.fileUndecodable e)
        | .ok cs =>
          match Json.decode (Text.plainNewlines cs) with
          | .error (.refused e) => .error (.fileInvalid path.text e)
          | .error (.beyond l) => .error (.fileBeyond l)
          | .ok (.object members) => .ok members
          | .ok _ => .error (.fileNoObject path.text)

def defaults : Table Value := [
  ("indent_size", .int 4), ("use_tabs", .bool false), ("text_domain", .text "text-domain"),
  ("image_size", .text "full"), ("gallery_image_size", .text "thumbnail")]

-- Nulls among the overrides say nothing; a null in the file is a value.
def layered (file overrides : Table Value) : Table Value :=
  Table.merge (Table.merge defaults file) (overrides.filter (!·.2.isNull))

-- Unknown members join the custom ones, which have to form a table only then.
def ofLayers (t : Table Value) : Except LoadError Options := do
  let known := t.filter (names.contains ·.1)
  let others := t.filter (!names.contains ·.1)
  let custom := (Table.find? known "custom").getD (.object [])
  let custom ← if others.isEmpty then .ok custom
    else (custom.asPairs.mapError .custom).map fun ps => .object (ps.putAll others).toTable
  .ok { ({} : Options).update known with custom := custom }

def checked (o : Options) : Except LoadError Options :=
  match o.problems with
  | [] => .ok o
  | ps => .error (.refused ps)

def resolve (file overrides : Table Value) : Except LoadError Options :=
  ofLayers (layered file overrides) >>= checked

-- Overrides that are empty in any way are none; others have to be an object.
def overridesOf (v : Value) : Except LoadError (Table Value) :=
  match v with
  | .object members => .ok members
  | v => if v.truthy then .error .overridesNoObject else .ok []

-- An empty path names no file.
def fileOf (files : Files.Tree) (file : Option String) : Except LoadError (Table Value) :=
  match file with
  | none | some "" => .ok []
  | some path => readFile files (Files.Path.ofText path)

def load (files : Files.Tree) (file : Option String) (overrides : Value) :
    Except LoadError Options := do
  resolve (← fileOf files file) (← overridesOf overrides)

end FieldTemplates.Options
