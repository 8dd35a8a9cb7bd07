import FieldTemplates.Export
import FieldTemplates.Files.Source
import FieldTemplates.Library.Basic

namespace FieldTemplates.Library

inductive LoadError where
  | read (e : Files.ReadError)
  | invalid (e : Export.Invalid)

def LoadError.message : LoadError → String
  | .read e => e.message
  | .invalid e => e.message

-- A library or an error, with what was logged until then.
structure Loaded where
  result : Except LoadError Library
  log : List Log.Entry := []

def ofDocument (v : Value) : Loaded :=
  match Export.load v with
  | .ok gs => ⟨.ok (ofGroups gs), addAllLog {} gs⟩
  | .error e => { result := .error (.invalid e) }

-- Adds the groups of one source, if it holds any.
def addSource (l : Library) (s : Files.Source) : Library × List Log.Entry :=
  match s.content with
  | .error _ => (l, [])
  | .ok v =>
    match Export.load v with
    | .ok gs => (l.addAll gs, l.addAllLog gs)
    | .error e =>
      (l, [Log.warning s!"Skipping {(Files.Path.ofText s.place).name}: {e.message}"])

-- Reading and adding go hand in hand, document by document, so their log entries alternate.
def addPaths (files : Files.Tree) (l : Library) : List Files.Path → Loaded
  | [] => { result := .ok l }
  | path :: paths =>
    let listing := Files.readAll files [path]
    match listing.failure with
    | some e => { result := .error (.read e) }
    | none =>
      let (l, added) := listing.sources.foldl (fun (l, log) s =>
        let (l, more) := l.addSource s
        (l, log ++ more)) (l, [])
      let rest := addPaths files l paths
      { rest with log := listing.log ++ added ++ rest.log }

def ofPath (files : Files.Tree) (path : Files.Path) : Loaded :=
  match files.isDirectory path with
  | .error e => { result := .error (.read (.system path.text e)) }
  | .ok true => addPaths files {} (Files.documentPaths files path)
  | .ok false => match Files.read files path with
    | .ok v => ofDocument v
    | .error e => { result := .error (.read e) }

end FieldTemplates.Library
