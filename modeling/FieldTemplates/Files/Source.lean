import FieldTemplates.Files.Tree
import FieldTemplates.Json.Decode
import FieldTemplates.Log.Entry
import FieldTemplates.Text.Utf8

namespace FieldTemplates.Files

inductive ReadError where
  | absent (path : String)
  | undecodable (path : String) (e : Text.Utf8.Error)
  | invalid (path : String) (e : Json.Error)
  | beyond (limit : Json.Limit)
  | system (path : String) (e : SystemError)
  | noFiles (path : String)
deriving Repr

def ReadError.message : ReadError → String
  | .absent p => s!"File not found: {p}"
  | .undecodable p e => s!"Cannot read {p}: {e.message}"
  | .invalid p e => s!"Invalid JSON in {p} (line {e.line}, column {e.column}): {e.problem.message}"
  | .beyond l => l.message
  | .system p e => e.message p
  | .noFiles p => s!"No JSON files in {p}"

-- Whether a directory goes on after the error: not when an entry turns out to be no file, or to
-- hold a document beyond the limits.
def ReadError.isLocal : ReadError → Bool
  | .undecodable _ _ | .invalid _ _ => true
  | _ => false

-- A document, or why there is none, with the place it came from.
structure Source where
  place : String
  content : Except String Value

def read (files : Tree) (path : Path) : Except ReadError Value :=
  match files.find? path with
  | .error e => .error (.system path.text e)
  | .ok (some (.file bytes)) =>
    match Text.Utf8.decodeMarked bytes with
    | .error e => .error (.undecodable path.text e)
    | .ok cs =>
      match Json.decode (Text.plainNewlines cs) with
      | .error (.refused e) => .error (.invalid path.text e)
      | .error (.beyond l) => .error (.beyond l)
      | .ok v => .ok v
  | .ok _ => .error (.absent path.text)

-- The paths of the entries that a directory offers as documents.
def documentPaths (files : Tree) (directory : Path) : List Path :=
  ((files.entries directory).filter (·.endsWith ".json")).map directory.child

-- What came of a directory: the documents up to the entry that ended the reading, if one did.
structure Listing where
  sources : List Source := []
  log : List Log.Entry := []
  failure : Option ReadError := none

def Listing.cons (s : Source) (log : List Log.Entry) (l : Listing) : Listing :=
  { l with sources := s :: l.sources, log := log ++ l.log }

def readAll (files : Tree) : List Path → Listing
  | [] => {}
  | path :: paths =>
    match read files path with
    | .ok v => (readAll files paths).cons ⟨path.text, .ok v⟩ []
    | .error e =>
      if e.isLocal then
        (readAll files paths).cons ⟨path.text, .error e.message⟩
          [Log.warning s!"Skipping {path.name}: {e.message}"]
      else { failure := some e }

-- The documents of a directory; none of what is no directory.
def readDirectory (files : Tree) (directory : Path) : Listing :=
  match files.isDirectory directory with
  | .error e => { failure := some (.system directory.text e) }
  | .ok true => readAll files (documentPaths files directory)
  | .ok false => {}

-- Every document of a directory, or the one document of a file.
def readPlace (files : Tree) (path : Path) : Listing :=
  match files.isDirectory path with
  | .error e => { failure := some (.system path.text e) }
  | .ok true =>
    let l := readDirectory files path
    if l.failure.isNone && l.sources.isEmpty then { l with failure := some (.noFiles path.text) }
    else l
  | .ok false => match read files path with
    | .ok v => { sources := [⟨path.text, .ok v⟩] }
    | .error e => { failure := some e }

end FieldTemplates.Files
