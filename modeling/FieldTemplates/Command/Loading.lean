import FieldTemplates.Assistant.Settings
import FieldTemplates.Command.Invocation
import FieldTemplates.Command.Transcript
import FieldTemplates.Key.Allocator
import FieldTemplates.Library.Load

namespace FieldTemplates.Command

-- What a command sees of the world around it.
structure World where
  files : Files.Tree
  environment : Table String
  input : List Char
  send : Web.Transport
  source : Key.Source
  counter : Nat
  time : String
  readVariables : Assistant.Variables
  screen : Screen

inductive LoadError where
  | noOrigin
  | input (e : Json.Failure)
  | read (e : Files.ReadError)
  | fetch (e : Web.FetchError)
  | invalid (e : Export.Invalid)

def LoadError.message : LoadError → String
  | .noOrigin => "Input source required (file, directory, --url, or --stdin)"
  | .input e => s!"Invalid JSON input: {e.message}"
  | .read e => s!"Failed to load input: {e.message}"
  | .fetch e => s!"Failed to load input: {e.message}"
  | .invalid e => e.message

-- What came of loading, with the events on the way.
structure Loaded (α : Type) where
  result : Except LoadError α
  events : List Event := []

def logEvents (log : List Log.Entry) : List Event := log.map .logged

def callEvents (calls : List Web.Call) : List Event := calls.map .called

def ofLibrary (l : Library.Loaded) : Loaded Library where
  result := l.result.mapError fun
    | .read e => .read e
    | .invalid e => .invalid e
  events := logEvents l.log

def ofListing (l : Files.Listing) : Loaded (List Files.Source) where
  result := match l.failure with
    | none => .ok l.sources
    | some e => .error (.read e)
  events := logEvents l.log

-- The one document that an address or the input holds.
def loadDocument (w : World) (o : Origin) : Loaded Value :=
  match o.address? with
  | some url =>
    let f := Web.fetch w.send url
    ⟨f.result.mapError .fetch, callEvents f.calls⟩
  | none =>
    if o.stdin then { result := (Json.decode w.input).mapError .input }
    else { result := .error .noOrigin }

def documentPlace (o : Origin) : String := o.address?.getD "<stdin>"

def loadLibrary (w : World) (o : Origin) : Loaded Library :=
  match o.path? with
  | some path => ofLibrary (Library.ofPath w.files (.ofText path))
  | none =>
    let document := loadDocument w o
    match document.result with
    | .error e => ⟨.error e, document.events⟩
    | .ok v =>
      let loaded := ofLibrary (Library.ofDocument v)
      { loaded with events := document.events ++ loaded.events }

def loadDocuments (w : World) (o : Origin) : Loaded (List Files.Source) :=
  match o.path? with
  | some path => ofListing (Files.readPlace w.files (.ofText path))
  | none =>
    let document := loadDocument w o
    ⟨document.result.map fun v => [⟨documentPlace o, .ok v⟩], document.events⟩

end FieldTemplates.Command
