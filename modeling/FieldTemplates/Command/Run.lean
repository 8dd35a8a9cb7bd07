import FieldTemplates.Assistant.Answer
import FieldTemplates.Command.Loading
import FieldTemplates.Document.Generation

namespace FieldTemplates.Command

def errorLine (message : String) : Event := .say .err s!"[red]✗ Error:[/red] {message}"

def failed (message : String) : Transcript := .ended 1 [errorLine message]

-- Errors of loading are told; others break the command down.
def notLoaded (e : LoadError) : Transcript :=
  match e with
  | .fetch f => if f.isLoading then failed e.message else .broken (.fetch f)
  | .input (.beyond l) | .read (.beyond l) => .broken (.document l)
  | .read (.system path e) => .broken (.system path e)
  | e => failed e.message

def Loaded.andThen {α : Type} (l : Loaded α) (next : α → Transcript) : Transcript :=
  match l.result with
  | .error e => (notLoaded e).after l.events
  | .ok a => (next a).after l.events

def emit (text : String) : Event :=
  .raw .out (if text.endsWith "\n" then text else text ++ "\n")

-- Errors of the system are told; a path or a text that is none breaks the command down.
def notWritten (path : String) (written : Files.Path) (e : Files.Tree.WriteError) : Transcript :=
  match e with
  | .system e =>
    .ended 1 [.say .err s!"[red]✗ Failed to write to {path}:[/red] {e.message written.text}"]
  | .path f => .broken (.path f)
  | .text e => .broken (.unencodable e)

-- The file that the options name, if they name one.
def outputPath (o : Options) : Except Breakdown (Option Files.Path) :=
  match o.outputFile with
  | .text "" => .ok none
  | .text s => .ok (some (.ofText s))
  | v => if v.truthy then .error (.outputFile v.kind) else .ok none

def capitalized (word : String) : String :=
  match word.toList with
  | c :: cs => String.ofList (c.toUpper :: cs)
  | [] => ""

-- The name of a property as a heading.
def headingOf (name : String) : String :=
  " ".intercalate ((Text.pieces '_' name.toList).map fun cs => capitalized (String.ofList cs))

def metadataGrid (metadata : Table Value) : Grid where
  title := "📊 Generation Metadata"
  columns := [{ heading := "Property" }, { heading := "Value" }]
  rows := metadata.map fun m => [headingOf m.1, m.2.display]
  frame := .ruled

def metadataEvents (verbose : Bool) (metadata : Table Value) : List Event :=
  if verbose && !metadata.isEmpty then [.say .err "", .grid .err (metadataGrid metadata)] else []

def warningEvents (ws : List Document.Warning) : List Event :=
  if ws.isEmpty then []
  else .say .err "\n[yellow]⚠️  Warnings:[/yellow]" ::
    ws.map (fun w => .say .err s!"  [yellow]•[/yellow] {w.message}") ++ [.say .err ""]

def failureEvents (e : Document.RunError) : List Event := [
  .say .err s!"[red]✗ Snippet generation failed:[/red] {e.report}",
  .say .err s!"[dim]Details: {e.message}[/dim]"]

-- Writes a finished document and tells about it.
def deliver (w : World) (o : Options) (verbose : Bool) (g : Document.Generation) : Transcript :=
  let told := metadataEvents verbose g.metadata ++ warningEvents g.warnings
  match outputPath o with
  | .error b => .broken b
  | .ok none => .ended 0 (emit (String.ofList g.code) :: told)
  | .ok (some path) =>
    match w.files.write path g.code with
    | .error e => notWritten path.text path e
    | .ok _ => .ended 0 (.wrote path g.code ::
        .say .err s!"[green]✓[/green] Template snippets saved to [cyan]{path.text}[/cyan]" :: told)

def generateSnippets (w : World) (library : Library) (keys : Value) (o : Options)
    (verbose : Bool) : Transcript :=
  let (g, log, _) := Document.Generation.run ⟨library, .standard, o, w.source, w.time⟩ keys
    w.counter
  Transcript.after (logEvents log) (match g.failure with
    | some e => .ended 1 (failureEvents e)
    | none => deliver w o verbose g)

def withOptions (w : World) (file : Option String) (overrides : Table Value)
    (next : Options → Transcript) : Transcript :=
  match Options.load w.files file (.object overrides) with
  | .ok o => next o
  | .error e =>
    if e.isRefusal then failed s!"Configuration error: {e.message}" else .broken (.options e)

def runSnippets (w : World) (o : Origin) (keys : Value) (file : Option String)
    (overrides : Table Value) (verbose : Bool) : Transcript :=
  (loadLibrary w o).andThen fun library =>
    withOptions w file overrides fun options => generateSnippets w library keys options verbose

def groupRow (g : Group) : List String :=
  [g.key, g.title, toString g.fields.length, toString g.flatten.length]

def groupsGrid (groups : List Group) : Grid where
  title := "📋 Field Groups"
  columns := [{ heading := "Key", stiff := true }, { heading := "Title" },
    { heading := "Fields", right := true }, { heading := "Nested", right := true }]
  rows := groups.map groupRow
  frame := .rounded

def runGroups (w : World) (o : Origin) : Transcript :=
  (loadLibrary w o).andThen fun library =>
    if library.groups.isEmpty then
      .ended 0 [.say .out "[yellow]⚠️ No field groups found[/yellow]"]
    else .ended 0 [.say .out "", .grid .out (groupsGrid library.groups)]

def refusedEvents (place : String) (problems : List String) : List Event :=
  .say .out s!"[red]✗[/red] {place}" ::
    problems.map fun p => .say .out s!"  [red]•[/red] {p}"

-- What is wrong with a document, or the library that it makes.
def check (s : Files.Source) : Except (List String) Library.Loaded :=
  match s.content with
  | .error e => .error [e]
  | .ok v =>
    match Export.problems v with
    | [] => .ok (Library.ofDocument v)
    | ps => .error (ps.map Export.Problem.message)

def checkEvents (s : Files.Source) : List Event :=
  match check s with
  | .error ps => refusedEvents s.place ps
  | .ok l =>
    let size := match l.result with
      | .ok library => library.size
      | .error _ => 0
    logEvents l.log ++ [.say .out s!"[green]✓[/green] {s.place} ({size} field group(s))"]

def isAccepted (s : Files.Source) : Bool := (check s).isOk

def runValidate (w : World) (o : Origin) : Transcript :=
  (loadDocuments w o).andThen fun sources =>
    .ended (if sources.all isAccepted then 0 else 1) (sources.flatMap checkEvents)

def askFailure (e : Assistant.Failure) : List Event :=
  .say .err s!"[red]✗ Generation failed:[/red] {e.message}" ::
    e.problems.map (fun p => .say .err s!"  [red]•[/red] {p.message}") ++
    (e.content?.map fun s => Event.panel .err ⟨"Raw response", s⟩).toList

-- Saves the groups if a file is named for them; an error is how the command ends.
def saved (w : World) (save : Option String) (text : String) : Except Transcript (List Event) :=
  match given? save with
  | none => .ok []
  | some name =>
    let path := Files.Path.ofText name
    match w.files.write path text.toList with
    | .error e => .error (notWritten name path e)
    | .ok _ => .ok [.wrote path text.toList,
        .say .err s!"[green]✓[/green] Field groups saved to [cyan]{name}[/cyan]"]

def deliverGroups (w : World) (groups : List Value) (save : Option String) (asCode : Bool)
    (verbose : Bool) : Transcript :=
  let pretty := Json.encodePretty (.list groups)
  match saved w save (pretty ++ "\n") with
  | .error t => t
  | .ok events =>
    if asCode then
      ((ofLibrary (Library.ofDocument (.list groups))).andThen fun library =>
        generateSnippets w library .null {} verbose).after events
    else .ended 0 (events ++ [emit pretty])

def settingsOf (w : World) (overrides : Table Value) :
    Except Assistant.SettingsError Assistant.Settings :=
  (Assistant.Settings.load w.readVariables none w.environment).map fun s =>
    (s.override? overrides).getD s

def runAsk (w : World) (prompt : String) (save : Option String) (overrides : Table Value)
    (asCode verbose : Bool) : Transcript :=
  match settingsOf w overrides with
  | .error e => failed s!"Invalid AI settings: {e.message}"
  | .ok settings =>
    match Assistant.ask w.send settings prompt with
    | .error l => .broken (.document l)
    | .ok a =>
      Transcript.after (callEvents a.calls ++ logEvents a.log) (match a.result with
        | .error e => .ended 1 (askFailure e)
        | .ok groups => deliverGroups w groups save asCode verbose)

-- A kind with the renderer it has, and the kind whose renderer it shares.
def typeRow (k : Kind) : List String :=
  match Snippet.Catalog.standard.info k.name with
  | .ok info => [k.name, k.category.name, info.description,
      if info.name = k.name then "" else info.name]
  | .error _ => [k.name, k.category.name, "", ""]

def typesGrid : Grid where
  title := "📋 Supported Field Types"
  columns := [{ heading := "Type", stiff := true }, { heading := "Category" },
    { heading := "Output" }, { heading := "Same as" }]
  rows := Kind.all.map typeRow
  frame := .rounded

def unknownTypes : Panel where
  title := "💡 Unknown types"
  content := "Other types are rendered as an escaped paragraph with an\n" ++
    "[bold]Unsupported field type[/bold] comment."

def runTypes : Transcript :=
  .ended 0 [.say .out "", .grid .out typesGrid, .say .out "", .panel .out unknownTypes]

def Action.run (w : World) (verbose : Bool) : Action → Transcript
  | .snippets o keys file overrides => runSnippets w o keys file overrides verbose
  | .groups o => runGroups w o
  | .validate o => runValidate w o
  | .ask prompt save overrides asCode => runAsk w prompt save overrides asCode verbose
  | .types => runTypes

-- The files that a command looks at or writes, seen from the files known so far: options from a
-- file may name one more.
def Action.paths (files : Files.Tree) : Action → List String
  | .snippets o _ file overrides =>
    let output := match (Options.load files file (.object overrides)).map outputPath with
      | .ok (.ok (some path)) => [path.text]
      | _ => []
    o.path?.toList ++ (given? file).toList ++ output
  | .groups o | .validate o => o.path?.toList
  | .ask _ save _ _ => (given? save).toList
  | .types => []

-- Whether a command reads its standard input.
def Action.readsInput : Action → Bool
  | .snippets o _ _ _ | .groups o | .validate o => o.path?.isNone && o.address?.isNone && o.stdin
  | .ask _ _ _ _ | .types => false

def Stop.run : Stop → Transcript
  | .help g => .ended 0 [.raw .out g.usage]
  | .version => .ended 0 [.raw .out s!"{programName} {programVersion}\n"]
  | .refused g fault =>
    .ended 2 [.raw .err g.usage, .raw .err s!"{g.program}: error: {fault.message}\n"]

-- A command line without a command asks for help, and that is no success.
def run (w : World) (args : List String) : Transcript :=
  Transcript.settled w.screen (match Invocation.read args with
    | .error stop => stop.run
    | .ok none => .ended 1 [.raw .out mainGrammar.usage]
    | .ok (some i) => i.action.run w i.verbose)

end FieldTemplates.Command
