import FieldTemplates.Command.Run
import FieldTemplates.Host.EnvFile
import FieldTemplates.Host.Screen
import FieldTemplates.Log.Setup
import Std.Time.Zoned

namespace FieldTemplates.Program

open Command

def nodeAt (path : String) : IO (Option Files.Node) := do
  let full := (← IO.currentDir) / path
  if ← full.isDir then return some .directory
  else if ← full.pathExists then
    return some (.file (← IO.FS.readBinFile full).toList)
  else return none

-- The steps of a path in a tree.
def stepsOf (p : Files.Path) : List String :=
  p.steps.foldl (fun at_ step => if step = ".." then Files.Tree.parent at_ else at_ ++ [step])
    (if p.root = "" then [] else [p.root])

def addNode (t : Files.Tree) (p : Files.Path) : IO Files.Tree := do
  match ← nodeAt p.text with
  | some n => return t.put (stepsOf p) n
  | none => return t

-- What is at a path, in the directory there, and above it.
def addPath (t : Files.Tree) (path : String) : IO Files.Tree := do
  let p := Files.Path.ofText path
  let t ← addNode t ⟨p.root, p.steps.dropLast⟩
  let t ← addNode t p
  let full := (← IO.currentDir) / p.text
  if ← full.isDir then
    let names := (← full.readDir).toList.map (·.fileName)
    (names.filter (·.endsWith ".json")).foldlM (fun t name => addNode t (p.child name)) t
  else return t

partial def readAll (h : IO.FS.Stream) (sofar : ByteArray) : IO ByteArray := do
  let more ← h.read 65536
  if more.isEmpty then return sofar else readAll h (sofar ++ more)

def readInput : IO (List Char) := do
  let bytes ← readAll (← IO.getStdin) .empty
  match Text.Utf8.decode bytes.toList with
  | .ok cs => return cs
  | .error e => throw (IO.userError e.message)

def variableNames : List String :=
  (Table.names ({} : Assistant.Settings).toTable).map fun name => "ACF_AI_" ++ name.toUpper

def environment : IO (Table String) :=
  variableNames.filterMapM fun name => do
    return (← IO.getEnv name).map fun value =>
      (name, String.ofList (Text.Half.holdAll value.toList))

def twoDigits (n : Int) : String := if n < 10 then s!"0{n}" else toString n

def clock : IO String := do
  let now ← Std.Time.PlainDateTime.now
  let date := s!"{now.year.toInt}-{twoDigits now.month.val}-{twoDigits now.day.val}"
  return s!"{date} {twoDigits now.hour.val}:{twoDigits now.minute.val}:{twoDigits now.second.val}"

def keySource : IO Key.Source := do
  let bytes ← IO.getRandomBytes 16
  let hex := String.ofList (bytes.toList.flatMap fun b => Text.hexDigits 2 b.toNat)
  let now ← Std.Time.Timestamp.now
  return fun _ => ⟨hex, now.toSecondsSinceUnixEpoch.val⟩

-- There is no way to the network.
def unconnected : Web.Transport := fun _ => .failed "no network transport"

-- No variable turns files of variables off.
def variablesFrom (files : Files.Tree) : Assistant.Variables := Host.EnvFile.reader files ""

-- As wide as the environment tells.
def screen : IO Screen := do
  return Host.encoding (Host.screen (((← IO.getEnv "COLUMNS").bind String.toNat?).getD 80))

def worldFor (a : Action) : IO World := do
  let files ← (a.paths ⟨[]⟩).foldlM addPath ⟨[]⟩
  let files ← (a.paths files).foldlM addPath files
  let input ← if a.readsInput then readInput else pure []
  return {
    files
    environment := ← environment
    input
    send := unconnected
    source := ← keySource
    counter := 1
    time := ← clock
    readVariables := variablesFrom files
    screen := ← screen }

-- The replacement character shows where a half stands alone.
def shownText (text : List Char) : String :=
  String.ofList ((Text.Half.codePoints text).map fun n =>
    if Text.Half.isHalf n then '\uFFFD' else Char.ofNat n)

def put (channel : Channel) (text : List Char) : IO Unit :=
  match channel with
  | .out => IO.print (shownText text)
  | .err => IO.eprint (shownText text)

-- Log entries go where the setup says.
def logEntry (handlers : List Log.Handler) (time : String) (e : Log.Entry) : IO Unit :=
  handlers.forM fun h =>
    if e.severity < h.level then return ()
    else match h with
      | .console _ => IO.eprintln s!"{Log.levelName e.severity} {e.text}"
      | .file path => do
        let file ← IO.FS.Handle.mk path .append
        file.write ⟨(Log.lines time [⟨Log.rootName, e.severity, e.text, []⟩]).toArray⟩

def carryOut (screen : Screen) (handlers : List Log.Handler) (time : String) (e : Event) :
    IO Unit :=
  match e with
  | .wrote path text =>
    match Text.Utf8.encode text with
    | .ok bytes => IO.FS.writeBinFile path.text ⟨bytes.toArray⟩
    | .error e => throw (IO.userError e.message)
  | .logged entry => logEntry handlers time entry
  | e =>
    match e.shown screen with
    | .ok (some (channel, text)) => put channel text
    | _ => return ()

def handlersFor (i : Invocation) : List Log.Handler :=
  Log.handlers (if i.verbose then Log.debugLevel else Log.warningLevel) i.logFile

def finish (handlers : List Log.Handler) (t : Transcript) : IO UInt32 := do
  let time ← clock
  t.events.forM (carryOut (← screen) handlers time)
  match t.result with
  | .ok code => return code.toUInt32
  | .error b =>
    IO.eprintln b.message
    return 1

def start (args : List String) : IO UInt32 := do
  match Invocation.read args with
  | .ok (some i) => finish (handlersFor i) (run (← worldFor i.action) args)
  | _ => finish [] (run ⟨⟨[]⟩, [], [], unconnected, fun _ => ⟨"", 0⟩, 1, "", variablesFrom ⟨[]⟩, ← screen⟩ args)

end FieldTemplates.Program

def main (args : List String) : IO UInt32 :=
  FieldTemplates.Program.start (args.map fun s =>
    String.ofList (FieldTemplates.Text.Half.holdAll s.toList))
