import FieldTemplates.Data.Table
import FieldTemplates.Files.Path
import FieldTemplates.Text.Quoted

namespace FieldTemplates.Files

inductive Node where
  | file (bytes : List UInt8)
  | directory
  -- It takes what is written and holds nothing; a full one takes nothing.
  | device (full : Bool)
deriving DecidableEq, Repr

-- Nodes by their steps, seen from the working directory; a root is a first step. Parents need no
-- entry of their own.
structure Tree where
  nodes : List (List String × Node)

-- The reasons why a path leads nowhere or cannot be written.
inductive SystemError where
  | noSuchFile
  | notDirectory
  | isDirectory
  | noSpace
  | nameTooLong
deriving DecidableEq, Repr

def SystemError.message (path : String) : SystemError → String
  | .noSuchFile => "[Errno 2] No such file or directory: " ++ Text.quoted path
  | .notDirectory => "[Errno 20] Not a directory: " ++ Text.quoted path
  | .isDirectory => "[Errno 21] Is a directory: " ++ Text.quoted path
  | .noSpace => "[Errno 28] No space left on device"
  | .nameTooLong => "[Errno 36] File name too long: " ++ Text.quoted path

namespace Tree

def rootStep : String := "/"

-- The working directory, those above it, and the root are always there.
def nodeAt? (t : Tree) (steps : List String) : Option Node :=
  if steps.all (· == "..") || steps == [rootStep] then some .directory
  else match t.nodes.lookup steps with
    | some n => some n
    | none => if t.nodes.any (fun e => steps.isPrefixOf e.1) then some .directory else none

-- The directory that `..` leads to. The root has none above it.
def parent (steps : List String) : List String :=
  match steps.getLast? with
  | none | some ".." => steps ++ [".."]
  | some _ => if steps = [rootStep] then steps else steps.dropLast

-- The most bytes of a name, and the least that make a path too long.
def maxName : Nat := 255

def maxPath : Nat := 4096

def isLongName (step : String) : Bool :=
  ((Text.Utf8.encodeName step.toList).toOption.getD []).length > maxName

-- Follows the steps from a directory.
def walk (t : Tree) (at_ : List String) : List String → Except SystemError (List String)
  | [] => .ok at_
  | step :: steps =>
    match t.nodeAt? at_ with
    | none => .error .noSuchFile
    | some (.file _) | some (.device _) => .error .notDirectory
    | some .directory =>
      if isLongName step then .error .nameTooLong
      else if step = ".." then t.walk (parent at_) steps
      else t.walk (at_ ++ [step]) steps

-- The place that a path leads to, whether or not something is there.
def place (t : Tree) (p : Path) : Except SystemError (List String) :=
  match p.bytes with
  | .error _ => .error .noSuchFile
  | .ok bytes =>
    if maxPath ≤ bytes.length then .error .nameTooLong
    else t.walk (if p.root = "" then [] else [rootStep]) p.steps

-- What is at a path, if anything is. Names that are too long are no answer.
def find? (t : Tree) (p : Path) : Except SystemError (Option Node) :=
  match t.place p with
  | .ok steps => .ok (t.nodeAt? steps)
  | .error .nameTooLong => .error .nameTooLong
  | .error _ => .ok none

def isDirectory (t : Tree) (p : Path) : Except SystemError Bool :=
  (t.find? p).map (· == some .directory)

def read? (t : Tree) (p : Path) : Option (List UInt8) :=
  match t.find? p with
  | .ok (some (.file bytes)) => some bytes
  | _ => none

-- The name of the entry of a directory that a node stands for or lies under.
def entryName? (directory steps : List String) : Option String :=
  if directory.isPrefixOf steps then (steps.drop directory.length).head? else none

-- The names in a directory, each once, in order of their code points.
def entries (t : Tree) (p : Path) : List String :=
  match t.place p with
  | .ok steps =>
    let names := (t.nodes.filterMap fun e => entryName? steps e.1).eraseDups
    Text.sorted names
  | .error _ => []

-- The files below a directory, by their paths from there.
def filesBelow (t : Tree) (p : Path) : List String :=
  match t.place p with
  | .ok steps =>
    t.nodes.filterMap fun
      | (path, .file _) =>
        if steps.isPrefixOf path then some ("/".intercalate (path.drop steps.length)) else none
      | _ => none
  | .error _ => []

def put (t : Tree) (steps : List String) (n : Node) : Tree :=
  ⟨t.nodes.filter (·.1 != steps) ++ [(steps, n)]⟩

inductive WriteError where
  | path (f : Path.Fault)
  | system (e : SystemError)
  | text (e : Text.Utf8.EncodeError)
deriving DecidableEq, Repr

-- The place of a file that can be written: its directory is there, and no directory stands in its
-- place.
def openPlace (t : Tree) (p : Path) : Except SystemError (List String) := do
  let steps ← t.place p
  match t.nodeAt? steps with
  | some .directory => .error .isDirectory
  | some _ => .ok steps
  | none =>
    match t.nodeAt? steps.dropLast with
    | some .directory => .ok steps
    | some _ => .error .notDirectory
    | none => .error .noSuchFile

-- The file is opened before its text is encoded.
def write (t : Tree) (p : Path) (text : List Char) : Except WriteError Tree := do
  let _ ← p.bytes.mapError .path
  let steps ← (t.openPlace p).mapError .system
  let bytes ← (Text.Utf8.encode text).mapError .text
  match t.nodeAt? steps with
  | some (.device full) => if full then .error (.system .noSpace) else .ok t
  | _ => .ok (t.put steps (.file bytes))

end Tree

end FieldTemplates.Files
