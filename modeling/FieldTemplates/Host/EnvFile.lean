import FieldTemplates.Assistant.Settings
import FieldTemplates.Files.Tree
import FieldTemplates.Text.Blank
import FieldTemplates.Text.Lines
import FieldTemplates.Text.LowerCase
import FieldTemplates.Text.Utf8

namespace FieldTemplates.Host.EnvFile

-- A name that stands alone has no value.
structure Binding where
  name : List Char
  value : Option (List Char)
deriving DecidableEq, Repr

def isSpace (c : Char) : Bool := Text.isBlank c && c != '\n'

def skipSpace (cs : List Char) : List Char := cs.dropWhile isSpace

def toLineEnd (cs : List Char) : List Char := cs.dropWhile (· != '\n')

def skipExport (cs : List Char) : List Char :=
  let word := "export".toList
  if word.isPrefixOf cs then
    let rest := cs.drop word.length
    if rest.head?.any isSpace then skipSpace rest else cs
  else cs

-- A reading step goes on with the rest, or gives up where it stands. No name stands before a
-- comment.
def readName (cs : List Char) : Except (List Char) (Option (List Char) × List Char) :=
  match cs with
  | '#' :: _ => .ok (none, cs)
  | '\'' :: inside =>
    match inside.span (· != '\'') with
    | (_ :: _, []) | ([], _) => .error cs
    | (name, _ :: rest) => .ok (some name, rest)
  | _ =>
    match cs.span fun c => c != '=' && c != '#' && !Text.isBlank c with
    | ([], _) => .error cs
    | (name, rest) => .ok (some name, rest)

-- What stands before the closing mark, and what follows. A backslash takes the next character
-- along, which must not be a line end.
def untilMark (mark : Char) : List Char → Option (List Char × List Char)
  | [] => none
  | '\\' :: c :: cs =>
    if c = '\n' then none
    else (untilMark mark cs).map fun (inside, rest) => ('\\' :: c :: inside, rest)
  | c :: cs =>
    if c = mark then some ([], cs)
    else (untilMark mark cs).map fun (inside, rest) => (c :: inside, rest)

def unescape (meaning : Char → Option Char) : List Char → List Char
  | '\\' :: c :: cs =>
    match meaning c with
    | some d => d :: unescape meaning cs
    | none => '\\' :: unescape meaning (c :: cs)
  | c :: cs => c :: unescape meaning cs
  | [] => []

def inSingleQuotes : Char → Option Char
  | '\\' => some '\\'
  | '\'' => some '\''
  | _ => none

def inDoubleQuotes : Char → Option Char
  | '\\' => some '\\'
  | '\'' => some '\''
  | '"' => some '"'
  | 'a' => some '\x07'
  | 'b' => some '\x08'
  | 'f' => some '\x0c'
  | 'n' => some '\n'
  | 'r' => some '\r'
  | 't' => some '\t'
  | 'v' => some '\x0b'
  | _ => none

-- A comment behind a value starts with blanks.
def cutComment : List Char → List Char
  | [] => []
  | c :: cs =>
    if Text.isBlank c && (cs.dropWhile Text.isBlank).head? == some '#' then []
    else c :: cutComment cs

-- What follows the equals sign.
def readValue (cs : List Char) : Except (List Char) (List Char × List Char) :=
  match skipSpace cs with
  | '\'' :: inside =>
    match untilMark '\'' inside with
    | some (value, rest) => .ok (unescape inSingleQuotes value, rest)
    | none => .error cs
  | '"' :: inside =>
    match untilMark '"' inside with
    | some (value, rest) => .ok (unescape inDoubleQuotes value, rest)
    | none => .error cs
  | _ =>
    let (value, rest) := cs.span (· != '\n')
    .ok (Text.trim (cutComment value), rest)

def skipComment (cs : List Char) : List Char :=
  match skipSpace cs with
  | '#' :: rest => toLineEnd rest
  | _ => cs

def readLineEnd (cs : List Char) : Except (List Char) (List Char) :=
  match skipSpace cs with
  | [] => .ok []
  | '\n' :: rest => .ok rest
  | _ => .error cs

def readBinding (cs : List Char) : Except (List Char) (Option Binding × List Char) := do
  let (name, rest) ← readName (skipExport cs)
  let (value, rest) ← match skipSpace rest with
    | '=' :: rest => (readValue rest).map fun (value, rest) => (some value, rest)
    | rest => .ok (none, rest)
  let rest ← readLineEnd (skipComment rest)
  .ok (name.map fun name => ⟨name, value⟩, rest)

-- Each round takes at least one character; one that took none would end the reading.
def bindings (cs : List Char) : List Binding :=
  let start := cs.dropWhile Text.isBlank
  if start.isEmpty then []
  else
    let (found, rest) := match readBinding start with
      | .ok (found, rest) => (found, rest)
      | .error rest => (none, (toLineEnd rest).drop 1)
    if rest.length < cs.length then found.toList ++ bindings rest else found.toList
termination_by cs.length

-- What a reference between braces names, and what stands for it where it is not set.
def reference? (inside : List Char) : Option (List Char × List Char) :=
  match inside.span (· != ':') with
  | (name, []) => some (name, [])
  | (name, ':' :: '-' :: default) => some (name, default)
  | _ => none

-- Puts values in place of references. What looks like a reference and is none stays.
def expand (lookUp : List Char → Option (List Char)) : List Char → List Char
  | [] => []
  | '$' :: '\x7b' :: cs =>
    match (cs.dropWhile (· != '\x7d')).isEmpty, reference? (cs.takeWhile (· != '\x7d')) with
    | false, some (name, default) =>
      (lookUp name).getD default ++ expand lookUp ((cs.dropWhile (· != '\x7d')).drop 1)
    | _, _ => '$' :: expand lookUp ('\x7b' :: cs)
  | c :: cs => c :: expand lookUp cs
termination_by cs => cs.length
decreasing_by
  · have h := (List.dropWhile_suffix (· != '\x7d') (l := cs)).length_le
    simp only [List.length_drop, List.length_cons]
    omega
  · simp
  · simp

-- The values of a file, in which variables that are set go before earlier lines.
def resolve (environment : Table String) (bs : List Binding) : Table (Option String) :=
  bs.foldl (fun known b =>
    let lookUp (name : List Char) : Option (List Char) :=
      let name := String.ofList name
      match Table.find? environment name, Table.find? known name with
      | some s, _ => some s.toList
      | none, some s => some ((s.map String.toList).getD [])
      | none, none => none
    known.put (String.ofList b.name) (b.value.map fun cs => String.ofList (expand lookUp cs))) []

inductive Error where
  | undecodable (e : Text.Utf8.Error)
  -- A path, name or value with a null character.
  | nullCharacter
  -- A name with an equals sign.
  | illegalName
deriving Repr

def Error.message : Error → String
  | .undecodable e => e.message
  | .nullCharacter => "embedded null byte"
  | .illegalName => "illegal environment variable name"

def hasNull (s : String) : Bool := s.toList.contains '\x00'

-- Variables that are set stay as they are.
def define (environment : Table String) (m : String × Option String) :
    Except Error (Table String) :=
  match m.2 with
  | none => .ok environment
  | some value =>
    if Table.has environment m.1 then .ok environment
    else if hasNull m.1 || hasNull value then .error .nullCharacter
    else if m.1.toList.contains '=' then .error .illegalName
    else .ok (environment.put m.1 value)

def extend (environment : Table String) (cs : List Char) : Except Error (Table String) :=
  (resolve environment (bindings cs)).foldlM define environment

-- A byte order mark at the front is no part of the text.
def withoutMark : List Char → List Char
  | '\uFEFF' :: cs => cs
  | cs => cs

-- Whether the value of a switch turns files off.
def turnsOff (value : String) : Bool :=
  ["1", "true", "t", "yes", "y"].contains
    (Text.lower (value.map fun c => if c = 'ſ' then 's' else c))

-- A path that ends in a slash, or in a dot behind one, names no file.
def namesFile (path : String) : Bool := !path.endsWith "/" && !path.endsWith "/."

-- A file that is not there says nothing. The host names the variable that turns files off.
def load (files : Files.Tree) (switch path : String) (environment : Table String) :
    Except Error (Table String) :=
  if (Table.find? environment switch).any turnsOff then .ok environment
  else if hasNull path then .error .nullCharacter
  else match if namesFile path then files.read? (.ofText path) else none with
    | none => .ok environment
    | some bytes => do
      let cs ← (Text.Utf8.decode bytes).mapError .undecodable
      extend environment (withoutMark (Text.plainNewlines cs))

-- Without a path no file is found.
def reader (files : Files.Tree) (switch : String) : Assistant.Variables := fun path environment =>
  match path with
  | none => .ok environment
  | some path => (load files switch path environment).mapError fun
    | .undecodable e => .undecodable e.message
    | e => .invalid e.message

end FieldTemplates.Host.EnvFile
