import FieldTemplates.Command.Grammar

namespace FieldTemplates.Command

-- An option as a word names it, with the argument that the word holds.
structure Naming where
  option : OptionSpec
  long : Bool
  argument : Option (List Char)
deriving DecidableEq, Repr

inductive Word where
  | plain (text : String)
  | option (text : String) (naming : Naming)
  -- It looks like an option and is none.
  | stray (text : String)
  | divider
deriving DecidableEq, Repr

def Word.text : Word → String
  | .plain s => s
  | .stray s => s
  | .option s _ => s
  | .divider => "--"

def Word.isOption : Word → Bool
  | .option _ _ | .stray _ => true
  | .plain _ | .divider => false

def isLong (name : List Char) : Bool := "--".toList.isPrefixOf name

-- The words before and after the first `=`, if there is one.
def splitEquals (cs : List Char) : List Char × Option (List Char) :=
  match cs.span (· != '=') with
  | (name, _ :: rest) => (name, some rest)
  | (name, []) => (name, none)

-- What a word may mean that is no whole name of an option.
def readings (g : Grammar) (cs : List Char) : List (String × Naming) :=
  if isLong cs then
    let (start, argument) := splitEquals cs
    (g.allNames.filter fun n => start.isPrefixOf n.1.toList).map fun (name, o) =>
      (name, ⟨o, true, argument⟩)
  else g.allNames.filterMap fun (name, o) =>
    if name.toList = cs.take 2 then some (name, ⟨o, false, some (cs.drop 2)⟩)
    else if cs.isPrefixOf name.toList then some (name, ⟨o, isLong name.toList, none⟩)
    else none

def isNumberDigit (c : Char) : Bool := (Text.digit? c).isSome

-- Whether a word reads as a negative number.
def isNegativeNumber (cs : List Char) : Bool :=
  match cs with
  | '-' :: ds =>
    let ds := if ds.getLast? == some '\n' then ds.dropLast else ds
    let (whole, rest) := ds.span isNumberDigit
    match rest with
    | [] => !whole.isEmpty
    | '.' :: part => !part.isEmpty && part.all isNumberDigit
    | _ => false
  | _ => false

def wholeName? (g : Grammar) (cs : List Char) : Option Naming :=
  match g.find? (String.ofList cs) with
  | some o => some ⟨o, isLong cs, none⟩
  | none =>
    match splitEquals cs with
    | (name, some argument) =>
      (g.find? (String.ofList name)).map fun o => ⟨o, isLong name, some argument⟩
    | (_, none) => none

def classify (g : Grammar) (s : String) : Except Fault Word :=
  let cs := s.toList
  if cs.head? != some '-' then .ok (.plain s)
  else match wholeName? g cs with
    | some n => .ok (.option s n)
    | none =>
      if cs.length = 1 then .ok (.plain s)
      else match readings g cs with
        | [(_, n)] => .ok (.option s n)
        | [] => .ok (if isNegativeNumber cs || cs.contains ' ' then .plain s else .stray s)
        | ns => .error (.ambiguous s (ns.map (·.1)))

def classifyAll (g : Grammar) : List String → Except Fault (List Word)
  | [] => .ok []
  | s :: ss =>
    if s = "--" then .ok (.divider :: ss.map .plain)
    else do .ok ((← classify g s) :: (← classifyAll g ss))

-- What has been read so far.
structure Reading where
  values : Table Value := []
  command : Option (String × List String) := none
  extras : List String := []

def Reading.has (r : Reading) (key : String) : Bool := Table.has r.values key

-- A lone `--` is no argument, which leaves an empty list in its place.
def argumentValue (s : String) : Value := if s = "--" then .list [] else .text s

-- Sets a key, unless one that it excludes is set.
def Reading.put (r : Reading) (g : Grammar) (key : String) (v : Value) : Except Fault Reading :=
  let others := if g.exclusive.contains key then g.exclusive.filter (· != key) else []
  match others.find? r.has with
  | some other => .error (.excluded (g.labelOf key) (g.labelOf other))
  | none => .ok { r with values := r.values.put key v }

def Reading.append (r : Reading) (key : String) (v : Value) : Reading :=
  let known := match Table.find? r.values key with
    | some (.list vs) => vs
    | _ => []
  { r with values := r.values.put key (.list (known ++ [v])) }

-- One use of an option; those without an argument ignore it.
def Reading.use (r : Reading) (g : Grammar) (o : OptionSpec) (argument : String) :
    Except Stop Reading :=
  let checked (e : Except Fault Reading) : Except Stop Reading := e.mapError (.refused g)
  match o.kind with
  | .help => .error (.help g)
  | .version => .error .version
  | .flag => checked (r.put g o.key (.bool true))
  | .word => checked (r.put g o.key (argumentValue argument))
  | .words => .ok (r.append o.key (argumentValue argument))
  | .integer =>
    match argumentValue argument with
    | .text s =>
      match Numeral.int s with
      | .ok n => checked (r.put g o.key (.int n))
      | .error _ => .error (.refused g (.noInteger o.label s))
    | v => checked (r.put g o.key v)

-- The options that one word names, each with the argument that the word holds for it.
def joined (g : Grammar) (o : OptionSpec) (long : Bool) :
    List Char → Except Fault (List (OptionSpec × Option (List Char)))
  | [] =>
    if o.kind.takesArgument then .ok [(o, some [])] else .error (.needlessArgument o.label "")
  | c :: cs =>
    if o.kind.takesArgument then .ok [(o, some (c :: cs))]
    else
      let refused : Fault := .needlessArgument o.label (String.ofList (c :: cs))
      if long then .error refused
      else match g.find? (String.ofList ['-', c]) with
        | none => .error refused
        | some next =>
          if cs.isEmpty then .ok [(o, none), (next, none)]
          else (joined g next false cs).map ((o, none) :: ·)

def Naming.uses (n : Naming) (g : Grammar) :
    Except Fault (List (OptionSpec × Option (List Char))) :=
  match n.argument with
  | none => .ok [(n.option, none)]
  | some cs => joined g n.option n.long cs

-- Whether the word leaves an argument to the next one.
def wantsMore (uses : List (OptionSpec × Option (List Char))) : Bool :=
  match uses.getLast? with
  | some (o, none) => o.kind.takesArgument
  | _ => false

def lastLabel (uses : List (OptionSpec × Option (List Char))) : String :=
  (uses.getLast?.map fun u => u.1.label).getD ""

def Reading.useAll (r : Reading) (g : Grammar) (next : String) :
    List (OptionSpec × Option (List Char)) → Except Stop Reading
  | [] => .ok r
  | (o, argument) :: uses => do
    let r ← r.use g o ((argument.map String.ofList).getD next)
    r.useAll g next uses

def Reading.extra (r : Reading) (words : List String) : Reading :=
  { r with extras := r.extras ++ words }

-- A command has to be one of the choices, and the rest belongs to it.
def Reading.enter (r : Reading) (g : Grammar) (label : String) (choices : List String) :
    List String → Except Stop Reading
  | [] => .ok r
  | name :: rest =>
    if choices.contains name then .ok { r with command := some (name, rest) }
    else .error (.refused g (.noChoice label name choices))

-- The words behind the last option, in which a divider may stand.
def Reading.finish (r : Reading) (g : Grammar) (open_ : Option Positional) (words : List Word) :
    Except Stop Reading :=
  let texts := words.map Word.text
  let body := match words with
    | .divider :: rest => rest
    | rest => rest
  match open_, body with
  | none, _ => .ok (r.extra texts)
  | some (.optional _), [] => .ok r
  | some _, [] => .ok (r.extra texts)
  | some (.command label choices), _ => r.enter g label choices texts
  | some p, first :: rest =>
    let rest := match rest with
      | .divider :: rest => rest
      | rest => rest
    ((r.put g p.name (.text first.text)).mapError (.refused g)).map (·.extra (rest.map Word.text))

def readWords (g : Grammar) (r : Reading) (open_ : Option Positional) (words : List Word) :
    Except Stop Reading :=
  match words with
  | [] => r.finish g open_ []
  | .divider :: ws => r.finish g open_ (.divider :: ws)
  | .stray s :: ws => readWords g (r.extra [s]) open_ ws
  | .option _ n :: ws =>
    match n.uses g with
    | .error e => .error (.refused g e)
    | .ok uses =>
      if wantsMore uses then
        match ws with
        | .plain s :: ws => do readWords g (← r.useAll g s uses) open_ ws
        | _ => .error (.refused g (.noArgument (lastLabel uses)))
      else do readWords g (← r.useAll g "" uses) open_ ws
  | .plain s :: ws =>
    if !ws.any Word.isOption then r.finish g open_ (.plain s :: ws)
    else match open_ with
      | none => readWords g (r.extra [s]) none ws
      | some (.command label choices) => r.enter g label choices (s :: ws.map Word.text)
      | some p =>
        match r.put g p.name (.text s) with
        | .error e => .error (.refused g e)
        | .ok r => readWords g r none ws
termination_by words.length

-- Positional arguments that are required and were not given.
def missing (g : Grammar) (r : Reading) : List String :=
  match g.positional with
  | some (.required name) => if r.has name then [] else [name]
  | _ => []

def Grammar.read (g : Grammar) (args : List String) : Except Stop Reading := do
  let words ← (classifyAll g args).mapError (.refused g)
  let r ← readWords g {} g.positional words
  match missing g r with
  | [] => .ok r
  | names => .error (.refused g (.missing names))

end FieldTemplates.Command
