import FieldTemplates.Command.Arguments

namespace FieldTemplates.Command

def programName : String := "acf-generator"

def programVersion : String := "0.1.0"

-- Where an export comes from. Of several places the first that is given counts.
structure Origin where
  source : Option String := none
  url : Option String := none
  stdin : Bool := false
deriving DecidableEq, Repr

-- A word that says something; an empty one does not.
def given? : Option String → Option String
  | some "" => none
  | word => word

def Origin.path? (o : Origin) : Option String := given? o.source

def Origin.address? (o : Origin) : Option String := given? o.url

inductive Action where
  -- Keys that are null ask for every group.
  | snippets (origin : Origin) (keys : Value) (optionsFile : Option String)
      (overrides : Table Value)
  | groups (origin : Origin)
  | validate (origin : Origin)
  | ask (prompt : String) (save : Option String) (overrides : Table Value) (asCode : Bool)
  | types

structure Invocation where
  action : Action
  verbose : Bool
  logFile : Option String

def commandNames : List String := ["snippets", "groups", "validate", "ai", "types"]

def mainGrammar : Grammar where
  program := programName
  options := [⟨["-h", "--help"], "help", .help⟩, ⟨["--version"], "version", .version⟩]
  positional := some (.command "COMMAND" commandNames)

def commonOptions : List OptionSpec := [
  ⟨["-h", "--help"], "help", .help⟩, ⟨["--verbose", "-v"], "verbose", .flag⟩,
  ⟨["--log-file"], "log_file", .word⟩]

def originOptions : List OptionSpec := [⟨["--url"], "url", .word⟩, ⟨["--stdin"], "stdin", .flag⟩]

def withOrigin (name : String) (options : List OptionSpec) : Grammar where
  program := programName ++ " " ++ name
  options := commonOptions ++ originOptions ++ options
  positional := some (.optional "source")
  exclusive := ["source", "url", "stdin"]

def snippetsOptions : List OptionSpec := [
  ⟨["--group", "-g"], "groups", .words⟩, ⟨["--output", "-o"], "output_file", .word⟩,
  ⟨["--config"], "config", .word⟩, ⟨["--indent-size"], "indent_size", .integer⟩,
  ⟨["--use-tabs"], "use_tabs", .flag⟩, ⟨["--text-domain"], "text_domain", .word⟩,
  ⟨["--image-size"], "image_size", .word⟩]

def askOptions : List OptionSpec := [
  ⟨["--save"], "save", .word⟩, ⟨["--model"], "model", .word⟩, ⟨["--api-key"], "api_key", .word⟩,
  ⟨["--endpoint"], "endpoint", .word⟩, ⟨["--snippets"], "snippets", .flag⟩]

def askGrammar : Grammar where
  program := programName ++ " ai"
  options := commonOptions ++ askOptions
  positional := some (.required "prompt")

def typesGrammar : Grammar where
  program := programName ++ " types"
  options := commonOptions

def word? (values : Table Value) (key : String) : Option String :=
  match Table.find? values key with
  | some (.text s) => some s
  | _ => none

def flag (values : Table Value) (key : String) : Bool := Table.has values key

def originOf (values : Table Value) : Origin where
  source := word? values "source"
  url := word? values "url"
  stdin := flag values "stdin"

def select (values : Table Value) (keys : List String) : Table Value :=
  values.filter fun m => keys.contains m.1

-- The grammar of a command, and what its values ask for.
def actionOf (name : String) : Grammar × (Table Value → Action) :=
  match name with
  | "snippets" => (withOrigin name snippetsOptions, fun vs =>
      .snippets (originOf vs) ((Table.find? vs "groups").getD .null) (word? vs "config")
        (select vs ["output_file", "indent_size", "use_tabs", "text_domain", "image_size"]))
  | "groups" => (withOrigin name [], fun vs => .groups (originOf vs))
  | "validate" => (withOrigin name [], fun vs => .validate (originOf vs))
  | "ai" => (askGrammar, fun vs =>
      .ask (((Table.find? vs "prompt").map fun | .text s => s | _ => "").getD "")
        (word? vs "save") (select vs ["api_key", "model", "endpoint"]) (flag vs "snippets"))
  | _ => (typesGrammar, fun _ => .types)

-- What a command line asks for. Words that neither grammar knows are refused by the first one.
def Invocation.read (args : List String) : Except Stop (Option Invocation) := do
  let main_ ← mainGrammar.read args
  let refuse (words : List String) : Stop := .refused mainGrammar (.unrecognized words)
  match main_.command with
  | none => if main_.extras.isEmpty then .ok none else .error (refuse main_.extras)
  | some (name, rest) =>
    let (grammar, make) := actionOf name
    let r ← grammar.read rest
    let extras := main_.extras ++ r.extras
    if extras.isEmpty then
      .ok (some ⟨make r.values, flag r.values "verbose", word? r.values "log_file"⟩)
    else .error (refuse extras)

end FieldTemplates.Command
