import FieldTemplates.Number.Numeral
import FieldTemplates.Text.Quoted
import FieldTemplates.Value.Basic

namespace FieldTemplates.Command

inductive OptionKind where
  | flag
  | word
  | integer
  -- Every use adds an argument.
  | words
  | help
  | version
deriving DecidableEq, Repr

def OptionKind.takesArgument : OptionKind → Bool
  | .word | .integer | .words => true
  | .flag | .help | .version => false

structure OptionSpec where
  names : List String
  key : String
  kind : OptionKind
deriving DecidableEq, Repr

def OptionSpec.label (o : OptionSpec) : String := "/".intercalate o.names

inductive Positional where
  | optional (name : String)
  | required (name : String)
  -- A command takes everything that follows it.
  | command (name : String) (choices : List String)
deriving DecidableEq, Repr

def Positional.name : Positional → String
  | optional name => name
  | required name => name
  | command name _ => name

structure Grammar where
  program : String
  options : List OptionSpec
  positional : Option Positional := none
  -- Keys of which at most one may be given.
  exclusive : List String := []

namespace Grammar

def find? (g : Grammar) (name : String) : Option OptionSpec :=
  g.options.find? (·.names.contains name)

-- Every name of an option, in order.
def allNames (g : Grammar) : List (String × OptionSpec) :=
  g.options.flatMap fun o => o.names.map (·, o)

-- How messages call what a key belongs to.
def labelOf (g : Grammar) (key : String) : String :=
  ((g.options.find? (·.key == key)).map OptionSpec.label).getD key

def usageOf (o : OptionSpec) : String :=
  let name := o.names.headD ""
  if o.kind.takesArgument then s!"[{name} {o.key.toUpper}]" else s!"[{name}]"

def usage (g : Grammar) : String :=
  let positional := match g.positional with
    | none => []
    | some (.optional name) => [s!"[{name}]"]
    | some (.required name) => [name]
    | some (.command name _) => [name, "..."]
  "usage: " ++ " ".intercalate (g.program :: g.options.map usageOf ++ positional) ++ "\n"

end Grammar

inductive Fault where
  | ambiguous (word : String) (names : List String)
  | needlessArgument (label argument : String)
  | noArgument (label : String)
  | excluded (label other : String)
  | noInteger (label argument : String)
  | noChoice (label argument : String) (choices : List String)
  | missing (names : List String)
  | unrecognized (words : List String)
deriving DecidableEq, Repr

def Fault.message : Fault → String
  | .ambiguous word names =>
    s!"ambiguous option: {word} could match " ++ ", ".intercalate names
  | .needlessArgument label a =>
    s!"argument {label}: ignored explicit argument {Text.quoted a}"
  | .noArgument label => s!"argument {label}: expected one argument"
  | .excluded label other => s!"argument {label}: not allowed with argument {other}"
  | .noInteger label a => s!"argument {label}: invalid int value: {Text.quoted a}"
  | .noChoice label a choices =>
    s!"argument {label}: invalid choice: {Text.quoted a} (choose from " ++
      ", ".intercalate (choices.map Text.quoted) ++ ")"
  | .missing names => "the following arguments are required: " ++ ", ".intercalate names
  | .unrecognized words => "unrecognized arguments: " ++ " ".intercalate words

-- What ends the reading of a command line before anything is done.
inductive Stop where
  | help (g : Grammar)
  | version
  | refused (g : Grammar) (fault : Fault)

end FieldTemplates.Command
