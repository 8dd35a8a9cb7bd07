import FieldTemplates.Number.Numeral
import FieldTemplates.Text.Quoted
import FieldTemplates.Value.Basic

namespace FieldTemplates.Assistant

-- Overrides put any value in place of a setting.
structure Settings where
  apiKey : Value := .text ""
  endpoint : Value := .text "https://api.aimlapi.com/v1/chat/completions"
  model : Value := .text "gpt-3.5-turbo"
  maxTokens : Value := .int 1500
  temperature : Value := .real (.ofDecimal false 3 (-1))
  timeout : Value := .int 30

-- Why a file of variables cannot be read: its bytes are no text, or what it says is no variable.
inductive VariablesError where
  | undecodable (message : String)
  | invalid (message : String)
deriving DecidableEq, Repr

def VariablesError.message : VariablesError → String
  | .undecodable message => message
  | .invalid message => message

-- What an environment becomes when a file of variables is read into it: the file that is named, or
-- else one that is looked for. It is read elsewhere.
abbrev Variables := Option String → Table String → Except VariablesError (Table String)

inductive SettingsError where
  | unread (e : VariablesError)
  | noInteger (e : Numeral.IntError)
  | noNumber (text : String)
deriving DecidableEq, Repr

def SettingsError.message : SettingsError → String
  | .unread e => e.message
  | .noInteger e => e.message
  | .noNumber s => "could not convert string to float: " ++ Text.quoted s

namespace Settings

def integer (variable_ : Option String) (default : Value) : Except SettingsError Value :=
  match variable_ with
  | none => .ok default
  | some s => ((Numeral.int s).map Value.int).mapError .noInteger

def number (variable_ : Option String) (default : Value) : Except SettingsError Value :=
  match variable_ with
  | none => .ok default
  | some s =>
    match Numeral.real? s with
    | some x => .ok (.real x)
    | none => .error (.noNumber s)

def word (variable_ : Option String) (default : Value) : Value :=
  (variable_.map Value.text).getD default

-- A variable that is set counts, even where it is empty.
def ofEnvironment (environment : Table String) : Except SettingsError Settings := do
  let variable_ (name : String) := Table.find? environment ("ACF_AI_" ++ name)
  let plain : Settings := {}
  let maxTokens ← integer (variable_ "MAX_TOKENS") plain.maxTokens
  let temperature ← number (variable_ "TEMPERATURE") plain.temperature
  let timeout ← integer (variable_ "TIMEOUT") plain.timeout
  .ok {
    apiKey := word (variable_ "API_KEY") plain.apiKey
    endpoint := word (variable_ "ENDPOINT") plain.endpoint
    model := word (variable_ "MODEL") plain.model
    maxTokens, temperature, timeout }

-- A file of variables is read first.
def load (read : Variables) (file : Option String) (environment : Table String) :
    Except SettingsError Settings := do
  ofEnvironment (← (read file environment).mapError .unread)

def toTable (s : Settings) : Table Value := [
  ("api_key", s.apiKey), ("endpoint", s.endpoint), ("model", s.model),
  ("max_tokens", s.maxTokens), ("temperature", s.temperature), ("timeout", s.timeout)]

def names : List String := Table.names ({} : Settings).toTable

def update (s : Settings) (t : Table Value) : Settings where
  apiKey := (Table.find? t "api_key").getD s.apiKey
  endpoint := (Table.find? t "endpoint").getD s.endpoint
  model := (Table.find? t "model").getD s.model
  maxTokens := (Table.find? t "max_tokens").getD s.maxTokens
  temperature := (Table.find? t "temperature").getD s.temperature
  timeout := (Table.find? t "timeout").getD s.timeout

-- Settings with the members of a table, which all have to be settings.
def update? (s : Settings) (t : Table Value) : Option Settings :=
  if (Table.names t).all names.contains then some (s.update t) else none

-- Overrides that are empty in any way say nothing.
def override? (s : Settings) (t : Table Value) : Option Settings :=
  s.update? (t.filter (·.2.truthy))

end Settings

end FieldTemplates.Assistant
