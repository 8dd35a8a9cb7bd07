import FieldTemplates.Assistant.Prompt
import FieldTemplates.Export
import FieldTemplates.Json.Decode
import FieldTemplates.Log.Entry
import FieldTemplates.Text.Blank
import FieldTemplates.Text.Fence

namespace FieldTemplates.Assistant

inductive Failure where
  | missingKey
  | noReply (reason : String)
  | noContent
  | noJson (problem : Json.Problem) (content : List Char)
  | noExport (problems : List Export.Problem) (content : List Char)

namespace Failure

def message : Failure → String
  | missingKey => "API key is not set."
  | noReply reason => s!"Request failed: {reason}"
  | noContent => "No valid response from API."
  | noJson problem _ => s!"Invalid JSON response: {problem.message}"
  | noExport problems _ =>
    "Invalid field group schema: " ++ "; ".intercalate (problems.map Export.Problem.message)

def kind : Failure → String
  | missingKey => "missing_api_key"
  | noReply _ => "request_failed"
  | noContent => "no_response"
  | noJson _ _ => "invalid_json"
  | noExport _ _ => "invalid_schema"

-- What the assistant wrote, where it wrote anything.
def content? : Failure → Option String
  | noJson _ cs => some (String.ofList cs)
  | noExport _ cs => some (String.ofList cs)
  | _ => none

def problems : Failure → List Export.Problem
  | noExport ps _ => ps
  | _ => []

end Failure

-- The text that the first choice of a reply body holds, trimmed; blank text is none.
def contentOf (body : Value) : Option (List Char) :=
  match body.member? "choices" with
  | some (.list (first :: _)) =>
    match (first.member? "message").bind (·.member? "content") with
    | some (.text s) =>
      let cs := Text.trim s.toList
      if cs.isEmpty then none else some cs
    | _ => none
  | _ => none

-- Field groups or a failure. A document beyond the limits is neither.
abbrev Outcome := Except Json.Limit (Except Failure (List Value))

-- A group that stands alone is put into a list.
def wrapped (v : Value) : Value :=
  match v with
  | .object members => if Table.has members "key" then .list [v] else v
  | _ => v

-- The groups of a mapping without their names; a list is handed over as it is.
def groupsIn : Value → List Value
  | .object members => Table.values members
  | .list items => items
  | _ => []

-- The field groups in what the assistant wrote: those of its first fenced block, or of all of it.
def decodeContent (content : List Char) : Outcome :=
  match Json.decode (Text.Fence.content content) with
  | .error (.refused e) => .ok (.error (.noJson e.problem content))
  | .error (.beyond l) => .error l
  | .ok v =>
    let v := wrapped v
    match Export.problems v with
    | [] => .ok (.ok (groupsIn v))
    | ps => .ok (.error (.noExport ps content))

-- The status of a reply does not matter, only its body.
def decodeReply : Web.Reply → Outcome
  | .answered _ _ body =>
    match body.bind contentOf with
    | none => .ok (.error .noContent)
    | some content => decodeContent content
  | .timedOut reason => .ok (.error (.noReply reason))
  | .statusOnly reason => .ok (.error (.noReply reason))
  | .failed reason => .ok (.error (.noReply reason))

structure Answer where
  result : Except Failure (List Value)
  calls : List Web.Call

-- Without a key nothing is asked.
def ask (send : Web.Transport) (s : Settings) (prompt : String) : Except Json.Limit Answer :=
  if s.apiKey.truthy then
    let call := callFor s prompt
    (decodeReply (send call)).map fun result => ⟨result, [call]⟩
  else .ok ⟨.error .missingKey, []⟩

namespace Answer

def data (a : Answer) : List Value :=
  match a.result with
  | .ok groups => groups
  | .error _ => []

def log (a : Answer) : List Log.Entry :=
  match a.result with
  | .ok _ => []
  | .error e => [Log.error s!"AI generation failed: {e.message}"]

def toTable (a : Answer) : Table Value :=
  match a.result with
  | .ok groups => [
      ("status", .text "success"), ("data", .list groups),
      ("raw", .text (Json.encode (.list groups)))]
  | .error e => [
      ("status", .text "error"), ("message", .text e.message), ("error_type", .text e.kind)] ++
      (e.content?.map fun s => ("raw_response", Value.text s)).toList

end Answer

end FieldTemplates.Assistant
