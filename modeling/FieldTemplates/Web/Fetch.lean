import FieldTemplates.Value.Display
import FieldTemplates.Web.Exchange
import FieldTemplates.Web.Url

namespace FieldTemplates.Web

inductive FetchError where
  | unreadable (e : Url.Error)
  | invalid (url : String)
  | timedOut (url : String) (timeout : Value)
  | status (url : String) (code : Int)
  | unknownStatus
  | failed (url reason : String)
  | noJson (url : String)

namespace FetchError

def message : FetchError → String
  | unreadable e => e.message
  | invalid url => s!"Invalid URL: {url}"
  | timedOut url timeout => s!"Request timed out after {timeout.display}s: {url}"
  | status url code => s!"HTTP {code} from {url}"
  | unknownStatus => ""
  | failed url reason => s!"Request to {url} failed: {reason}"
  | noJson url => s!"Response from {url} is not JSON"

-- Whether the error is one of loading, which callers answer for, and no breakdown.
def isLoading : FetchError → Bool
  | unreadable _ | unknownStatus => false
  | _ => true

end FetchError

def defaultTimeout : Value := .int 30

-- The call for an address, unless the address cannot be asked.
def callFor (url : String) (timeout : Value) : Except FetchError Call :=
  match Url.ofText url with
  | .error e => .error (.unreadable e)
  | .ok u =>
    if u.isWeb then .ok { method := .get, url := .text url, timeout } else .error (.invalid url)

-- The document of a reply. An error status is asked for before the body.
def documentOf (url : String) (timeout : Value) : Reply → Except FetchError Value
  | .timedOut _ => .error (.timedOut url timeout)
  | .statusOnly _ => .error .unknownStatus
  | .failed reason => .error (.failed url reason)
  | .answered code isError body =>
    if isError then .error (.status url code)
    else match body with
      | none => .error (.noJson url)
      | some v => .ok v

structure Fetched where
  result : Except FetchError Value
  calls : List Call

def fetch (send : Transport) (url : String) (timeout : Value := defaultTimeout) : Fetched :=
  match callFor url timeout with
  | .error e => ⟨.error e, []⟩
  | .ok call => ⟨documentOf url timeout (send call), [call]⟩

end FieldTemplates.Web
