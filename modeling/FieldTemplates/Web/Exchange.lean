import FieldTemplates.Value.Basic

namespace FieldTemplates.Web

inductive Method where
  | get
  | post
deriving DecidableEq, Repr

def Method.name : Method → String
  | .get => "GET"
  | .post => "POST"

-- A call without headers or body leaves them to the transport.
structure Call where
  method : Method
  url : Value
  headers : Option (Table String) := none
  body : Option Value := none
  timeout : Value

inductive Reply where
  | timedOut (reason : String)
  -- An error status was reported without the answer it came with.
  | statusOnly (reason : String)
  | failed (reason : String)
  -- Whether the transport reports the status as an error, once it is asked; an answer whose body is
  -- no JSON has none.
  | answered (status : Int) (isError : Bool) (body : Option Value)

abbrev Transport := Call → Reply

end FieldTemplates.Web
