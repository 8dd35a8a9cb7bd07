import FieldTemplates.Host.Handler.Expression
import FieldTemplates.Text.Blank
import FieldTemplates.Text.Quoted
import FieldTemplates.Text.Utf8

namespace FieldTemplates.Host.Handler

inductive Refused where
  | expression (literal said : List Char) (f : Fault)
  | value (said : List Char) (r : Refusal)
  | unencodable (said : List Char) (e : Text.Utf8.EncodeError)
  | nullCharacter (said : List Char)
deriving DecidableEq, Repr

def shown (cs : List Char) : String := Text.quoted (String.ofList cs)

def Refused.message : Refused → String
  | .expression literal said f => s!"error parsing {shown literal} in {shown said}; {f.message}"
  | .value said r => s!"error parsing {shown said}; {r.message}"
  | .unencodable said e => s!"error parsing {shown said}; {e.message}"
  | .nullCharacter said =>
    s!"error parsing {shown said}; source code string cannot contain null bytes"

def isNameChar (c : Char) : Bool := isWordChar c && isLetter c

-- The arguments in brackets behind a name, or everything where there is no such form.
def literalOf (said : List Char) : List Char :=
  let cs := Text.trim said
  match cs.dropWhile fun c => isNameChar c || c == '.' with
  | [] => "()".toList
  | '(' :: inside =>
    if inside.getLast? == some ')' && !inside.contains '\n' then '(' :: inside else cs
  | _ => cs

def check (said : List Char) : Except Refused Unit := do
  let literal := literalOf said
  let _ ← (Text.Utf8.encode literal).mapError (.unencodable said)
  if literal.contains '\x00' then throw (.nullCharacter said)
  let a ← (read literal).mapError (.expression literal said)
  match a.meaning with
  | .refused r => throw (.value said r)
  | _ => return ()

end FieldTemplates.Host.Handler
