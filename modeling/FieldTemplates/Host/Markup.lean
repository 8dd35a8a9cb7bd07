import FieldTemplates.Host.Emoji
import FieldTemplates.Host.Handler
import FieldTemplates.Host.Style

namespace FieldTemplates.Host.Markup

-- A tag, or text that stands as it is. Positions count characters from the start.
inductive Part where
  | text (cs : List Char)
  | tag (position : Nat) (inside : List Char)
deriving DecidableEq, Repr

def startsTag (c : Char) : Bool := ('a' ≤ c && c ≤ 'z') || c == '#' || c == '/' || c == '@'

-- What stands between the brackets of a tag that opens here, and what follows.
def tagInside? : List Char → Option (List Char × List Char)
  | '[' :: c :: cs =>
    if startsTag c then
      match cs.span fun d => d != '[' && d != ']' with
      | (inside, ']' :: rest) => some (c :: inside, rest)
      | _ => none
    else none
  | _ => none

-- Backslashes in front of a tag stand in pairs for themselves; one that is left makes text of
-- the tag.
def escaped (position slashes : Nat) (inside : List Char) : List Part :=
  .text (List.replicate (slashes / 2) '\\') ::
    if slashes % 2 = 0 then [.tag (position + slashes) inside]
    else [.text ('[' :: inside ++ [']'])]

def addChar (c : Char) : List Part → List Part
  | .text cs :: ps => .text (c :: cs) :: ps
  | ps => .text [c] :: ps

-- `slashes` counts the backslashes right in front. What follows a tag is always short enough.
def parts (position slashes : Nat) (cs : List Char) : List Part :=
  let held := List.replicate slashes '\\'
  match cs with
  | [] => [.text held]
  | '\\' :: cs => parts position (slashes + 1) cs
  | c :: cs =>
    match tagInside? (c :: cs) with
    | some (inside, rest) =>
      if rest.length ≤ cs.length then
        .text [] :: escaped position slashes inside ++
          parts (position + slashes + inside.length + 2) 0 rest
      else []
    | none => (held ++ [c]).foldr addChar (parts (position + slashes + 1) 0 cs)
termination_by cs.length

inductive Error where
  | unopened (inside : List Char) (position : Nat)
  | nothingOpen (position : Nat)
  | number (e : Numeral.IntError)
  | handler (e : Handler.Refused)
deriving DecidableEq, Repr

def Error.message : Error → String
  | .unopened inside position =>
    s!"closing tag '[{String.ofList inside}]' at position {position} doesn't match any open tag"
  | .nothingOpen position => s!"closing tag '[/]' at position {position} has nothing to close"
  | .number e => e.message
  | .handler e => e.message

-- An opening tag: the normal form of its style, and what follows an equals sign.
structure Tag where
  style : String
  parameters? : Option (List Char)
deriving DecidableEq, Repr

def nameOf (inside : List Char) : List Char := inside.takeWhile (· != '=')

def parametersOf? (inside : List Char) : Option (List Char) :=
  match inside.dropWhile (· != '=') with
  | [] => none
  | _ :: parameters => some parameters

def normal (name : List Char) : Except Error String := (Style.normal name).mapError .number

-- Outside of tags a backslash before a bracket is left out.
def unescape : List Char → List Char
  | '\\' :: '[' :: cs => '[' :: unescape cs
  | c :: cs => c :: unescape cs
  | [] => []

-- A handler is read when its tag is closed.
def Tag.closed (t : Tag) : Except Error Unit :=
  match t.style.startsWith "@", t.parameters? with
  | true, some (c :: cs) => (Handler.check (c :: cs)).mapError .handler
  | _, _ => .ok ()

-- The tags that are open after one more, the last one first.
def afterTag (opened : List Tag) (position : Nat) (inside : List Char) :
    Except Error (List Tag) :=
  match nameOf inside with
  | '/' :: name =>
    if (Text.trim name).isEmpty then
      match opened with
      | [] => .error (.nothingOpen position)
      | t :: opened => t.closed.map fun _ => opened
    else do
      let style ← normal name
      match opened.find? fun t => t.style == style with
      | some t => t.closed.map fun _ => opened.erase t
      | none => .error (.unopened inside position)
  | name => do .ok (⟨← normal name, parametersOf? inside⟩ :: opened)

def plainFrom (opened : List Tag) : List Part → Except Error (List Char)
  | [] => .ok []
  | .text cs :: ps => (plainFrom opened ps).map (Emoji.replace (unescape cs) ++ ·)
  | .tag position inside :: ps => do plainFrom (← afterTag opened position inside) ps

-- Controls that would move the cursor are not shown.
def isShown (c : Char) : Bool :=
  let n := c.toNat
  n != 7 && n != 8 && n != 11 && n != 12 && n != 13

-- Parameters belong to the style, too.
def Part.checked : Part → Except Error Unit
  | .text _ | .tag _ ('/' :: _) => .ok ()
  | .tag _ inside =>
    match parametersOf? inside with
    | none => .ok ()
    | some parameters => do
      let _ ← normal ((← normal (nameOf inside)).toList ++ ' ' :: parameters)
      .ok ()

def plain (markup : String) : Except Error (List Char) := do
  let ps := parts 0 0 markup.toList
  let cs ← plainFrom [] ps
  ps.forM Part.checked
  .ok (cs.filter isShown)

end FieldTemplates.Host.Markup
