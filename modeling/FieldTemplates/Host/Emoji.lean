import FieldTemplates.Data.Table
import FieldTemplates.Host.Emoji.Table
import FieldTemplates.Text.Blank
import FieldTemplates.Text.Digit
import FieldTemplates.Text.LowerCase

namespace FieldTemplates.Host.Emoji

def hexNumber (cs : List Char) : Nat :=
  cs.foldl (fun n c => n * 16 + (Text.hexDigit? c).getD 0) 0

def pictureOf (points : List Char) : List Char :=
  (points.splitOn '-').map fun p => Char.ofNat (hexNumber p)

structure Entry where
  picture : List Char
  -- Whether there is one picture for each tone of skin.
  toned : Bool

def entriesOf : List (List Char) → Table Entry
  | name :: points :: rest =>
    (String.ofList (name.filter (· != '~')), ⟨pictureOf points, name.contains '~'⟩) ::
      entriesOf rest
  | _ => []

def entries : Table Entry := entriesOf (Text.words names.toList)

-- What the name of a tone ends in, and the character that colours the one in front.
def tones : List (List Char × Char) := [
  ("_medium-light_skin_tone".toList, Char.ofNat 0x1F3FC),
  ("_medium-dark_skin_tone".toList, Char.ofNat 0x1F3FE),
  ("_medium_skin_tone".toList, Char.ofNat 0x1F3FD),
  ("_light_skin_tone".toList, Char.ofNat 0x1F3FB),
  ("_dark_skin_tone".toList, Char.ofNat 0x1F3FF)]

-- The mark that asks for a picture in colour is left out in front of a tone.
def withTone (tone : Char) : List Char → List Char
  | c :: '\uFE0F' :: cs => c :: tone :: cs
  | c :: cs => c :: tone :: cs
  | [] => [tone]

def tonedPicture? (name : List Char) : Option (List Char) := do
  let (ending, tone) ← tones.find? fun t => t.1.isSuffixOf name
  let entry ← entries.find? (String.ofList (name.take (name.length - ending.length)))
  if entry.toned then some (withTone tone entry.picture) else none

-- Names are written in small letters or capitals.
def picture? (name : List Char) : Option (List Char) :=
  let name := Text.lower (String.ofList name)
  ((entries.find? name).map Entry.picture).or (tonedPicture? name.toList)

-- How a picture is to be drawn.
inductive Drawing where
  | plain
  | text
  | colour
deriving DecidableEq, Repr

def Drawing.mark : Drawing → List Char
  | .plain => []
  | .text => ['\uFE0E']
  | .colour => ['\uFE0F']

-- What may end a code.
def Drawing.ending : Drawing → List Char
  | .plain => [':']
  | .text => "-text:".toList
  | .colour => "-emoji:".toList

structure Code where
  name : List Char
  drawing : Drawing

-- The characters after the first colon.
def Code.length (c : Code) : Nat := c.name.length + c.drawing.ending.length

def endingOf? (cs : List Char) : Option Drawing :=
  [.colour, .text, .plain].find? fun d => d.ending.isPrefixOf cs

-- The code whose first colon stands right in front: it ends as soon as it can, before any blank.
def code? : List Char → Option Code
  | [] => none
  | c :: cs =>
    match endingOf? (c :: cs) with
    | some d => some ⟨[], d⟩
    | none =>
      if Text.isBlank c then none else (code? cs).map fun k => { k with name := c :: k.name }

def Code.picture? (c : Code) : Option (List Char) :=
  (Emoji.picture? c.name).map (· ++ c.drawing.mark)

-- Codes without a picture stay. Of the text, `skipped` characters are already dealt with.
def replaceFrom (skipped : Nat) : List Char → List Char
  | [] => []
  | c :: cs =>
    match skipped with
    | n + 1 => replaceFrom n cs
    | 0 =>
      if c = ':' then
        match code? cs with
        | some code =>
          (code.picture?.getD (':' :: cs.take code.length)) ++ replaceFrom code.length cs
        | none => c :: replaceFrom 0 cs
      else c :: replaceFrom 0 cs

def replace (cs : List Char) : List Char := replaceFrom 0 cs

end FieldTemplates.Host.Emoji
