import FieldTemplates.Number.Numeral
import FieldTemplates.Host.Style.Colours
import FieldTemplates.Text.LowerCase

namespace FieldTemplates.Host

inductive Attribute where
  | bold
  | dim
  | italic
  | underline
  | blink
  | blink2
  | reverse
  | conceal
  | strike
  | underline2
  | frame
  | encircle
  | overline
deriving DecidableEq, Repr

namespace Attribute

-- In the order in which a style tells them.
def all : List Attribute := [
  bold, dim, italic, underline, blink, blink2, reverse, conceal, strike, underline2, frame,
  encircle, overline]

def name : Attribute → String
  | bold => "bold"
  | dim => "dim"
  | italic => "italic"
  | underline => "underline"
  | blink => "blink"
  | blink2 => "blink2"
  | reverse => "reverse"
  | conceal => "conceal"
  | strike => "strike"
  | underline2 => "underline2"
  | frame => "frame"
  | encircle => "encircle"
  | overline => "overline"

def shortNames : List (String × Attribute) := [
  ("b", bold), ("d", dim), ("i", italic), ("u", underline), ("uu", underline2), ("r", reverse),
  ("c", conceal), ("s", strike), ("o", overline)]

def ofName? (word : String) : Option Attribute :=
  (all.find? fun a => a.name == word).or (shortNames.lookup word)

end Attribute

structure Style where
  -- What is switched on or off, the last word first.
  switches : List (Attribute × Bool) := []
  colour : Option String := none
  background : Option String := none
  link : Option String := none

namespace Style

inductive Fault where
  -- The words are no style.
  | unknown
  -- A part of a colour is no number.
  | number (e : Numeral.IntError)
deriving DecidableEq, Repr

-- What stands between `opening` and a closing bracket.
def inBrackets? (opening : String) (cs : List Char) : Option (List Char) :=
  if opening.toList.isPrefixOf cs && cs.getLast? == some ')' then
    some ((cs.drop opening.length).dropLast)
  else none

def isHexColour (cs : List Char) : Bool :=
  match cs with
  | '#' :: digits => digits.length = 6 && digits.all fun c => (Text.hexDigit? c).isSome
  | _ => false

def isNumberedColour (cs : List Char) : Bool :=
  match inBrackets? "color(" cs with
  | some digits =>
    1 ≤ digits.length && digits.length ≤ 3 && digits.all Char.isDigit && Digits.value digits ≤ 255
  | none => false

def parts? (cs : List Char) : Option (List (List Char)) := do
  let inside ← inBrackets? "rgb(" cs
  let parts := inside.splitOn ','
  if parts.length = 3 && inside.all fun c => c == ',' || (Text.digit? c).isSome then some parts
  else none

def readColour (word : String) : Except Fault String :=
  let name := Text.lower word
  let cs := name.toList
  if name = "default" || colours.contains name || isHexColour cs || isNumberedColour cs then
    .ok name
  else match parts? cs with
    | none => .error .unknown
    | some parts =>
      match parts.mapM fun p => Numeral.int (String.ofList p) with
      | .error e => .error (.number e)
      | .ok ns => if ns.all (· ≤ 255) then .ok name else .error .unknown

def readFrom (s : Style) : List String → Except Fault Style
  | [] => .ok s
  | word :: rest =>
    match Text.lower word, rest with
    | "on", word :: rest =>
      match readColour word with
      | .ok c => readFrom { s with background := some c } rest
      | .error e => .error e
    | "not", word :: rest =>
      match Attribute.ofName? word with
      | some a => readFrom { s with switches := (a, false) :: s.switches } rest
      | none => .error .unknown
    | "link", address :: rest => readFrom { s with link := some address } rest
    | "on", [] | "not", [] | "link", [] => .error .unknown
    | word, rest =>
      match Attribute.ofName? word with
      | some a => readFrom { s with switches := (a, true) :: s.switches } rest
      | none =>
        match readColour word with
        | .ok c => readFrom { s with colour := some c } rest
        | .error e => .error e

def read (text : List Char) : Except Fault Style :=
  if Text.trim text = "none".toList then .ok {}
  else readFrom {} ((Text.words text).map String.ofList)

def switchWord (a : Attribute) (on : Bool) : String := if on then a.name else "not " ++ a.name

def words (s : Style) : List String :=
  (Attribute.all.filterMap fun a => (s.switches.lookup a).map (switchWord a)) ++ s.colour.toList ++
    (s.background.map ("on " ++ ·)).toList ++ (s.link.map ("link " ++ ·)).toList

def text (s : Style) : String := if s.words.isEmpty then "none" else " ".intercalate s.words

-- What is no style is compared in small letters.
def normal (text : List Char) : Except Numeral.IntError String :=
  match read text with
  | .ok s => .ok s.text
  | .error .unknown => .ok (Text.lower (String.ofList (Text.trim text)))
  | .error (.number e) => .error e

end Style

end FieldTemplates.Host
