import FieldTemplates.Number.Digits
import FieldTemplates.Text.Digit
import FieldTemplates.Text.Half
import FieldTemplates.Value.Basic

namespace FieldTemplates.Json

inductive Problem where
  | value
  | name
  | colon
  | comma
  | unterminated
  | control
  | escape
  | unicodeEscape
  | extraData
  | byteOrderMark
deriving DecidableEq, Repr

def Problem.message : Problem → String
  | .value => "Expecting value"
  | .name => "Expecting property name enclosed in double quotes"
  | .colon => "Expecting ':' delimiter"
  | .comma => "Expecting ',' delimiter"
  | .unterminated => "Unterminated string starting at"
  | .control => "Invalid control character at"
  | .escape => "Invalid \\escape"
  | .unicodeEscape => "Invalid \\uXXXX escape"
  | .extraData => "Extra data"
  | .byteOrderMark => "Unexpected UTF-8 BOM (decode using utf-8-sig)"

-- Lines and columns count from 1, positions from 0.
structure Error where
  problem : Problem
  position : Nat
  line : Nat
  column : Nat
deriving DecidableEq, Repr

def Error.message (e : Error) : String :=
  s!"{e.problem.message}: line {e.line} column {e.column} (char {e.position})"

-- How many lists and objects may stand inside one another.
def maxDepth : Nat := 988

-- The limit that a document exceeds.
inductive Limit where
  | digits (e : Digits.TooMany)
  | depth
deriving DecidableEq, Repr

def Limit.message : Limit → String
  | .digits e => e.message
  | .depth => ""

-- What ends the reading: a refusal, with what is left from the place on, or a limit.
inductive Stop where
  | refused (problem : Problem) (rest : List Char)
  | beyond (limit : Limit)

abbrev ReadM := Except Stop

def isSpace (c : Char) : Bool := c == ' ' || c == '\t' || c == '\n' || c == '\r'

def skipSpace (cs : List Char) : List Char := cs.dropWhile isSpace

def hexUnit? (a b c d : Char) : Option Nat := do
  let a ← Text.hexDigit? a
  let b ← Text.hexDigit? b
  let c ← Text.hexDigit? c
  let d ← Text.hexDigit? d
  some (((a * 16 + b) * 16 + c) * 16 + d)

def shortEscape? : Char → Option Char
  | '"' => some '"'
  | '\\' => some '\\'
  | '/' => some '/'
  | 'b' => some '\x08'
  | 'f' => some '\x0c'
  | 'n' => some '\n'
  | 'r' => some '\r'
  | 't' => some '\t'
  | _ => none

-- What follows the opening quote. `start` is the text from that quote on. The text must go on after
-- the digits of a unit, and a pair is one only where it goes on after the second unit, too.
def readString (start : List Char) : List Char → ReadM (List Char × List Char)
  | [] => .error (.refused .unterminated start)
  | '"' :: cs => .ok ([], cs)
  | '\\' :: 'u' :: a :: b :: c :: d :: '\\' :: 'u' :: e :: f :: g :: h :: i :: cs =>
    match hexUnit? a b c d with
    | none => .error (.refused .unicodeEscape
        ('u' :: a :: b :: c :: d :: '\\' :: 'u' :: e :: f :: g :: h :: i :: cs))
    | some n =>
      if Text.Half.isHigh n then
        match hexUnit? e f g h with
        | none => .error (.refused .unicodeEscape ('u' :: e :: f :: g :: h :: i :: cs))
        | some m =>
          if Text.Half.isLow m then do
            let (s, rest) ← readString start (i :: cs)
            .ok (Text.Half.hold (Text.Half.join n m) ++ s, rest)
          else do
            let (s, rest) ← readString start ('\\' :: 'u' :: e :: f :: g :: h :: i :: cs)
            .ok (Text.Half.hold n ++ s, rest)
      else do
        let (s, rest) ← readString start ('\\' :: 'u' :: e :: f :: g :: h :: i :: cs)
        .ok (Text.Half.hold n ++ s, rest)
  | '\\' :: 'u' :: a :: b :: c :: d :: e :: cs =>
    match hexUnit? a b c d with
    | none => .error (.refused .unicodeEscape ('u' :: a :: b :: c :: d :: e :: cs))
    | some n => do
      let (s, rest) ← readString start (e :: cs)
      .ok (Text.Half.hold n ++ s, rest)
  | '\\' :: 'u' :: cs => .error (.refused .unicodeEscape ('u' :: cs))
  | ['\\'] => .error (.refused .unterminated start)
  | '\\' :: c :: cs =>
    match shortEscape? c with
    | none => .error (.refused .escape ('\\' :: c :: cs))
    | some e => do
      let (s, rest) ← readString start cs
      .ok (e :: s, rest)
  | c :: cs =>
    if c.toNat < 0x20 then .error (.refused .control (c :: cs))
    else do
      let (s, rest) ← readString start cs
      .ok (c :: s, rest)

-- The digits of the whole part: a zero stands alone.
def takeWhole : List Char → List Char × List Char
  | '0' :: cs => (['0'], cs)
  | cs => (cs.takeWhile Char.isDigit, cs.dropWhile Char.isDigit)

def takeFraction : List Char → Option (List Char) × List Char
  | '.' :: cs =>
    match cs.takeWhile Char.isDigit with
    | [] => (none, '.' :: cs)
    | ds => (some ds, cs.dropWhile Char.isDigit)
  | cs => (none, cs)

def takePower : List Char → Option Int × List Char
  | c :: cs =>
    if c == 'e' || c == 'E' then
      let (negative, ds) := match cs with
        | '-' :: ds => (true, ds)
        | '+' :: ds => (false, ds)
        | ds => (false, ds)
      match ds.takeWhile Char.isDigit with
      | [] => (none, c :: cs)
      | k =>
        (some (if negative then -(Digits.value k : Int) else Digits.value k),
          ds.dropWhile Char.isDigit)
    else (none, c :: cs)
  | [] => (none, [])

-- A number with a fraction or an exponent is a real, any other a whole number.
def readNumber (negative : Bool) (cs : List Char) : ReadM (Option (Value × List Char)) :=
  match takeWhole cs with
  | ([], _) => .ok none
  | (whole, rest) =>
    let (part, rest) := takeFraction rest
    let (power, rest) := takePower rest
    match part, power with
    | none, none => do
      let n : Int ← (Digits.value? whole).mapError fun e => .beyond (.digits e)
      .ok (some (.int (if negative then -n else n), rest))
    | _, _ =>
      let ds := part.getD []
      let x := .ofDecimal negative (Digits.value (whole ++ ds)) (power.getD 0 - ds.length)
      .ok (some (.real x, rest))

def words : List (List Char × Value) := [
  ("null".toList, .null), ("true".toList, .bool true), ("false".toList, .bool false),
  ("NaN".toList, .real .nan), ("Infinity".toList, .real (.infinite false)),
  ("-Infinity".toList, .real (.infinite true))]

def readWord (cs : List Char) : Option (Value × List Char) :=
  words.findSome? fun (word, v) =>
    if word.isPrefixOf cs then some (v, cs.drop word.length) else none

def readScalar (cs : List Char) : ReadM (Value × List Char) :=
  match readWord cs with
  | some r => .ok r
  | none => do
    let number ← match cs with
      | '-' :: ds => readNumber true ds
      | ds => readNumber false ds
    match number with
    | some r => .ok r
    | none => .error (.refused .value cs)

mutual

-- The first argument bounds the calls, two for each character being enough; `depth` counts the
-- brackets that may still open.
def readValue : Nat → Nat → List Char → ReadM (Value × List Char)
  | 0, _, cs => .error (.refused .value cs)
  | fuel + 1, depth, cs =>
    match cs, depth with
    | '"' :: rest, _ => do
      let (s, rest) ← readString cs rest
      .ok (.text (String.ofList s), rest)
    | '[' :: _, 0 | '\x7b' :: _, 0 => .error (.beyond .depth)
    | '[' :: rest, depth + 1 =>
      match skipSpace rest with
      | ']' :: rest => .ok (.list [], rest)
      | rest => do
        let (items, rest) ← readItems fuel depth rest
        .ok (.list items, rest)
    | '\x7b' :: rest, depth + 1 =>
      match skipSpace rest with
      | '\x7d' :: rest => .ok (.object [], rest)
      | rest => do
        let (members, rest) ← readMembers fuel depth rest
        .ok (.object (Table.ofMembers members), rest)
    | cs, _ => readScalar cs

-- The items from the first on, with the closing bracket.
def readItems : Nat → Nat → List Char → ReadM (List Value × List Char)
  | 0, _, cs => .error (.refused .value cs)
  | fuel + 1, depth, cs => do
    let (v, rest) ← readValue fuel depth cs
    match skipSpace rest with
    | ']' :: rest => .ok ([v], rest)
    | ',' :: rest => do
      let (vs, rest) ← readItems fuel depth (skipSpace rest)
      .ok (v :: vs, rest)
    | rest => .error (.refused .comma rest)

-- The members from the first name on, with the closing bracket.
def readMembers : Nat → Nat → List Char → ReadM (List (String × Value) × List Char)
  | 0, _, cs => .error (.refused .value cs)
  | fuel + 1, depth, cs =>
    match cs with
    | '"' :: rest => do
      let (name, rest) ← readString cs rest
      match skipSpace rest with
      | ':' :: rest => do
        let (v, rest) ← readValue fuel depth (skipSpace rest)
        match skipSpace rest with
        | '\x7d' :: rest => .ok ([(String.ofList name, v)], rest)
        | ',' :: rest => do
          let (ms, rest) ← readMembers fuel depth (skipSpace rest)
          .ok ((String.ofList name, v) :: ms, rest)
        | rest => .error (.refused .comma rest)
      | rest => .error (.refused .colon rest)
    | cs => .error (.refused .name cs)

end

def readDocument (cs : List Char) : Except Stop Value :=
  match cs with
  | '\uFEFF' :: _ => .error (.refused .byteOrderMark cs)
  | _ => do
    let (v, rest) ← readValue (2 * cs.length + 2) maxDepth (skipSpace cs)
    match skipSpace rest with
    | [] => .ok v
    | rest => .error (.refused .extraData rest)

-- The place where `rest` begins in `text`.
def locate (text : List Char) (problem : Problem) (rest : List Char) : Error :=
  let before := text.take (text.length - rest.length)
  { problem
    position := before.length
    line := before.count '\n' + 1
    column := (before.reverse.takeWhile (· != '\n')).length + 1 }

-- Why a text gives no document.
inductive Failure where
  | refused (e : Error)
  | beyond (limit : Limit)
deriving DecidableEq, Repr

def Failure.message : Failure → String
  | .refused e => e.message
  | .beyond l => l.message

def decode (text : List Char) : Except Failure Value :=
  match readDocument text with
  | .ok v => .ok v
  | .error (.refused problem rest) => .error (.refused (locate text problem rest))
  | .error (.beyond l) => .error (.beyond l)

end FieldTemplates.Json
