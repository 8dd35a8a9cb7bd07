import FieldTemplates.Text.Digit
import FieldTemplates.Text.LowerCase
import FieldTemplates.Text.Quoted

namespace FieldTemplates.Host.Handler

inductive Base where
  | binary
  | octal
  | decimal
  | hexadecimal
deriving DecidableEq, Repr

def Base.name : Base → String
  | .binary => "binary"
  | .octal => "octal"
  | .decimal => "decimal"
  | .hexadecimal => "hexadecimal"

def Base.size : Base → Nat
  | .binary => 2
  | .octal => 8
  | .decimal => 10
  | .hexadecimal => 16

def Base.hasDigit (b : Base) (c : Char) : Bool :=
  match Text.hexDigit? c with
  | some n => n < b.size
  | none => false

inductive TokenFault where
  | number (kind : String)
  | digit (c : Char) (b : Base)
  | leadingZeros
  | unterminated (line : Nat)
  | unterminatedBlock (line : Nat)
  | unmatched (closing : Char)
  | mismatched (closing opening : Char) (line? : Option Nat)
  | character (c : Char)
  | hidden (c : Char)
deriving DecidableEq, Repr

def codePoint (c : Char) : String := String.ofList ((Text.hexDigits 4 c.toNat).map Char.toUpper)

def TokenFault.message : TokenFault → String
  | number kind => s!"invalid {kind} literal"
  | digit c b => s!"invalid digit '{c}' in {b.name} literal"
  | leadingZeros => "leading zeros in decimal integer literals are not permitted; " ++
    "use an 0o prefix for octal integers"
  | unterminated line => s!"unterminated string literal (detected at line {line})"
  | unterminatedBlock line =>
    s!"unterminated triple-quoted string literal (detected at line {line})"
  | unmatched c => s!"unmatched '{c}'"
  | mismatched c o none => s!"closing parenthesis '{c}' does not match opening parenthesis '{o}'"
  | mismatched c o (some line) =>
    s!"closing parenthesis '{c}' does not match opening parenthesis '{o}' on line {line}"
  | character c => s!"invalid character '{c}' (U+{codePoint c})"
  | hidden c => s!"invalid non-printable character U+{codePoint c}"

inductive Token where
  | name (word : String)
  | number (imaginary : Bool)
  -- A text between quotes; one with holes to fill is no constant.
  | text (bytes holes : Bool)
  | sign (s : String)
  | newline
  -- A backslash that does not end its line: nothing after it is read.
  | backslash
  -- The end, with the bracket that is still open.
  | stop (open? : Option Char)
deriving DecidableEq, Repr

def isWordChar (c : Char) : Bool := c.isAlphanum || c == '_' || 0x80 ≤ c.toNat

-- Words that may follow a number without a blank; of a few of them only the beginning counts.
def mayFollowNumber (word : String) : Bool :=
  ["and", "else", "for", "or", "not"].contains word ||
    ["if", "in", "is"].any fun s => word.startsWith s

def ended (kind : String) (cs : List Char) : Except TokenFault (List Char) :=
  match cs with
  | c :: _ =>
    if c.toNat < 0x80 && isWordChar c &&
        !mayFollowNumber (String.ofList (cs.takeWhile isWordChar)) then .error (.number kind)
    else .ok cs
  | [] => .ok cs

def digitFault (b : Base) (c? : Option Char) : TokenFault :=
  match c? with
  | some c => if b.size < 10 && c.isDigit then .digit c b else .number b.name
  | none => .number b.name

-- What follows digits with single underscores between them. A digit may be due.
def afterDigits (b : Base) (due : Bool) : List Char → Except TokenFault (List Char)
  | [] => if due then .error (digitFault b none) else .ok []
  | c :: cs =>
    if b.hasDigit c then afterDigits b false cs
    else if due then .error (digitFault b (some c))
    else if c = '_' then afterDigits b true cs
    else if b.size < 10 && c.isDigit then .error (digitFault b (some c))
    else .ok (c :: cs)

def startsDigit (cs : List Char) : Bool := (cs.head?.map Char.isDigit).getD false

-- What follows an exponent, if there is one.
def afterExponent (cs : List Char) : Except TokenFault (List Char) :=
  match cs with
  | c :: rest =>
    if c = 'e' || c = 'E' then
      match rest with
      | d :: more =>
        if d = '+' || d = '-' then afterDigits .decimal true more
        else if d.isDigit then afterDigits .decimal true rest
        else ended "decimal" cs
      | [] => ended "decimal" cs
    else .ok cs
  | [] => .ok []

def numbered (imaginary : Bool) (rest : List Char) : Token × List Char := (.number imaginary, rest)

-- The end of a number that may be imaginary.
def finished (cs : List Char) : Except TokenFault (Token × List Char) :=
  match cs with
  | 'j' :: rest | 'J' :: rest => (ended "imaginary" rest).map (numbered true)
  | _ => (ended "decimal" cs).map (numbered false)

def afterPoint (cs : List Char) : Except TokenFault (Token × List Char) := do
  let rest ← if startsDigit cs then afterDigits .decimal true cs else .ok cs
  finished (← afterExponent rest)

def decimal (cs : List Char) : Except TokenFault (Token × List Char) := do
  let rest ← afterDigits .decimal true cs
  let digits := (cs.take (cs.length - rest.length)).filter Char.isDigit
  match rest with
  | '.' :: rest => afterPoint rest
  | 'e' :: _ | 'E' :: _ | 'j' :: _ | 'J' :: _ => finished (← afterExponent rest)
  | _ =>
    if digits.head? == some '0' && digits.any (· != '0') then .error .leadingZeros
    else finished rest

def inBase (b : Base) (cs : List Char) : Except TokenFault (Token × List Char) := do
  let rest ← afterDigits b true (match cs with
    | '_' :: cs => cs
    | cs => cs)
  (ended b.name rest).map (numbered false)

def number (cs : List Char) : Except TokenFault (Token × List Char) :=
  match cs with
  | '0' :: 'x' :: rest | '0' :: 'X' :: rest => inBase .hexadecimal rest
  | '0' :: 'o' :: rest | '0' :: 'O' :: rest => inBase .octal rest
  | '0' :: 'b' :: rest | '0' :: 'B' :: rest => inBase .binary rest
  | '.' :: rest => afterPoint rest
  | _ => decimal cs

-- What follows the closing quotes, and the lines on the way.
def afterText (quote : Char) (block : Bool) (line : Nat) :
    List Char → Except TokenFault (List Char × Nat)
  | [] => .error (if block then .unterminatedBlock line else .unterminated line)
  | '\\' :: '\n' :: cs => afterText quote block (line + 1) cs
  | '\\' :: _ :: cs => afterText quote block line cs
  | c :: cs =>
    if c = quote && !block then .ok (cs, line)
    else if c = quote && [quote, quote].isPrefixOf cs then .ok (cs.drop 2, line)
    else if c = '\n' then
      if block then afterText quote block (line + 1) cs else .error (.unterminated line)
    else afterText quote block line cs

-- What may stand in front of the opening quote.
def textMarks : List String := ["", "b", "u", "r", "f", "br", "rb", "fr", "rf"]

def text? (mark cs : List Char) (line : Nat) :
    Option (Except TokenFault (Token × List Char × Nat)) :=
  let mark := mark.map Char.toLower
  match cs with
  | quote :: rest =>
    if (quote = '\'' || quote = '"') && textMarks.contains (String.ofList mark) then
      let block := [quote, quote].isPrefixOf rest
      let more := if block then rest.drop 2 else rest
      some ((afterText quote block line more).map fun (after, line) =>
        (.text (mark.contains 'b') (mark.contains 'f'), after, line))
    else none
  | [] => none

-- Letters of other scripts, as far as they are told apart here: those with case, and the common
-- syllables and ideographs of East Asia.
def isLetter (c : Char) : Bool :=
  c.toNat < 0x80 || Text.isCased c || (Text.digit? c).isSome ||
    Text.inRanges [(0x3041, 0x3096), (0x30A1, 0x30FA), (0x3400, 0x4DBF), (0x4E00, 0x9FFF),
      (0xAC00, 0xD7A3)] c.toNat

def word (cs : List Char) : Except TokenFault Token :=
  match cs.find? fun c => !isLetter c with
  | some c => .error (if Text.isPrintable c then .character c else .hidden c)
  | none => .ok (.name (String.ofList cs))

-- The longest come first.
def longSigns : List (List Char) :=
  ["**=", "//=", ">>=", "<<=", "...", "**", "//", "<<", ">>", "<=", ">=", "==", "!=", "->", "+=",
    "-=", "*=", "/=", "%=", "&=", "|=", "^=", "@=", ":=", "<>"].map String.toList

def signLength (cs : List Char) : Nat :=
  ((longSigns.find? (·.isPrefixOf cs)).map List.length).getD 1

def closing (opening : Char) : Char :=
  match opening with
  | '(' => ')'
  | '{' => '}'
  | c => c

-- Open brackets with their lines, the last one first.
abbrev Nesting := List (Char × Nat)

def nest (open_ : Nesting) (line : Nat) (c : Char) : Except TokenFault Nesting :=
  if c = '(' || c = '{' then .ok ((c, line) :: open_)
  else if c = ')' || c = '}' then
    match open_ with
    | [] => .error (.unmatched c)
    | (o, at_) :: rest =>
      if closing o = c then .ok rest
      else .error (.mismatched c o (if at_ = line then none else some at_))
  else .ok open_

-- Every step takes at least one character: their number is enough for the steps.
def tokensFrom (open_ : Nesting) (line : Nat) : Nat → List Char → Except TokenFault (List Token)
  | 0, _ | _, [] => .ok [.stop (open_.head?.map (·.1))]
  | steps + 1, c :: cs =>
    if c = ' ' || c = '\t' || c = '\x0c' then tokensFrom open_ line steps cs
    else if c = '\n' then do
      let rest ← tokensFrom open_ (line + 1) steps cs
      .ok (if open_.isEmpty then .newline :: rest else rest)
    else if c = '#' then tokensFrom open_ line steps (cs.dropWhile (· != '\n'))
    else if c = '\\' then
      match cs with
      | '\n' :: cs => tokensFrom open_ (line + 1) steps cs
      | _ => .ok [.backslash]
    else if c.isDigit || (c = '.' && startsDigit cs) then do
      let (token, rest) ← number (c :: cs)
      .ok (token :: (← tokensFrom open_ line steps rest))
    else
      let letters := (c :: cs).takeWhile isWordChar
      let after := (c :: cs).dropWhile isWordChar
      match text? letters after line with
      | some read => do
        let (token, rest, line) ← read
        .ok (token :: (← tokensFrom open_ line steps rest))
      | none => do
        if letters.isEmpty then
          let open_ ← nest open_ line c
          let n := signLength (c :: cs)
          .ok (.sign (String.ofList ((c :: cs).take n)) ::
            (← tokensFrom open_ line steps ((c :: cs).drop n)))
        else .ok ((← word letters) :: (← tokensFrom open_ line steps after))

def tokens (cs : List Char) : Except TokenFault (List Token) := tokensFrom [] 1 cs.length cs

end FieldTemplates.Host.Handler
