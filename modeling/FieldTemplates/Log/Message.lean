import FieldTemplates.Number.Digits
import FieldTemplates.Number.Places
import FieldTemplates.Text.Half
import FieldTemplates.Text.Repeat
import FieldTemplates.Value.Display

namespace FieldTemplates.Log.Message

-- Why a message has no text.
inductive Error where
  | noTable
  | unclosedName
  | unknownName
  | incomplete
  | sizeNoInteger
  | sizeBeyondWord
  | precisionBeyondWord
  | widthTooBig
  | precisionTooBig
  | precisionTooLarge
  | unsupported (letter : Char) (index : Nat)
  | tooFewArguments
  | tooManyArguments
  | wrongKind
  | noLetter
  | noWholeNumber
  | endless
  | tooLargeForReal
  | memory
deriving DecidableEq, Repr

def shownLetter (c : Char) : Char := if 31 ≤ c.toNat ∧ c.toNat ≤ 126 then c else '?'

-- Errors of kind and number of arguments need no words.
def Error.message : Error → String
  | .unclosedName => "incomplete format key"
  | .incomplete => "incomplete format"
  | .sizeBeyondWord => "width beyond a machine word"
  | .precisionBeyondWord => "precision beyond a machine word"
  | .widthTooBig => "width too big"
  | .precisionTooBig => "precision too big"
  | .precisionTooLarge => "precision too large"
  | .unsupported c i =>
    let code := String.ofList (Nat.toDigits 16 ((Text.Half.half? c).getD c.toNat))
    s!"unsupported format character '{shownLetter c}' (0x{code}) at index {i}"
  | .noLetter => "%c arg not in range(0x110000)"
  | .noWholeNumber => "cannot convert float NaN to integer"
  | .endless => "cannot convert float infinity to integer"
  | .tooLargeForReal => "int too large to convert to float"
  | _ => ""

structure Conversion where
  left : Bool := false
  plus : Bool := false
  blank : Bool := false
  alternate : Bool := false
  zero : Bool := false
  width : Nat := 0
  precision : Option Nat := none

-- Arguments in order, or one table whose members are named; the table can be written itself.
structure Arguments where
  table : Option (Table Value) := none
  rest : List Value

def Arguments.ofList : List Value → Arguments
  | [.object []] => { rest := [.object []] }
  | [.object members] => { table := some members, rest := [.object members] }
  | args => { rest := args }

def Conversion.padding (c : Conversion) (length : Nat) (fill : Char) : List Char :=
  List.replicate (c.width - length) fill

def Conversion.pad (c : Conversion) (cs : List Char) : List Char :=
  if c.left then cs ++ c.padding cs.length ' ' else c.padding cs.length ' ' ++ cs

-- Zeros go between the sign and the digits.
def Conversion.padNumber (c : Conversion) (sign digits : List Char) : List Char :=
  if c.zero && !c.left then sign ++ c.padding (sign.length + digits.length) '0' ++ digits
  else c.pad (sign ++ digits)

def Conversion.sign (c : Conversion) (negative : Bool) : List Char :=
  if negative then ['-'] else if c.plus then ['+'] else if c.blank then [' '] else []

def Conversion.text (c : Conversion) (s : String) : List Char :=
  c.pad (match c.precision with
    | some n => s.toList.take n
    | none => s.toList)

-- The largest precision of a number.
def maxDigits : Nat := 0x7FFFFFFC

-- An integer in a base, behind the mark of the base.
def Conversion.integer (c : Conversion) (base : Nat) (mark : String) (n : Int) :
    Except Error (List Char) :=
  if maxDigits < c.precision.getD 0 then .error .precisionTooLarge
  else
    let digits := Nat.toDigits base n.natAbs
    let digits := List.replicate (c.precision.getD 0 - digits.length) '0' ++ digits
    .ok (c.padNumber (c.sign (n < 0) ++ if c.alternate then mark.toList else []) digits)

def Conversion.real (c : Conversion) (form : Bool → Nat → Nat → Int → List Char) (x : Binary64) :
    List Char :=
  match x with
  | .nan => c.padNumber (c.sign false) "nan".toList
  | .infinite s => c.padNumber (c.sign s) "inf".toList
  | .finite s m e => c.padNumber (c.sign s) (form c.alternate (c.precision.getD 6) m e)

def whole? : Value → Option Int
  | .int n => some n
  | .bool b => some (if b then 1 else 0)
  | _ => none

def wholeOf (v : Value) : Except Error Int :=
  match whole? v with
  | some n => .ok n
  | none => .error .wrongKind

def realOf (v : Value) : Except Error Binary64 :=
  match v with
  | .real x => .ok x
  | v => do
    match Binary64.ofInt (← wholeOf v) with
    | .infinite _ => .error .tooLargeForReal
    | x => .ok x

def roundedOf (v : Value) : Except Error Int :=
  match v with
  | .real .nan => .error .noWholeNumber
  | .real x =>
    match x.truncate with
    | some n => .ok n
    | none => .error .endless
  | v => wholeOf v

def lettersOf (v : Value) : Except Error (List Char) :=
  match v with
  | .text s =>
    if (Text.Half.codePoints s.toList).length = 1 then .ok s.toList else .error .wrongKind
  | v => do
    let n ← wholeOf v
    if 0 ≤ n ∧ n < 0x110000 then .ok (Text.Half.hold n.toNat) else .error .noLetter

def upper (cs : List Char) : List Char := cs.map Char.toUpper

def asciiChar (c : Char) : List Char := if c.toNat < 0x80 then [c] else Text.numericEscape c.toNat

-- What the letter of a conversion makes of an argument; `none` for a letter that is none.
def Conversion.write? (c : Conversion) (letter : Char) (v : Value) :
    Option (Except Error (List Char)) :=
  match letter with
  | 's' => some (.ok (c.text v.display))
  | 'r' => some (.ok (c.text v.literal))
  | 'a' => some (.ok (c.text (String.ofList (v.literal.toList.flatMap asciiChar))))
  | 'c' => some ((lettersOf v).map c.pad)
  | 'd' | 'i' | 'u' => some (roundedOf v >>= c.integer 10 "")
  | 'o' => some (wholeOf v >>= c.integer 8 "0o")
  | 'x' => some (wholeOf v >>= c.integer 16 "0x")
  | 'X' => some ((wholeOf v >>= c.integer 16 "0x").map upper)
  | 'f' => some ((realOf v).map (c.real Binary64.fixedMagnitude))
  | 'F' => some ((realOf v).map fun x => upper (c.real Binary64.fixedMagnitude x))
  | 'e' => some ((realOf v).map (c.real Binary64.scientificMagnitude))
  | 'E' => some ((realOf v).map fun x => upper (c.real Binary64.scientificMagnitude x))
  | 'g' => some ((realOf v).map (c.real Binary64.generalMagnitude))
  | 'G' => some ((realOf v).map fun x => upper (c.real Binary64.generalMagnitude x))
  | _ => none

-- The name between the parentheses behind a mark, which may hold parentheses in pairs.
def nameOf (open_ : Nat) : List Char → Option (List Char × List Char)
  | [] => none
  | ')' :: cs =>
    if open_ = 0 then some ([], cs)
    else (nameOf (open_ - 1) cs).map fun (name, rest) => (')' :: name, rest)
  | '(' :: cs => (nameOf (open_ + 1) cs).map fun (name, rest) => ('(' :: name, rest)
  | c :: cs => (nameOf open_ cs).map fun (name, rest) => (c :: name, rest)

-- The argument of a name becomes the only one.
def selectNamed (args : Arguments) (cs : List Char) : Except Error (Arguments × List Char) :=
  match cs with
  | '(' :: cs =>
    match args.table, nameOf 0 cs with
    | none, _ => .error .noTable
    | some _, none => .error .unclosedName
    | some table, some (name, rest) =>
      match Table.find? table (String.ofList name) with
      | none => .error .unknownName
      | some v => .ok ({ args with rest := [v] }, rest)
  | cs => .ok (args, cs)

def readFlags (c : Conversion) : List Char → Conversion × List Char
  | '-' :: cs => readFlags { c with left := true } cs
  | '+' :: cs => readFlags { c with plus := true } cs
  | ' ' :: cs => readFlags { c with blank := true } cs
  | '#' :: cs => readFlags { c with alternate := true } cs
  | '0' :: cs => readFlags { c with zero := true } cs
  | cs => (c, cs)

-- The bounds of a width, and of a precision.
def minWidth : Int := -0x8000000000000000

def maxWidth : Nat := 0x7FFFFFFFFFFFFFFF

def minPrecision : Int := -0x80000000

def maxPrecision : Nat := 0x7FFFFFFF

def takeArgument (args : Arguments) : Except Error (Value × Arguments) :=
  match args.rest with
  | v :: rest => .ok (v, { args with rest })
  | [] => .error .tooFewArguments

def takeSize (args : Arguments) : Except Error (Int × Arguments) := do
  let (v, args) ← takeArgument args
  match whole? v with
  | some n => .ok (n, args)
  | none => .error .sizeNoInteger

-- A size is written out, or a star takes it from the arguments.
def readWidth (args : Arguments) (cs : List Char) : Except Error (Int × Arguments × List Char) :=
  match cs with
  | '*' :: cs => do
    let (n, args) ← takeSize args
    if n < minWidth ∨ maxWidth < n then .error .sizeBeyondWord else .ok (n, args, cs)
  | cs =>
    let n := Digits.value (cs.takeWhile Char.isDigit)
    if maxWidth < n then .error .widthTooBig else .ok (n, args, cs.dropWhile Char.isDigit)

def Conversion.withWidth (c : Conversion) (n : Int) : Conversion :=
  { c with width := n.natAbs, left := c.left || n < 0 }

def readPrecision (c : Conversion) (args : Arguments) (cs : List Char) :
    Except Error (Conversion × Arguments × List Char) :=
  match cs with
  | '.' :: '*' :: cs => do
    let (n, args) ← takeSize args
    if n < minPrecision ∨ maxPrecision < n then .error .precisionBeyondWord
    else .ok ({ c with precision := some n.toNat }, args, cs)
  | '.' :: cs =>
    let n := Digits.value (cs.takeWhile Char.isDigit)
    if maxPrecision < n then .error .precisionTooBig
    else .ok ({ c with precision := some n }, args, cs.dropWhile Char.isDigit)
  | cs => .ok (c, args, cs)

-- A letter for the size of the argument has no meaning.
def skipLength : List Char → List Char
  | 'h' :: cs => cs
  | 'l' :: cs => cs
  | 'L' :: cs => cs
  | cs => cs

-- One conversion: what is written, the arguments left, and the rest of the message, which has
-- `size` characters in all.
def convert (size : Nat) (args : Arguments) (cs : List Char) :
    Except Error (List Char × Arguments × List Char) := do
  let (args, cs) ← selectNamed args cs
  let (c, cs) := readFlags {} cs
  let (width, args, cs) ← readWidth args cs
  let (c, args, cs) ← readPrecision (c.withWidth width) args cs
  match skipLength cs with
  | [] => .error .incomplete
  | letter :: cs =>
    let (v, args) ← takeArgument args
    match c.write? letter v with
    | none => .error (.unsupported letter (size - cs.length - 1))
    | some written =>
      if Text.maxLength < c.width then .error .memory else .ok (← written, args, cs)

-- A conversion never puts characters back, so its rest is always short enough.
def fill (size : Nat) (args : Arguments) (cs : List Char) : Except Error (List Char) :=
  match cs with
  | [] => if args.table.isSome || args.rest.isEmpty then .ok [] else .error .tooManyArguments
  | '%' :: '%' :: rest => (fill size args rest).map ('%' :: ·)
  | '%' :: rest => do
    let (written, args, after) ← convert size args rest
    if after.length ≤ rest.length then (fill size args after).map (written ++ ·)
    else .error .incomplete
  | c :: rest => (fill size args rest).map (c :: ·)
termination_by cs.length

-- Without arguments the message stands as it is.
def text (message : String) (args : List Value) : Except Error String :=
  if args.isEmpty then .ok message
  else (fill message.length (.ofList args) message.toList).map String.ofList

end FieldTemplates.Log.Message
