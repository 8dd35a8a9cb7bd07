import FieldTemplates.Number.Binary64
import FieldTemplates.Number.Digits
import FieldTemplates.Text.Blank
import FieldTemplates.Text.Digit
import FieldTemplates.Text.Quoted

namespace FieldTemplates.Numeral

-- Digits of other scripts become ASCII ones.
def plainDigits (cs : List Char) : List Char :=
  cs.map fun c => match Text.digit? c with
    | some d => Nat.digitChar d
    | none => c

-- White space around a number; the information separators are none here.
def isMargin (c : Char) : Bool := Text.isBlank c && !(0x1C ≤ c.toNat && c.toNat ≤ 0x1F)

def trimMargin (cs : List Char) : List Char :=
  ((cs.dropWhile isMargin).reverse.dropWhile isMargin).reverse

def splitSign : List Char → Bool × List Char
  | '-' :: cs => (true, cs)
  | '+' :: cs => (false, cs)
  | cs => (false, cs)

-- The digits at the front, without the underscores between them, and what follows.
def takeDigits : List Char → List Char × List Char
  | c :: '_' :: d :: cs =>
    if c.isDigit then
      if d.isDigit then
        let (ds, rest) := takeDigits (d :: cs)
        (c :: ds, rest)
      else ([c], '_' :: d :: cs)
    else ([], c :: '_' :: d :: cs)
  | c :: cs =>
    if c.isDigit then
      let (ds, rest) := takeDigits cs
      (c :: ds, rest)
    else ([], c :: cs)
  | [] => ([], [])

inductive IntError where
  | noInteger (text : String)
  | tooMany (e : Digits.TooMany)
deriving DecidableEq, Repr

-- A message shows so much of a refused text at most.
def shownLength : Nat := 200

def IntError.message : IntError → String
  | .noInteger s => "invalid literal for int() with base 10: " ++
    String.ofList ((Text.quoted s).toList.take shownLength)
  | .tooMany e => e.message

-- Digits are counted before it shows whether something else follows them, but not where a stray
-- underscore does.
def int (s : String) : Except IntError Int := do
  let (negative, cs) := splitSign (plainDigits (trimMargin s.toList))
  let (digits, rest) := takeDigits cs
  if digits.isEmpty || rest.head? == some '_' then .error (.noInteger s)
  else
    let n : Int ← (Digits.value? digits).mapError .tooMany
    if rest.isEmpty then .ok (if negative then -n else n) else .error (.noInteger s)

-- The exponent after the mark, and what follows; no exponent is exponent 0.
def takeExponent (cs : List Char) : Option (Int × List Char) :=
  match cs with
  | c :: rest =>
    if c == 'e' || c == 'E' then
      let (negative, rest) := splitSign rest
      match takeDigits rest with
      | ([], _) => none
      | (ds, rest) => some (if negative then -(Digits.value ds : Int) else Digits.value ds, rest)
    else some (0, cs)
  | [] => some (0, [])

def named? (negative : Bool) (cs : List Char) : Option Binary64 :=
  let word := String.ofList (cs.map Char.toLower)
  if word == "inf" || word == "infinity" then some (.infinite negative)
  else if word == "nan" then some .nan
  else none

def real? (s : String) : Option Binary64 :=
  let (negative, cs) := splitSign (plainDigits (trimMargin s.toList))
  match named? negative cs with
  | some x => some x
  | none =>
    let (whole, rest) := takeDigits cs
    let (part, rest) := match rest with
      | '.' :: rest => takeDigits rest
      | rest => ([], rest)
    if whole.isEmpty && part.isEmpty then none
    else match takeExponent rest with
      | some (k, []) => some (.ofDecimal negative (Digits.value (whole ++ part)) (k - part.length))
      | _ => none

end FieldTemplates.Numeral
