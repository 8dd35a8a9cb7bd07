import FieldTemplates.Text.Half
import FieldTemplates.Text.Printable

namespace FieldTemplates.Text

def hexDigits (width n : Nat) : List Char :=
  let ds := Nat.toDigits 16 n
  List.replicate (width - ds.length) '0' ++ ds

-- The shortest of the three numeric escapes that holds the code point.
def numericEscape (n : Nat) : List Char :=
  if n ≤ 0xFF then '\\' :: 'x' :: hexDigits 2 n
  else if n ≤ 0xFFFF then '\\' :: 'u' :: hexDigits 4 n
  else '\\' :: 'U' :: hexDigits 8 n

def quoteChar (mark c : Char) : List Char :=
  if c = mark || c = '\\' then ['\\', c]
  else if c = '\n' then ['\\', 'n']
  else if c = '\r' then ['\\', 'r']
  else if c = '\t' then ['\\', 't']
  else if isPrintable c then [c]
  else numericEscape c.toNat

-- Halves of surrogate pairs, and what is held by them, do not show themselves.
def quotePoint (mark : Char) (n : Nat) : List Char :=
  if Half.isHalf n || Half.isReserved n then numericEscape n else quoteChar mark (Char.ofNat n)

-- Single quotes, unless the text holds one and no double quote.
def quoteMark (cs : List Char) : Char :=
  if cs.contains '\'' && !cs.contains '"' then '"' else '\''

def quoted (s : String) : String :=
  let mark := quoteMark s.toList
  String.ofList (mark :: (Half.codePoints s.toList).flatMap (quotePoint mark) ++ [mark])

end FieldTemplates.Text
