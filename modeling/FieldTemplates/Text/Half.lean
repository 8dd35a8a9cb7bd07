
namespace FieldTemplates.Text.Half

def isHigh (n : Nat) : Bool := 0xD800 ≤ n && n ≤ 0xDBFF

def isLow (n : Nat) : Bool := 0xDC00 ≤ n && n ≤ 0xDFFF

def isHalf (n : Nat) : Bool := isHigh n || isLow n

-- The code point of a pair.
def join (high low : Nat) : Nat := 0x10000 + (high - 0xD800) * 0x400 + (low - 0xDC00)

def highOf (n : Nat) : Nat := 0xD800 + (n - 0x10000) / 0x400

def lowOf (n : Nat) : Nat := 0xDC00 + (n - 0x10000) % 0x400

def standIn (half : Nat) : Char := Char.ofNat (0x100000 + half)

-- The code points that stand for halves.
def isReserved (n : Nat) : Bool := 0x10D800 ≤ n && n ≤ 0x10DFFF

-- The half that a character stands for.
def half? (c : Char) : Option Nat :=
  if isReserved c.toNat then some (c.toNat - 0x100000) else none

-- The characters that hold a code point.
def hold (n : Nat) : List Char :=
  if isHalf n then [standIn n]
  else if isReserved n then [standIn (highOf n), standIn (lowOf n)]
  else [Char.ofNat n]

def holdAll (cs : List Char) : List Char := cs.flatMap fun c => hold c.toNat

-- The character whose two halves stand side by side, if it had to be held so.
def pair? (c d : Char) : Option Nat := do
  let high ← half? c
  let low ← half? d
  if isHigh high && isLow low && isReserved (join high low) then some (join high low) else none

-- The code points that a text holds.
def codePoints : List Char → List Nat
  | c :: d :: cs =>
    match pair? c d with
    | some n => n :: codePoints cs
    | none => (half? c).getD c.toNat :: codePoints (d :: cs)
  | [c] => [(half? c).getD c.toNat]
  | [] => []

end FieldTemplates.Text.Half

namespace FieldTemplates.Text

-- The order of code points.
def precedes (s t : String) : Bool :=
  decide (Half.codePoints s.toList < Half.codePoints t.toList)

-- Texts in the order of their code points.
def sorted (ss : List String) : List String := ss.mergeSort fun s t => !precedes t s

end FieldTemplates.Text
