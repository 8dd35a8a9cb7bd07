import FieldTemplates.Number.Binary64

namespace FieldTemplates.Binary64

-- `digits · 10^exponent`
structure Decimal where
  digits : Nat
  exponent : Int
deriving DecidableEq, Repr

-- The reals that round to a number, ends included when its last bit is 0.
structure Cell where
  low : Fraction
  high : Fraction
  closed : Bool

def cell (m : Nat) (e : Int) : Cell :=
  let below := if m = Nat.pow 2 52 ∧ -1074 < e then 1 else 2
  ⟨(Fraction.mk (4 * m - below) 1).scale 2 (e - 2), (Fraction.mk (4 * m + 2) 1).scale 2 (e - 2),
    m % 2 == 0⟩

def Cell.holds (c : Cell) (f : Fraction) : Bool :=
  if c.closed then f.ge c.low && c.high.ge f else !c.low.ge f && !f.ge c.high

-- The exponent of the first decimal digit.
def magnitude (f : Fraction) : Int :=
  let guess := Int.fdiv (((f.num.log2 : Int) - f.den.log2) * 30103) 100000
  let reaches (k : Int) : Bool := f.ge ((Fraction.mk 1 1).scale 10 k)
  if reaches (guess + 1) then guess + 1 else if reaches guess then guess else guess - 1

-- Of the two neighbours of `f` among the multiples of `10^k`, the nearer one that lies in the cell.
def neighbour? (f : Fraction) (c : Cell) (k : Int) : Option Decimal :=
  let g := f.scale 10 (-k)
  let below := g.num / g.den
  let fits (n : Nat) : Bool := c.holds ((Fraction.mk n 1).scale 10 k)
  let nearest := g.round
  let other := if nearest = below then below + 1 else below
  if fits nearest then some ⟨nearest, k⟩ else if fits other then some ⟨other, k⟩ else none

-- Seventeen digits always suffice, so the default is never taken.
def shortest (m : Nat) (e : Int) : Decimal :=
  let f := (Fraction.mk m 1).scale 2 e
  let top := magnitude f
  ((List.range 17).findSome? fun (p : Nat) => neighbour? f (cell m e) (top - p)).getD ⟨m, 0⟩

-- Positional from `10^-4` up to, not including, `10^16`; otherwise with an exponent of two digits
-- or more. A whole number keeps `.0`.
def decimalText (d : Decimal) : String :=
  let ds := (Nat.toDigits 10 d.digits).reverse.dropWhile (· == '0') |>.reverse
  let top : Int := d.exponent + digitCount d.digits - 1
  let zeros (n : Nat) : List Char := List.replicate n '0'
  if top < -4 ∨ 16 ≤ top then
    let mantissa := match ds with
      | [] => ['0']
      | [a] => [a]
      | a :: rest => a :: '.' :: rest
    let size := Nat.toDigits 10 top.natAbs
    let sign := if top < 0 then '-' else '+'
    String.ofList (mantissa ++ 'e' :: sign :: (zeros (2 - size.length) ++ size))
  else if top < 0 then
    String.ofList ('0' :: '.' :: (zeros ((-top).toNat - 1) ++ ds))
  else
    let whole := top.toNat + 1
    if ds.length ≤ whole then String.ofList (ds ++ zeros (whole - ds.length) ++ ['.', '0'])
    else String.ofList (ds.take whole ++ '.' :: ds.drop whole)

def signText (negative : Bool) : String := if negative then "-" else ""

def text : Binary64 → String
  | .nan => "nan"
  | .infinite s => signText s ++ "inf"
  | .finite s 0 _ => signText s ++ "0.0"
  | .finite s m e => signText s ++ decimalText (shortest m e)

end FieldTemplates.Binary64
