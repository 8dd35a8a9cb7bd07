import FieldTemplates.Number.Shortest

namespace FieldTemplates.Binary64

def padZeros (width : Nat) (ds : List Char) : List Char :=
  List.replicate (width - ds.length) '0' ++ ds

-- A point before the last `places` digits, of which there have to be as many and one more.
def withPoint (keepPoint : Bool) (places : Nat) (ds : List Char) : List Char :=
  let whole := ds.take (ds.length - places)
  let rest := ds.drop (ds.length - places)
  if rest.isEmpty && !keepPoint then whole else whole ++ '.' :: rest

def fixedDigits (places m : Nat) (e : Int) : Nat :=
  ((Fraction.mk (m * Nat.pow 10 places) 1).scale 2 e).round

def fixedMagnitude (keepPoint : Bool) (places m : Nat) (e : Int) : List Char :=
  withPoint keepPoint places (padZeros (places + 1) (Nat.toDigits 10 (fixedDigits places m e)))

-- A first digit and `places` more, and the power of ten of the first; zero has power 0.
def scientificDigits (places m : Nat) (e : Int) : Nat × Int :=
  if m = 0 then (0, 0)
  else
    let f := (Fraction.mk m 1).scale 2 e
    let top := magnitude f
    let n := (f.scale 10 (places - top)).round
    if n = Nat.pow 10 (places + 1) then (Nat.pow 10 places, top + 1) else (n, top)

-- An exponent has a sign and at least two digits.
def exponentMark (top : Int) : List Char :=
  'e' :: (if top < 0 then '-' else '+') :: padZeros 2 (Nat.toDigits 10 top.natAbs)

def scientificMagnitude (keepPoint : Bool) (places m : Nat) (e : Int) : List Char :=
  let (n, top) := scientificDigits places m e
  withPoint keepPoint places (padZeros (places + 1) (Nat.toDigits 10 n)) ++ exponentMark top

-- Zeros behind the point that say nothing, and the point if nothing is left behind it.
def dropZeros (cs : List Char) : List Char :=
  if cs.contains '.' then
    match cs.reverse.dropWhile (· == '0') with
    | '.' :: rest => rest.reverse
    | rest => rest.reverse
  else cs

-- A number of digits, positional where the power of ten is at least -4 and below that number.
def generalMagnitude (keepPoint : Bool) (digits m : Nat) (e : Int) : List Char :=
  let digits := max 1 digits
  let (n, top) := scientificDigits (digits - 1) m e
  let short (cs : List Char) : List Char := if keepPoint then cs else dropZeros cs
  if -4 ≤ top ∧ top < digits then
    short (fixedMagnitude keepPoint (digits - 1 - top).toNat m e)
  else
    short (withPoint keepPoint (digits - 1) (padZeros digits (Nat.toDigits 10 n))) ++
      exponentMark top

end FieldTemplates.Binary64
