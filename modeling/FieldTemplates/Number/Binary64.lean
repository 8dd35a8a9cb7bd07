
namespace FieldTemplates

-- Finite numbers have `m < 2^53` and `-1074 ≤ e ≤ 971`; `m` is at least `2^52` unless `e = -1074`.
inductive Binary64 where
  | nan
  | infinite (negative : Bool)
  | finite (negative : Bool) (m : Nat) (e : Int)
deriving DecidableEq, Repr

namespace Binary64

def zero : Binary64 := .finite false 0 (-1074)

def isZero : Binary64 → Bool
  | .finite _ m _ => m == 0
  | _ => false

-- A positive fraction.
structure Fraction where
  num : Nat
  den : Nat
deriving DecidableEq, Repr

def Fraction.scale (f : Fraction) (base : Nat) (exponent : Int) : Fraction :=
  if 0 ≤ exponent then ⟨f.num * Nat.pow base exponent.toNat, f.den⟩
  else ⟨f.num, f.den * Nat.pow base (-exponent).toNat⟩

def Fraction.ge (f g : Fraction) : Bool := g.num * f.den ≤ f.num * g.den

-- To the nearest whole number, a half to the even one.
def Fraction.round (f : Fraction) : Nat :=
  let q := f.num / f.den
  let r := f.num % f.den
  if 2 * r < f.den then q else if f.den < 2 * r then q + 1 else q + q % 2

-- The nearest number of 53 bits, or infinity where it would not fit.
def ofFraction (negative : Bool) (f : Fraction) : Binary64 :=
  let guess : Int := (f.num.log2 : Int) - f.den.log2 - 52
  let e := if (f.scale 2 (-guess)).ge ⟨Nat.pow 2 52, 1⟩ then guess else guess - 1
  let e := max e (-1074)
  let m := (f.scale 2 (-e)).round
  let (m, e) := if m = Nat.pow 2 53 then (Nat.pow 2 52, e + 1) else (m, e)
  if 971 < e then .infinite negative else .finite negative m e

def digitCount (n : Nat) : Nat := (Nat.toDigits 10 n).length

-- The number nearest to `±n · 10^k`. Far out of range the powers are not computed.
def ofDecimal (negative : Bool) (n : Nat) (k : Int) : Binary64 :=
  let size : Int := k + digitCount n
  if n = 0 then .finite negative 0 (-1074)
  else if 310 < size then .infinite negative
  else if size < -330 then .finite negative 0 (-1074)
  else ofFraction negative ((Fraction.mk n 1).scale 10 k)

def ofInt (n : Int) : Binary64 := ofDecimal (n < 0) n.natAbs 0

-- The number, if it is whole.
def whole? : Binary64 → Option Int
  | .finite s m e =>
    let den := Nat.pow 2 (-e).toNat
    if m % den = 0 then
      let n : Int := m / den * Nat.pow 2 e.toNat
      some (if s then -n else n)
    else none
  | _ => none

-- The whole part, toward zero.
def truncate : Binary64 → Option Int
  | .finite s m e =>
    let n := let f := (Fraction.mk m 1).scale 2 e; f.num / f.den
    some (if s then -(n : Int) else n)
  | _ => none

end Binary64

end FieldTemplates
