
namespace FieldTemplates.Digits

def value (digits : List Char) : Nat :=
  digits.foldl (fun n c => n * 10 + (c.toNat - 48)) 0

def limit : Nat := 4300

-- More digits than the limit lets pass.
structure TooMany where
  count : Nat
deriving DecidableEq, Repr

def TooMany.message (e : TooMany) : String :=
  s!"Exceeds the limit ({limit} digits) for integer string conversion: value has {e.count} " ++
    "digits; use sys.set_int_max_str_digits() to increase the limit"

def value? (digits : List Char) : Except TooMany Nat :=
  if digits.length ≤ limit then .ok (value digits) else .error ⟨digits.length⟩

end FieldTemplates.Digits
