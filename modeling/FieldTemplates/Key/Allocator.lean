import FieldTemplates.Text.Quoted

namespace FieldTemplates.Key

-- What a mint takes from outside: random hexadecimal digits and the time in seconds.
structure Stamp where
  hex : String
  seconds : Int

-- The stamp for each value of the mint counter.
abbrev Source := Nat → Stamp

-- Nine random digits, then the counter with at least four digits.
def mint (source : Source) (kind : String) (count : Nat) : String :=
  let stamp := source count
  kind ++ "_" ++ String.ofList (stamp.hex.toList.take 9 ++ Text.hexDigits 4 count) ++ "_" ++
    toString stamp.seconds

-- `used` lists the keys given so far, in order; `next` is the counter's next value.
structure Allocator where
  used : List String := []
  next : Nat := 1

namespace Allocator

-- The first minted key that is not in use, and the counter after it. Minted keys differ, so one
-- try more than there are used keys is enough.
def fresh (source : Source) (kind : String) (used : List String) : Nat → Nat → String × Nat
  | 0, count => (mint source kind count, count + 1)
  | tries + 1, count =>
    let key := mint source kind count
    if used.contains key then fresh source kind used tries (count + 1) else (key, count + 1)

def allocate (source : Source) (a : Allocator) (key kind : String) : String × Allocator :=
  if key ≠ "" ∧ key ∉ a.used then (key, { a with used := a.used ++ [key] })
  else
    let (key, next) := fresh source kind a.used a.used.length a.next
    (key, ⟨a.used ++ [key], next⟩)

def isUsed (a : Allocator) (key : String) : Bool := a.used.contains key

-- Forgets the keys; the counter goes on.
def reset (a : Allocator) : Allocator := { a with used := [] }

end Allocator

end FieldTemplates.Key
