
namespace FieldTemplates.Text

inductive RepeatError where
  | count
  | length
  | memory
deriving DecidableEq, Repr

def RepeatError.message : RepeatError → String
  | .count => "cannot fit 'int' into an index-sized integer"
  | .length => "repeated string is too long"
  | .memory => ""

-- The largest count and length, and the longest text that memory holds.
def maxWord : Nat := 0x7FFFFFFFFFFFFFFF

def maxLength : Nat := 0x1FFFFFFFF

-- Why a text of `size` characters cannot be repeated `count` times. A negative count stands for
-- none, and once is as good as any text.
def repeatError? (size : Nat) (count : Int) : Option RepeatError :=
  if maxWord < count ∨ count < -(maxWord : Int) - 1 then some .count
  else if count ≤ 1 then none
  else if maxWord < size * count.toNat then some .length
  else if maxLength < size * count.toNat then some .memory
  else none

-- None for a negative count.
def repeated (count : Int) (cs : List Char) : List Char := (List.replicate count.toNat cs).flatten

def repeated? (count : Int) (cs : List Char) : Except RepeatError (List Char) :=
  match repeatError? cs.length count with
  | some e => .error e
  | none => .ok (repeated count cs)

end FieldTemplates.Text
