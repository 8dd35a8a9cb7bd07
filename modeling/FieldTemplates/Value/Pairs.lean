import FieldTemplates.Json.Encode

namespace FieldTemplates.Value

-- What makes two names one.
inductive Name where
  | nothing
  | number (n : Int)
  | fraction (x : Binary64)
  | text (s : String)
deriving DecidableEq, Repr

-- Collections are no names.
def name? : Value → Option Name
  | .null => some .nothing
  | .bool b => some (.number (if b then 1 else 0))
  | .int n => some (.number n)
  | .real x => some (match x.whole? with
    | some n => .number n
    | none => .fraction x)
  | .text s => some (.text s)
  | .list _ | .object _ => none

-- How a name is written as the name of a member.
def nameText : Value → String
  | .text s => s
  | v => Json.encode v

-- Names in the form in which they came first, each with its last value.
abbrev Pairs := List (Value × Value)

def Pairs.put : Pairs → Value → Value → Pairs
  | [], name, v => [(name, v)]
  | (n, w) :: ps, name, v =>
    if n.name? = name.name? then (n, v) :: ps else (n, w) :: put ps name v

def Pairs.putAll (ps : Pairs) (t : Table Value) : Pairs :=
  t.foldl (fun ps m => ps.put (.text m.1) m.2) ps

-- Names of one text can stand side by side.
def Pairs.toTable (ps : Pairs) : Table Value := ps.map fun p => (nameText p.1, p.2)

inductive PairsError where
  -- A value that holds no pairs, or a pair without a name.
  | noPairs
  | length (index length : Nat)
deriving DecidableEq, Repr

def PairsError.message : PairsError → String
  | .noPairs => ""
  | .length i n => s!"dictionary update sequence element #{i} has length {n}; 2 is required"

def letters (s : String) : List Value := s.toList.map fun c => .text (String.ofList [c])

-- The parts of a value that holds several: items, names of members, or characters.
def parts? : Value → Option (List Value)
  | .list items => some items
  | .object members => some (members.map fun m => .text m.1)
  | .text s => some (letters s)
  | _ => none

def putEach (ps : Pairs) (index : Nat) : List Value → Except PairsError Pairs
  | [] => .ok ps
  | v :: vs =>
    match parts? v with
    | none => .error .noPairs
    | some [a, b] =>
      if a.name?.isNone then .error .noPairs else putEach (ps.put a b) (index + 1) vs
    | some parts => .error (.length index parts.length)

-- The pairs that a value holds.
def asPairs : Value → Except PairsError Pairs
  | .object members => .ok (Pairs.putAll [] members)
  | v =>
    match parts? v with
    | none => .error .noPairs
    | some parts => putEach [] 0 parts

end FieldTemplates.Value
