import FieldTemplates.Host.Handler.Fault
import FieldTemplates.Host.Handler.Node

namespace FieldTemplates.Host.Handler

-- What was read and what follows it.
abbrev Found (α : Type) := Option (α × List Token)

-- Looking at the end while a bracket is open is a fault, and so is looking at a stray backslash.
def peek : List Token → Except Fault Token
  | [] => .ok (.stop none)
  | .backslash :: _ => .error .afterBackslash
  | .stop (some c) :: _ => .error (.unclosed c)
  | t :: _ => .ok t

def starts (t : Token) (ts : List Token) : Except Fault Bool := do .ok ((← peek ts) == t)

def sign (s : String) (ts : List Token) : Except Fault Bool := starts (.sign s) ts

def keywords : List String := [
  "False", "None", "True", "and", "as", "assert", "async", "await", "break", "class", "continue",
  "def", "del", "elif", "else", "except", "finally", "for", "from", "global", "if", "import", "in",
  "is", "lambda", "nonlocal", "not", "or", "pass", "raise", "return", "try", "while", "with",
  "yield"]

def constants : List String := ["True", "False", "None"]

-- From loosely to tightly binding.
inductive Level where
  | or
  | and
  | not
  | comparison
  | bitOr
  | bitXor
  | bitAnd
  | shift
  | sum
  | product
  | unary
  | power
deriving DecidableEq, Repr

def Level.next : Level → Level
  | or => and
  | and => not
  | not => comparison
  | comparison => bitOr
  | bitOr => bitXor
  | bitXor => bitAnd
  | bitAnd => shift
  | shift => sum
  | sum => product
  | product => unary
  | unary | power => power

def Level.signs : Level → List String
  | comparison => ["==", "!=", "<=", "<", ">=", ">"]
  | bitOr => ["|"]
  | bitXor => ["^"]
  | bitAnd => ["&"]
  | shift => ["<<", ">>"]
  | sum => ["+", "-"]
  | product => ["*", "/", "//", "%", "@"]
  | _ => []

-- What follows an operator of this level.
def operator? (l : Level) (ts : List Token) : Except Fault (Option (List Token)) := do
  match l, ← peek ts with
  | l, .sign s => .ok (if l.signs.contains s then some ts.tail else none)
  | .or, .name "or" | .and, .name "and" | .comparison, .name "in" => .ok (some ts.tail)
  | .comparison, .name "not" =>
    .ok (if ← starts (.name "in") ts.tail then some ts.tail.tail else none)
  | .comparison, .name "is" =>
    .ok (some (if ← starts (.name "not") ts.tail then ts.tail.tail else ts.tail))
  | _, _ => .ok none

def combined (l : Level) (a b : Node) : Node :=
  match l with
  | .comparison => ⟨"comparison", .computed⟩
  | .sum => ⟨"expression", a.meaning.sum b.meaning⟩
  | _ => ⟨"expression", .computed⟩

-- Texts side by side are one text.
def texts (bytes holes : Bool) : List Token → Except Fault (Node × List Token)
  | .text b h :: ts => if b = bytes then texts bytes (holes || h) ts else .error .mixedTexts
  | ts => do
    let _ ← peek ts
    .ok (if holes then ⟨"f-string expression", .computed⟩ else ⟨"literal", .fixed⟩, ts)

-- Whether hints are looked for, and whether any bracket is open.
structure Mode where
  hints : Bool
  nested : Bool

-- Words that may begin a statement, or a name with a text behind it: no comma is missing there.
def mayStandAlone (ts : List Token) : Bool :=
  match ts with
  | .name w :: .text _ _ :: _ => !keywords.contains w
  | .name w :: _ => ["_", "case", "match"].contains w
  | _ => false

def oldCall? (ts : List Token) : Option String :=
  match ts with
  | .name _ :: .sign "(" :: _ => none
  | .name w :: _ => if w = "print" || w = "exec" then some w else none
  | _ => none

def isFree (t : Token) : Bool :=
  match t with
  | .name w => !keywords.contains w
  | _ => false

-- Whether an expression may start right behind a name. What starts with a bracket or a sign belongs
-- to the name.
def meetsExpression (ts : List Token) : Bool :=
  match ts with
  | t :: .sign s :: _ => isFree t && ["\x7b", "..."].contains s
  | t :: .stop _ :: _ => isFree t
  | t :: _ => isFree t
  | [] => false

-- How arguments of a call went so far.
structure Passed where
  any : Bool := false
  names : Bool := false
  unpacking : Bool := false

mutual

def expression (m : Mode) : Nat → List Token → Except Fault (Found Node)
  | 0, _ => .ok none
  | fuel + 1, ts => do
    match ← operation m fuel .or ts with
    | none => .ok none
    | some (a, rest) =>
      hint m fuel ts a rest
      if ← starts (.name "if") rest then
        match ← operation m fuel .or rest.tail with
        | none => .ok (some (a, rest))
        | some (_, more) =>
          if ← starts (.name "else") more then
            match ← expression m fuel more.tail with
            | none => .ok (some (a, rest))
            | some (_, more) => .ok (some (⟨"conditional expression", .computed⟩, more))
          else
            if m.hints && !(← sign ":" more) then throw .noElse
            .ok (some (a, rest))
      else .ok (some (a, rest))

-- The mistakes that show after the first operation of an expression: another expression follows,
-- or the operation is a name in front of one, as in old calls.
def hint (m : Mode) (fuel : Nat) (ts : List Token) (a : Node) (rest : List Token) :
    Except Fault Unit :=
  match fuel with
  | 0 => .ok ()
  | fuel + 1 => do
    if !m.hints then return ()
    let old? := if a.label = "name" then oldCall? ts else none
    if !mayStandAlone ts then
      if (← expression { m with hints := false } fuel rest).isSome && old?.isNone && m.nested then
        throw .noComma
    if old?.isSome || meetsExpression ts then
      if (← expression m fuel ts.tail).isSome then
        match old? with
        | some w => throw (.noParentheses w)
        | none => return ()

def operation (m : Mode) : Nat → Level → List Token → Except Fault (Found Node)
  | 0, _, _ => .ok none
  | fuel + 1, .not, ts => do
    if ← starts (.name "not") ts then
      match ← operation m fuel .not ts.tail with
      | some (_, rest) => .ok (some (⟨"expression", .computed⟩, rest))
      | none => .ok none
    else operation m fuel .comparison ts
  | fuel + 1, .unary, ts => do
    let plain ← sign "~" ts
    if plain || (← sign "+" ts) || (← sign "-" ts) then
      match ← operation m fuel .unary ts.tail with
      | some (a, rest) =>
        .ok (some (⟨"expression", if plain then .computed else a.meaning.signed⟩, rest))
      | none => .ok none
    else operation m fuel .power ts
  | fuel + 1, .power, ts => do
    match ← atom m fuel ts with
    | none => .ok none
    | some (a, rest) =>
      match ← trailers m fuel ts a rest with
      | none => .ok none
      | some (a, rest) =>
        if ← sign "**" rest then
          match ← operation m fuel .unary rest.tail with
          | some (_, rest) => .ok (some (⟨"expression", .computed⟩, rest))
          | none => .ok (some (a, rest))
        else .ok (some (a, rest))
  | fuel + 1, l, ts => do
    match ← operation m fuel l.next ts with
    | none => .ok none
    | some (a, rest) => chain m fuel l a rest

-- Operators of one level, as long as an operand follows them.
def chain (m : Mode) : Nat → Level → Node → List Token → Except Fault (Found Node)
  | 0, _, _, _ => .ok none
  | fuel + 1, l, a, ts => do
    match ← operator? l ts with
    | none => .ok (some (a, ts))
    | some rest =>
      match ← operation m fuel l.next rest with
      | none => .ok (some (a, ts))
      | some (b, rest) => chain m fuel l (combined l a b) rest

def atom (m : Mode) : Nat → List Token → Except Fault (Found Node)
  | 0, _ => .ok none
  | fuel + 1, ts => do
    match ← peek ts with
    | .name w =>
      if keywords.contains w && !constants.contains w then return none
      let _ ← peek ts.tail
      .ok (some (if constants.contains w then ⟨w, .fixed⟩ else ⟨"name", .computed⟩, ts.tail))
    | .number imaginary =>
      let _ ← peek ts.tail
      .ok (some (⟨"literal", if imaginary then .imaginary else .real⟩, ts.tail))
    | .text bytes _ => .ok (some (← texts bytes false ts))
    | .sign "..." =>
      let _ ← peek ts.tail
      .ok (some (⟨"ellipsis", .fixed⟩, ts.tail))
    | .sign "(" => parenthesized { m with nested := true } fuel ts.tail
    | .sign "\x7b" => braced { m with nested := true } fuel ts.tail
    | _ => .ok none

-- Members and calls behind an expression whose first tokens are `ts`.
def trailers (m : Mode) : Nat → List Token → Node → List Token → Except Fault (Found Node)
  | 0, _, _, _ => .ok none
  | fuel + 1, start, a, ts => do
    if ← sign "." ts then
      if isFree (← peek ts.tail) then
        trailers m fuel start ⟨"attribute", .computed⟩ ts.tail.tail
      else .ok (some (a, ts))
    else if ← sign "(" ts then
      if ← sign ")" ts.tail then
        let isSet := start.head? == some (.name "set") && a.label = "name"
        trailers m fuel start ⟨"function call", if isSet then .changing "set" else .computed⟩
          ts.tail.tail
      else
        match ← arguments { m with nested := true } fuel {} ts.tail with
        | none => .ok (some (a, ts))
        | some (_, rest) =>
          if ← sign ")" rest then trailers m fuel start ⟨"function call", .computed⟩ rest.tail
          else .ok (some (a, ts))
    else .ok (some (a, ts))

def arguments (m : Mode) : Nat → Passed → List Token → Except Fault (Found Passed)
  | 0, _, _ => .ok none
  | fuel + 1, p, ts => do
    let found ← (do
      if ← sign "*" ts then
        let found ← expression m fuel ts.tail
        if m.hints && p.any && (p.unpacking || found.isNone) then throw .unpackingAfterUnpacking
        if p.unpacking then return none
        return found.map fun (_, rest) => (p, rest)
      else if ← sign "**" ts then
        return (← expression m fuel ts.tail).map fun (_, rest) => (⟨true, true, true⟩, rest)
      else
        match ts with
        | .name w :: .sign "=" :: more =>
          if m.hints && constants.contains w then throw (.assignedConstant w)
          if keywords.contains w then return none
          return (← expression m fuel more).map fun (_, rest) => ({ p with names := true }, rest)
        | ts => positional m p fuel ts)
    match found with
    | none => .ok none
    | some (p, rest) =>
      if ← sign "," rest then
        if ← sign ")" rest.tail then .ok (some (p, rest.tail))
        else arguments m fuel { p with any := true } rest.tail
      else .ok (some (p, rest))

def positional (m : Mode) (p : Passed) : Nat → List Token → Except Fault (Found Passed)
  | 0, _ => .ok none
  | fuel + 1, ts => do
    match ← named m fuel ts with
    | none => .ok none
    | some (_, rest) =>
      if ← sign "=" rest then
        if m.hints then throw .assignedArgument
        .ok none
      else if p.names then
        if !m.hints then return none
        throw (if p.unpacking then .positionAfterUnpacking else .positionAfterName)
      else .ok (some (p, rest))

-- An expression that may be given a name.
def named (m : Mode) : Nat → List Token → Except Fault (Found Node)
  | 0, _ => .ok none
  | fuel + 1, ts => do
    let renames ← if isFree (← peek ts) then sign ":=" ts.tail else .ok false
    if renames then
      match ← expression m fuel ts.tail.tail with
      | some (_, rest) => .ok (some (⟨"named expression", .computed⟩, rest))
      | none => .ok none
    else expression m fuel ts

-- The mistakes with equals signs that show after an expression in brackets.
def equalsHint (m : Mode) (fuel : Nat) (ts : List Token) (a : Node) (rest : List Token) :
    Except Fault Unit :=
  match fuel with
  | 0 => .ok ()
  | fuel + 1 => do
    if !m.hints then return ()
    if ← sign ":=" rest then
      if (← expression m fuel rest.tail).isSome then throw (.named a.label)
    if ← sign "=" rest then
      match ← operation m fuel .bitOr rest.tail with
      | none => return ()
      | some (_, more) =>
        if (← sign "=" more) || (← sign ":=" more) then return ()
        match ts with
        | t :: .sign "=" :: _ =>
          if isFree t then throw .equalsSign
        | _ => pure ()
        if constants.contains a.label || a.label = "tuple" then return ()
        match ← operation m fuel .bitOr ts with
        | some (_, more) => if more.length = rest.length then throw (.assigned a.label)
        | none => return ()

-- An element of a tuple or a set.
def element (m : Mode) : Nat → List Token → Except Fault (Found Node)
  | 0, _ => .ok none
  | fuel + 1, ts => do
    if ← sign "*" ts then
      match ← operation m fuel .bitOr ts.tail with
      | some (_, rest) => .ok (some (⟨"starred", .computed⟩, rest))
      | none => .ok none
    else
      match ← named m fuel ts with
      | none => .ok none
      | some (a, rest) =>
        equalsHint m fuel ts a rest
        .ok (if ← sign ":=" rest then none else some (a, rest))

-- More elements behind a comma; the last comma may end them.
def elements (m : Mode) : Nat → List Node → List Token → Except Fault (Found (List Node))
  | 0, _, _ => .ok none
  | fuel + 1, as, ts => do
    if ← sign "," ts then
      match ← element m fuel ts.tail with
      | some (a, rest) => elements m fuel (as ++ [a]) rest
      | none => .ok (some (as, ts.tail))
    else .ok (some (as, ts))

def parenthesized (m : Mode) : Nat → List Token → Except Fault (Found Node)
  | 0, _ => .ok none
  | fuel + 1, ts => do
    if ← sign ")" ts then
      let _ ← peek ts.tail
      .ok (some (⟨"tuple", .fixed⟩, ts.tail))
    else if ← sign "**" ts then
      if m.hints then
        match ← expression m fuel ts.tail with
        | some (_, rest) => if ← sign ")" rest then throw .doubleStarred
        | none => pure ()
      .ok none
    else
      match ← element m fuel ts with
      | none => .ok none
      | some (a, rest) =>
        if ← sign "," rest then
          match ← elements m fuel [a] rest with
          | none => .ok none
          | some (as, rest) =>
            if ← sign ")" rest then
              let _ ← peek rest.tail
              .ok (some (⟨"tuple", .tuple (as.map Node.meaning)⟩, rest.tail))
            else .ok none
        else if ← sign ")" rest then
          if a.label = "starred" then
            if m.hints then throw .starred
            .ok none
          else
            let _ ← peek rest.tail
            .ok (some (a, rest.tail))
        else
          if m.hints && a.label = "starred" then let _ ← expression m fuel ts.tail
          .ok none

-- The value of a key, behind the colon.
def value (m : Mode) (key : Node) : Nat → List Token → Except Fault (Found (Meaning × Meaning))
  | 0, _ => .ok none
  | fuel + 1, ts => do
    match ← expression m fuel ts with
    | some (v, rest) => .ok (some ((key.meaning, v.meaning), rest))
    | none =>
      if m.hints then
        if ← sign "*" ts then
          if (← operation m fuel .bitOr ts.tail).isSome then throw .starredValue
        if (← sign "\x7d" ts) || (← sign "," ts) then throw .noValue
      .ok none

def unpacked (m : Mode) : Nat → List Token → Except Fault (Found (Meaning × Meaning))
  | 0, _ => .ok none
  | fuel + 1, ts => do
    match ← operation m fuel .bitOr ts with
    | some (_, rest) => .ok (some ((.computed, .computed), rest))
    | none => .ok none

-- What stands behind a comma in a table. A key there misses its colon before anything else is
-- wrong with it.
def pair (m : Mode) : Nat → List Token → Except Fault (Found (Meaning × Meaning))
  | 0, _ => .ok none
  | fuel + 1, ts => do
    if ← sign "**" ts then unpacked m fuel ts.tail
    else
      if m.hints then
        match ← expression { m with hints := false } fuel ts with
        | some (_, rest) => if !(← sign ":" rest) then throw .noColon
        | none => pure ()
      match ← expression m fuel ts with
      | none => .ok none
      | some (k, rest) => if ← sign ":" rest then value m k fuel rest.tail else .ok none

def pairs (m : Mode) : Nat → List (Meaning × Meaning) → List Token →
    Except Fault (Found (List (Meaning × Meaning)))
  | 0, _, _ => .ok none
  | fuel + 1, ps, ts => do
    if ← sign "," ts then
      match ← pair m fuel ts.tail with
      | some (p, rest) => pairs m fuel (ps ++ [p]) rest
      | none => .ok (some (ps, ts.tail))
    else .ok (some (ps, ts))

-- A table from its first pair on.
def table (m : Mode) : Nat → Found (Meaning × Meaning) → Except Fault (Found Node)
  | 0, _ | _, none => .ok none
  | fuel + 1, some (p, rest) => do
    match ← pairs m fuel [p] rest with
    | none => .ok none
    | some (ps, rest) =>
      if ← sign "\x7d" rest then
        let _ ← peek rest.tail
        .ok (some (⟨"dict literal", .table ps⟩, rest.tail))
      else .ok none

-- A set from its first element on.
def set (m : Mode) : Nat → Found Node → Except Fault (Found Node)
  | 0, _ | _, none => .ok none
  | fuel + 1, some (a, rest) => do
    match ← elements m fuel [a] rest with
    | none => .ok none
    | some (as, rest) =>
      if ← sign "\x7d" rest then
        let _ ← peek rest.tail
        .ok (some (⟨"set display", .set (as.map Node.meaning)⟩, rest.tail))
      else .ok none

-- A colon behind the first expression tells a table from a set.
def braced (m : Mode) : Nat → List Token → Except Fault (Found Node)
  | 0, _ => .ok none
  | fuel + 1, ts => do
    if ← sign "\x7d" ts then
      let _ ← peek ts.tail
      .ok (some (⟨"dict literal", .changing "dict"⟩, ts.tail))
    else if ← sign "**" ts then table m fuel (← unpacked m fuel ts.tail)
    else if ← sign "*" ts then set m fuel (← element m fuel ts)
    else
      let renames ← if isFree (← peek ts) then sign ":=" ts.tail else .ok false
      if renames then set m fuel (← element m fuel ts)
      else
        match ← expression m fuel ts with
        | none => .ok none
        | some (a, rest) =>
          if ← sign ":" rest then table m fuel (← value m a fuel rest.tail)
          else
            equalsHint m fuel ts a rest
            if ← sign ":=" rest then .ok none else set m fuel (some (a, rest))

end

-- Expressions between commas are a tuple.
def row (m : Mode) (fuel : Nat) : Nat → List Node → List Token → Except Fault (Found (List Node))
  | 0, _, _ => .ok none
  | steps + 1, as, ts => do
    if ← sign "," ts then
      match ← expression m fuel ts.tail with
      | some (a, rest) => row m fuel steps (as ++ [a]) rest
      | none => .ok (some (as, ts.tail))
    else .ok (some (as, ts))

def whole (hints : Bool) (ts : List Token) : Except Fault (Option Node) := do
  let m : Mode := ⟨hints, false⟩
  let fuel := 16 * (ts.length + 2)
  match ← expression m fuel ts with
  | none => .ok none
  | some (a, rest) =>
    let isRow ← sign "," rest
    match ← row m fuel (ts.length + 1) [a] rest with
    | none => .ok none
    | some (as, rest) =>
      match rest.dropWhile (· == .newline) with
      | [.stop none] =>
        .ok (some (if isRow then ⟨"tuple", .tuple (as.map Node.meaning)⟩ else a))
      | rest => do
        let _ ← peek rest
        .ok none

def read (cs : List Char) : Except Fault Node := do
  let ts ← (tokens cs).mapError .token
  match ← whole false ts with
  | some a => .ok a
  | none =>
    match ← whole true ts with
    | some a => .ok a
    | none => .error .invalid

end FieldTemplates.Host.Handler
