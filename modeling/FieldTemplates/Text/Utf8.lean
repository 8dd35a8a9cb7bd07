import FieldTemplates.Text.Half

namespace FieldTemplates.Text.Utf8

inductive Fault where
  | start
  | continuation
  | endOfData
deriving DecidableEq, Repr

-- The bytes from `first` up to, not including, `stop` are refused.
structure Error where
  fault : Fault
  lead : UInt8
  first : Nat
  stop : Nat
deriving Repr

def Fault.message : Fault → String
  | .start => "invalid start byte"
  | .continuation => "invalid continuation byte"
  | .endOfData => "unexpected end of data"

def hexByte (b : UInt8) : String :=
  String.ofList [Nat.digitChar (b.toNat / 16), Nat.digitChar (b.toNat % 16)]

def Error.message (e : Error) : String :=
  if e.stop = e.first + 1 then
    s!"'utf-8' codec can't decode byte 0x{hexByte e.lead} in position {e.first}: {e.fault.message}"
  else
    s!"'utf-8' codec can't decode bytes in position {e.first}-{e.stop - 1}: {e.fault.message}"

-- How many bytes follow a lead byte, and the bounds of the first of them.
def following (lead : UInt8) : Option (Nat × UInt8 × UInt8) :=
  if lead < 0xC2 then none
  else if lead ≤ 0xDF then some (1, 0x80, 0xBF)
  else if lead = 0xE0 then some (2, 0xA0, 0xBF)
  else if lead = 0xED then some (2, 0x80, 0x9F)
  else if lead ≤ 0xEF then some (2, 0x80, 0xBF)
  else if lead = 0xF0 then some (3, 0x90, 0xBF)
  else if lead ≤ 0xF3 then some (3, 0x80, 0xBF)
  else if lead = 0xF4 then some (3, 0x80, 0x8F)
  else none

-- The continuation bytes at the front, at most `count`; only the first has its own bounds.
def tail (count : Nat) (low high : UInt8) (bytes : List UInt8) : List UInt8 :=
  match count, bytes with
  | n + 1, b :: rest => if low ≤ b ∧ b ≤ high then b :: tail n 0x80 0xBF rest else []
  | _, _ => []

def leadBits (lead : UInt8) : Nat → Nat
  | 1 => lead.toNat % 32
  | 2 => lead.toNat % 16
  | _ => lead.toNat % 8

def join (lead : UInt8) (rest : List UInt8) : Nat :=
  rest.foldl (fun n b => n * 64 + b.toNat % 64) (leadBits lead rest.length)

-- `position` counts the bytes read so far.
def decodeFrom (position : Nat) (bytes : List UInt8) : Except Error (List Char) :=
  match bytes with
  | [] => .ok []
  | lead :: rest =>
    if lead < 0x80 then
      (decodeFrom (position + 1) rest).map (Char.ofNat lead.toNat :: ·)
    else
      match following lead with
      | none => .error ⟨.start, lead, position, position + 1⟩
      | some (count, low, high) =>
        let more := tail count low high rest
        if more.length = count then
          (decodeFrom (position + 1 + count) (rest.drop count)).map
            (Half.hold (join lead more) ++ ·)
        else
          .error ⟨if more.length = rest.length then .endOfData else .continuation, lead, position,
            position + 1 + more.length⟩
termination_by bytes.length
decreasing_by
  · simp only [List.length_cons]
    omega
  · simp only [List.length_cons, List.length_drop]
    omega

def decode (bytes : List UInt8) : Except Error (List Char) := decodeFrom 0 bytes

def mark : List UInt8 := [0xEF, 0xBB, 0xBF]

-- A byte order mark at the front, whole or cut off by the end, is no part of the text.
def decodeMarked (bytes : List UInt8) : Except Error (List Char) :=
  if mark.isPrefixOf bytes then decode (bytes.drop 3)
  else if bytes.length < 3 ∧ bytes.isPrefixOf mark then .ok []
  else decode bytes

-- The code points from `first` up to, not including, `stop` are refused.
structure EncodeError where
  codePoint : Nat
  first : Nat
  stop : Nat
deriving DecidableEq, Repr

def EncodeError.message (e : EncodeError) : String :=
  if e.stop = e.first + 1 then
    let digits := String.ofList (Nat.toDigits 16 e.codePoint)
    s!"'utf-8' codec can't encode character '\\u{digits}' in position {e.first}: " ++
      "surrogates not allowed"
  else
    s!"'utf-8' codec can't encode characters in position {e.first}-{e.stop - 1}: " ++
      "surrogates not allowed"

-- The first halves that are refused, with those after them. `position` counts the code points so
-- far.
def refusal? (isRefused : Nat → Bool) (position : Nat) : List Nat → Option EncodeError
  | [] => none
  | n :: ns =>
    if isRefused n then some ⟨n, position, position + 1 + (ns.takeWhile Half.isHalf).length⟩
    else refusal? isRefused (position + 1) ns

def bytesOf (points : List Nat) : List UInt8 :=
  (String.ofList (points.map Char.ofNat)).toUTF8.toList

def encode (cs : List Char) : Except EncodeError (List UInt8) :=
  let points := Half.codePoints cs
  match refusal? Half.isHalf 0 points with
  | some e => .error e
  | none => .ok (bytesOf points)

-- In the name of a file a half from U+DC80 to U+DCFF is a byte that is no text.
def isByte (n : Nat) : Bool := 0xDC80 ≤ n && n ≤ 0xDCFF

def encodeName (cs : List Char) : Except EncodeError (List UInt8) :=
  let points := Half.codePoints cs
  match refusal? (fun n => Half.isHalf n && !isByte n) 0 points with
  | some e => .error e
  | none => .ok (points.flatMap fun n => if isByte n then [(n - 0xDC00).toUInt8] else bytesOf [n])

end FieldTemplates.Text.Utf8
