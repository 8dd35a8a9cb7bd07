import FieldTemplates.Text.LowerCase.Table
import FieldTemplates.Text.Printable

namespace FieldTemplates.Text

def lowerChar (c : Char) : Char :=
  if c.toNat < 0x80 then c.toLower
  else
    match caseRuns.find? (fun r => r.first ≤ c.toNat && c.toNat ≤ r.last &&
        (c.toNat - r.first) % r.step == 0) with
    | some r => Char.ofNat (Int.toNat (c.toNat + r.offset))
    | none => c

def isCased (c : Char) : Bool := inRanges casedRanges c.toNat

def isSkipped (c : Char) : Bool := inRanges skippedRanges c.toNat

-- Whether the nearest character that is not skipped has case.
def meetsCased (cs : List Char) : Bool :=
  match cs.dropWhile isSkipped with
  | [] => false
  | c :: _ => isCased c

-- `before` holds what stands in front, nearest first.
def lowerFrom (before : List Char) : List Char → List Char
  | [] => []
  | 'Σ' :: cs =>
    (if meetsCased before && !meetsCased cs then 'ς' else 'σ') :: lowerFrom ('Σ' :: before) cs
  | 'İ' :: cs => 'i' :: '\u0307' :: lowerFrom ('İ' :: before) cs
  | c :: cs => lowerChar c :: lowerFrom (c :: before) cs

def lower (s : String) : String := String.ofList (lowerFrom [] s.toList)

end FieldTemplates.Text
