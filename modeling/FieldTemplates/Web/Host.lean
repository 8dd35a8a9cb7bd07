import FieldTemplates.Number.Digits
import FieldTemplates.Text.Lines

namespace FieldTemplates.Web.Host

-- A number below 256 without zeros in front.
def isOctet (cs : List Char) : Bool :=
  cs.all Char.isDigit && 0 < cs.length && cs.length ≤ 3 &&
    (cs.length = 1 || cs.head? != some '0') && Digits.value cs ≤ 255

def isVersion4 (cs : List Char) : Bool :=
  let octets := Text.pieces '.' cs
  octets.length = 4 && octets.all isOctet

def isHexDigit (c : Char) : Bool :=
  c.isDigit || ('a' ≤ c && c ≤ 'f') || ('A' ≤ c && c ≤ 'F')

def isGroup (cs : List Char) : Bool := 0 < cs.length && cs.length ≤ 4 && cs.all isHexDigit

-- Two groups take the place of a version 4 address at the end.
def withoutVersion4 (parts : List (List Char)) : Option (List (List Char)) :=
  match parts.getLast? with
  | some last =>
    if last.contains '.' then
      if isVersion4 last then some (parts.dropLast ++ [['0'], ['0']]) else none
    else some parts
  | none => none

-- The groups on one side of the gap: an empty part only stands for a gap at the very end.
def sideGroups (parts : List (List Char)) : Option (List (List Char)) :=
  if parts == [[]] then some [] else if parts.all isGroup then some parts else none

-- Whether the parts between colons make up eight groups, of which a gap leaves out at least one.
def areGroups (parts : List (List Char)) : Bool :=
  let inner := (parts.drop 1).dropLast
  match inner.count [] with
  | 0 => parts.length = 8 && parts.all isGroup
  | 1 =>
    let before := inner.takeWhile (!·.isEmpty)
    let high := sideGroups (parts.take (before.length + 1))
    let low := sideGroups (parts.drop (before.length + 2))
    match high, low with
    | some high, some low => high.length + low.length < 8
    | _, _ => false
  | _ => false

-- The address without its zone, which follows a percent sign.
def withoutZone (cs : List Char) : Option (List Char) :=
  match cs.span (· != '%') with
  | (address, []) => some address
  | (address, _ :: zone) => if zone.isEmpty || zone.contains '%' then none else some address

def isVersion6 (cs : List Char) : Bool :=
  match (withoutZone cs).bind fun address =>
      let parts := Text.pieces ':' address
      if parts.length < 3 then none else withoutVersion4 parts with
  | some parts => parts.length ≤ 9 && areGroups parts
  | none => false

-- A version to come: `v`, its number, a dot, and anything.
def isFuture (cs : List Char) : Bool :=
  match cs with
  | 'v' :: rest =>
    match rest.span isHexDigit with
    | (_ :: _, '.' :: _ :: _) => true
    | _ => false
  | _ => false

end FieldTemplates.Web.Host
