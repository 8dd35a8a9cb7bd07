import FieldTemplates.Text.Quoted
import FieldTemplates.Web.Host

namespace FieldTemplates.Web

structure Url where
  scheme : List Char
  authority : List Char
deriving DecidableEq, Repr

namespace Url

inductive Error where
  -- Square brackets that do not stand around a whole host.
  | brackets
  | future
  | version4
  | noAddress (host : String)
  -- A character that reads as one of the marks that end an authority.
  | lookalike (authority : String)
deriving DecidableEq, Repr

def Error.message : Error → String
  | .brackets => "Invalid IPv6 URL"
  | .future => "IPvFuture address is invalid"
  | .version4 => "An IPv4 address cannot be in brackets"
  | .noAddress host => Text.quoted host ++ " does not appear to be an IPv4 or IPv6 address"
  | .lookalike a => s!"netloc '{a}' contains invalid characters under NFKC normalization"

-- Blanks and controls in front, and line breaks and tabs anywhere, are no part of an address.
def clean (cs : List Char) : List Char :=
  (cs.dropWhile (·.toNat ≤ 0x20)).filter fun c => c != '\t' && c != '\n' && c != '\r'

def isSchemeChar (c : Char) : Bool := c.isAlphanum || c == '+' || c == '-' || c == '.'

-- The scheme in small letters, and what follows its colon; no scheme where none is well formed.
def splitScheme (cs : List Char) : List Char × List Char :=
  let (scheme, rest) := cs.span (· != ':')
  match rest with
  | _ :: rest =>
    if scheme.head?.any Char.isAlpha && scheme.all isSchemeChar then (scheme.map Char.toLower, rest)
    else ([], cs)
  | [] => ([], cs)

def endsAuthority (c : Char) : Bool := c == '/' || c == '?' || c == '#'

def authorityOf : List Char → List Char
  | '/' :: '/' :: cs => cs.takeWhile (!endsAuthority ·)
  | _ => []

-- Characters whose compatibility form (Unicode 14) holds one of `/ ? # @ :`.
def lookalikes : List Nat := [
  0x2047, 0x2048, 0x2049, 0x2100, 0x2101, 0x2105, 0x2106, 0x2A74, 0xFE13, 0xFE16, 0xFE55, 0xFE56,
  0xFE5F, 0xFE6B, 0xFF03, 0xFF0F, 0xFF1A, 0xFF1F, 0xFF20]

def checkHost (host : List Char) : Except Error Unit :=
  if host.head? == some 'v' then if Host.isFuture host then .ok () else .error .future
  else if Host.isVersion4 host then .error .version4
  else if Host.isVersion6 host then .ok ()
  else .error (.noAddress (String.ofList host))

def afterLast (mark : Char) (cs : List Char) : List Char :=
  (cs.reverse.takeWhile (· != mark)).reverse

-- The host of an authority with square brackets, behind which only a colon may stand. Brackets
-- before the at sign count, too, but then the host has none.
def bracketedHost (authority : List Char) : Except Error (List Char) :=
  let place := afterLast '@' authority
  match place.span (· != '[') with
  | ([], _ :: inside) =>
    match inside.span (· != ']') with
    | (host, []) | (host, [']']) | (host, ']' :: ':' :: _) => .ok host
    | _ => .error .brackets
  | (_, []) => .ok (place.takeWhile (· != ':'))
  | _ => .error .brackets

def checkBrackets (authority : List Char) : Except Error Unit :=
  match authority.contains '[', authority.contains ']' with
  | true, true => bracketedHost authority >>= checkHost
  | false, false => .ok ()
  | _, _ => .error .brackets

def ofText (s : String) : Except Error Url := do
  let (scheme, rest) := splitScheme (clean s.toList)
  let authority := authorityOf rest
  checkBrackets authority
  if authority.any (lookalikes.contains ·.toNat) then
    .error (.lookalike (String.ofList authority))
  else .ok ⟨scheme, authority⟩

-- Whether an address names a host that can be asked.
def isWeb (u : Url) : Bool :=
  (u.scheme == "http".toList || u.scheme == "https".toList) && !u.authority.isEmpty

end Url

end FieldTemplates.Web
