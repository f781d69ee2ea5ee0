import EntityForge.Json.Reader
import EntityForge.Text.Case
import EntityForge.Text.Split

/-!
Web addresses as far as the program looks at them: scheme, host part and path. Control characters
and spaces in front are dropped, tabs and line breaks anywhere. A host in brackets has to be an
internet address of the sixth version, or one of a later version.
-/
namespace EntityForge

structure Url where
  scheme : String
  host : String
  path : String
  deriving DecidableEq, Repr

namespace Url

def isSchemeChar (c : Char) : Bool :=
  c.toNat < 128 && (c.isAlphanum || c == '+' || c == '-' || c == '.')

def splitScheme (s : List Char) : List Char × List Char :=
  match Text.cutAt [':'] s with
  | some (c :: before, after) =>
    if c.toNat < 128 && c.isAlpha && before.all isSchemeChar then ((c :: before).map Char.toLower, after)
    else ([], s)
  | _ => ([], s)

def isOctet (s : List Char) : Bool :=
  match s with
  | [] => false
  | ['0'] => true
  | '0' :: _ => false
  | _ => s.length ≤ 3 && s.all Char.isDigit && Json.decimalNumber s ≤ 255

def isDotted (s : List Char) : Bool :=
  let parts := Text.splitAt (· == '.') s
  parts.length == 4 && parts.all isOctet

def isHextet (s : List Char) : Bool :=
  !s.isEmpty && s.length ≤ 4 && s.all fun c => (Json.hexDigit? c).isSome

/-- Groups between colons: eight of them, or fewer with one gap that stands for zeros. -/
def areGroups (parts : List (List Char)) : Bool :=
  let inner := (parts.drop 1).dropLast
  let gaps := (inner.filter List.isEmpty).length
  match gaps with
  | 0 => parts.length == 8 && parts.all isHextet
  | 1 =>
    let gap := (inner.takeWhile fun p => !p.isEmpty).length + 1
    let before := parts.take gap
    let after := parts.drop (gap + 1)
    let high := if before == [[]] then [] else before
    let low := if after == [[]] then [] else after
    parts.length ≤ 9 && high.all isHextet && low.all isHextet && high.length + low.length < 8
  | _ => false

def isSixth (s : List Char) : Bool :=
  let (address, zoned) := match Text.cutAt ['%'] s with
    | some (address, zone) => (address, !zone.isEmpty && !zone.contains '%')
    | none => (s, true)
  let parts := Text.splitAt (· == ':') address
  let last := parts.getLastD []
  let groups :=
    if last.contains '.' then
      if isDotted last then some (parts.dropLast ++ [['0'], ['0']]) else none
    else some parts
  zoned && parts.length ≥ 3 && groups.any areGroups

def isBracketed (s : List Char) : Bool :=
  match s with
  | 'v' :: rest =>
    match Text.cutAt ['.'] rest with
    | some (version, address) =>
      !version.isEmpty && version.all (fun c => (Json.hexDigit? c).isSome) && !address.isEmpty
    | none => false
  | _ => isSixth s

def hidesDelimiter (c : Char) : Bool :=
  [0x2047, 0x2048, 0x2049, 0x2100, 0x2101, 0x2105, 0x2106, 0x2A74, 0xFE13, 0xFE16, 0xFE55, 0xFE56,
    0xFE5F, 0xFE6B, 0xFF03, 0xFF0F, 0xFF1A, 0xFF1F, 0xFF20].contains c.toNat

def isHost (host : List Char) : Bool :=
  (host.contains '[' == host.contains ']') && !host.any hidesDelimiter &&
    (!host.contains '[' ||
      match Text.cutAt ['['] host with
      | some (_, rest) => isBracketed (rest.takeWhile (· != ']'))
      | none => true)

def dropParameters (path : List Char) : List Char :=
  let last := (path.reverse.takeWhile (· != '/')).reverse
  let before := path.take (path.length - last.length)
  before ++ last.takeWhile (· != ';')

def ofText? (s : String) : Option Url :=
  let trimmed := s.toList.dropWhile fun c => c.toNat ≤ 0x20
  let cleaned := trimmed.filter fun c => c != '\t' && c != '\r' && c != '\n'
  let (scheme, rest) := splitScheme cleaned
  let isDelimiter (c : Char) : Bool := c == '/' || c == '?' || c == '#'
  let (host, rest) := match rest with
    | '/' :: '/' :: after => (after.takeWhile (!isDelimiter ·), after.dropWhile (!isDelimiter ·))
    | _ => ([], rest)
  if !isHost host then none
  else
    let path := (rest.takeWhile (· != '#')).takeWhile (· != '?')
    some ⟨String.ofList scheme, String.ofList host, String.ofList (dropParameters path)⟩

def isWeb (u : Url) : Bool := (u.scheme == "http" || u.scheme == "https") && u.host != ""

end Url

end EntityForge
