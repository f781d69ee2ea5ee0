import EntityForge.Json.Reader
import EntityForge.Text.Split
import EntityForge.Xml.Name

/-!
References in character data and attribute values: characters by number, the five predefined
entities, and entities that the document declares. The text of a declared entity may hold further
references; an entity that leads back to itself is refused.
-/
namespace EntityForge.Xml

def predefined? (name : String) : Option Char :=
  [("lt", '<'), ("gt", '>'), ("amp", '&'), ("quot", '"'), ("apos", '\'')].lookup name

inductive Reference where
  | char (c : Char)
  | entity (name : String)
  deriving DecidableEq, Repr

def charOf? (n : Nat) : Option Char :=
  if n < 0x110000 && !(0xD800 ≤ n && n < 0xE000) && isChar (Char.ofNat n) then some (Char.ofNat n) else none

def readReference (s : List Char) : Option (Reference × List Char) :=
  match s with
  | '#' :: 'x' :: rest =>
    let digits := rest.takeWhile fun c => (Json.hexDigit? c).isSome
    match digits, rest.drop digits.length with
    | _ :: _, ';' :: tail => do
      let c ← charOf? (← Json.hexNumber? digits)
      return (.char c, tail)
    | _, _ => none
  | '#' :: rest =>
    let digits := rest.takeWhile Char.isDigit
    match digits, rest.drop digits.length with
    | _ :: _, ';' :: tail => do
      let c ← charOf? (Json.decimalNumber digits)
      return (.char c, tail)
    | _, _ => none
  | _ =>
    match readName s with
    | some (name, ';' :: tail) =>
      let name := String.ofList name
      match predefined? name with
      | some c => some (.char c, tail)
      | none => some (.entity name, tail)
    | _ => none

/-- The declared entities of a document: their text, or `none` for one that lies outside. `lenient`
when the document refers to declarations that are not read, so that an unknown name in an attribute
stands for nothing. -/
structure EntityTable where
  entries : List (String × Option (List Char)) := []
  lenient : Bool := false
  deriving DecidableEq, Repr

def expandAttribute (inner : String → Option (List Char)) : Nat → List Char → Option (List Char)
  | 0, _ => some []
  | _, [] => some []
  | fuel + 1, '&' :: rest =>
    match readReference rest with
    | some (.char c, tail) => (expandAttribute inner fuel tail).map (c :: ·)
    | some (.entity name, tail) => do
      let replacement ← inner name
      let after ← expandAttribute inner fuel tail
      return replacement ++ after
    | none => none
  | fuel + 1, c :: rest =>
    if c == '<' || !isChar c then none
    else (expandAttribute inner fuel rest).map ((if isSpace c then ' ' else c) :: ·)

def attributeEntity (table : EntityTable) : Nat → String → Option (List Char)
  | 0, _ => none
  | depth + 1, name =>
    match table.entries.lookup name with
    | some (some text) => expandAttribute (attributeEntity table depth) (text.length + 1) text
    | some none => none
    | none => if table.lenient then some [] else none

def attributeValue (table : EntityTable) (s : List Char) : Option (List Char) :=
  expandAttribute (attributeEntity table (table.entries.length + 1)) (s.length + 1) s

def tokenized (s : List Char) : List Char :=
  Text.join [' '] ((Text.splitAt (· == ' ') s).filter fun token => !token.isEmpty)

def readQuoted : List Char → Option (List Char × List Char)
  | q :: rest =>
    if q == '"' || q == '\'' then
      let body := rest.takeWhile (· != q)
      match rest.drop body.length with
      | _ :: tail => if body.all isChar then some (body, tail) else none
      | [] => none
    else none
  | [] => none

end EntityForge.Xml
