import EntityForge.Text.Case
import EntityForge.Xml.NameData

/-!
The characters and names of XML.
-/
namespace EntityForge.Xml

def isChar (c : Char) : Bool :=
  c == '\t' || c == '\n' || c == '\r' || (0x20 ≤ c.toNat && c.toNat != 0xFFFE && c.toNat != 0xFFFF)

def isSpace (c : Char) : Bool := c == ' ' || c == '\t' || c == '\n' || c == '\r'

def isNameStart (c : Char) : Bool :=
  if c.toNat < 128 then c.isAlpha || c == '_' else Text.inBlocks nameStartBlocks c

def isNameChar (c : Char) : Bool :=
  if c.toNat < 128 then c.isAlphanum || c == '_' || c == '-' || c == '.'
  else Text.inBlocks nameStartBlocks c || Text.inBlocks nameExtraBlocks c

def skipSpace (s : List Char) : List Char := s.dropWhile isSpace

def space? : List Char → Option (List Char)
  | c :: rest => if isSpace c then some (skipSpace rest) else none
  | [] => none

def after? (word : String) (s : List Char) : Option (List Char) :=
  if word.toList.isPrefixOf s then some (s.drop word.length) else none

def readName : List Char → Option (List Char × List Char)
  | c :: rest =>
    if isNameStart c then some (c :: rest.takeWhile isNameChar, rest.dropWhile isNameChar) else none
  | [] => none

structure QName where
  space : Option String
  part : String
  deriving DecidableEq, Repr

def QName.text (n : QName) : String :=
  match n.space with
  | some space => space ++ ":" ++ n.part
  | none => n.part

def readQName (s : List Char) : Option (QName × List Char) := do
  let (first, rest) ← readName s
  match rest with
  | ':' :: tail =>
    let (second, rest) ← readName tail
    return (⟨some (String.ofList first), String.ofList second⟩, rest)
  | _ => return (⟨none, String.ofList first⟩, rest)

def readToken (s : List Char) : Option (List Char × List Char) :=
  let inToken (c : Char) : Bool := isNameChar c || c == ':'
  match s.takeWhile inToken with
  | [] => none
  | token => some (token, s.dropWhile inToken)

end EntityForge.Xml
