import EntityForge.Text.Split
import EntityForge.Xml.Reference

/-!
The document type declaration. Its internal subset declares entities and gives elements default
attributes; declarations of other kinds only have to be well formed. A reference to declarations that
are not read ends the processing of further ones, unless the document says that it stands alone.
-/
namespace EntityForge.Xml

structure AttributeRule where
  name : QName
  free : Bool
  default : Option (List Char)
  deriving DecidableEq, Repr

structure Doctype where
  table : EntityTable := {}
  rules : List (String × AttributeRule) := []
  /-- Declarations are still heeded. -/
  heeded : Bool := true
  standalone : Bool := false
  deriving DecidableEq, Repr

def skipComment (s : List Char) : Option (List Char) := do
  let (body, rest) ← Text.cutAt ['-', '-'] s
  match rest with
  | '>' :: tail => if body.all isChar then some tail else none
  | _ => none

def skipInstruction (s : List Char) : Option (List Char) := do
  let (target, rest) ← readName s
  if Text.lower target == ['x', 'm', 'l'] then none
  else match rest with
    | '?' :: '>' :: tail => some tail
    | c :: _ =>
      if isSpace c then
        let (body, tail) ← Text.cutAt ['?', '>'] rest
        if body.all isChar then some tail else none
      else none
    | [] => none

def isPublic (c : Char) : Bool :=
  c == ' ' || c == '\n' || c == '\r' || (c.toNat < 128 && c.isAlphanum) ||
    "-'()+,./:=?;!*#@$_%".toList.contains c

def skipExternal (short : Bool) (s : List Char) : Option (List Char) :=
  match after? "SYSTEM" s with
  | some rest => do
    let (_, tail) ← readQuoted (← space? rest)
    return tail
  | none => do
    let (id, tail) ← readQuoted (← space? (← after? "PUBLIC" s))
    if !id.all isPublic then none
    else
      let second := (space? tail).bind readQuoted
      match second with
      | some (_, tail) => some tail
      | none => if short then some tail else none

def entityText : Nat → List Char → Option (List Char)
  | 0, _ => some []
  | _, [] => some []
  | fuel + 1, '&' :: rest =>
    match rest with
    | '#' :: _ =>
      match readReference rest with
      | some (.char c, tail) => (entityText fuel tail).map (c :: ·)
      | _ => none
    | _ =>
      match readName rest with
      | some (name, ';' :: tail) => (entityText fuel tail).map fun after => '&' :: name ++ ';' :: after
      | _ => none
  | fuel + 1, c :: rest => if c == '%' then none else (entityText fuel rest).map (c :: ·)

def skipMark : List Char → List Char
  | '?' :: rest => rest
  | '*' :: rest => rest
  | '+' :: rest => rest
  | s => s

mutual

def skipParticle : Nat → List Char → Option (List Char)
  | 0, _ => none
  | fuel + 1, '(' :: rest => (skipGroup fuel none (skipSpace rest)).map skipMark
  | _ + 1, s => (readQName s).map fun (_, rest) => skipMark rest

def skipGroup : Nat → Option Char → List Char → Option (List Char)
  | 0, _, _ => none
  | fuel + 1, separator, s => do
    let rest ← skipParticle fuel s
    match skipSpace rest with
    | ')' :: tail => some tail
    | c :: tail =>
      if (c == '|' || c == ',') && (separator == none || separator == some c) then
        skipGroup fuel (some c) (skipSpace tail)
      else none
    | [] => none

end

def skipMixed : Nat → Bool → List Char → Option (List Char)
  | 0, _, _ => none
  | fuel + 1, named, s =>
    match skipSpace s with
    | ')' :: '*' :: tail => some tail
    | ')' :: tail => if named then none else some tail
    | '|' :: tail => do
      let (_, rest) ← readQName (skipSpace tail)
      skipMixed fuel true rest
    | _ => none

def skipContentModel (s : List Char) : Option (List Char) :=
  match after? "EMPTY" s, after? "ANY" s with
  | some rest, _ => some rest
  | _, some rest => some rest
  | none, none =>
    match s with
    | '(' :: rest =>
      match after? "#PCDATA" (skipSpace rest) with
      | some tail => skipMixed (s.length + 1) false tail
      | none => skipParticle (2 * s.length + 2) s
    | _ => none

def skipChoices : Nat → List Char → Option (List Char)
  | 0, _ => none
  | fuel + 1, s => do
    let (_, rest) ← readToken (skipSpace s)
    match skipSpace rest with
    | ')' :: tail => some tail
    | '|' :: tail => skipChoices fuel tail
    | _ => none

def readKind (s : List Char) : Option (Bool × List Char) :=
  match s with
  | '(' :: rest => (skipChoices (s.length + 1) rest).map fun tail => (false, tail)
  | _ => do
    let (word, rest) ← readName s
    match String.ofList word with
    | "CDATA" => some (true, rest)
    | "NOTATION" =>
      match skipSpace rest with
      | '(' :: tail => (skipChoices (s.length + 1) tail).map fun tail => (false, tail)
      | _ => none
    | other =>
      if other ∈ ["ID", "IDREF", "IDREFS", "ENTITY", "ENTITIES", "NMTOKEN", "NMTOKENS"] then
        some (false, rest)
      else none

def readDefault (table : EntityTable) (free : Bool) (s : List Char) :
    Option (Option (List Char) × List Char) :=
  match after? "#REQUIRED" s, after? "#IMPLIED" s with
  | some rest, _ => some (none, rest)
  | _, some rest => some (none, rest)
  | none, none => do
    let start ← match after? "#FIXED" s with
      | some rest => space? rest
      | none => some s
    let (body, rest) ← readQuoted start
    let value ← attributeValue table body
    return (some (if free then value else tokenized value), rest)

def readRules (table : EntityTable) (element : String) :
    Nat → List Char → Option (List (String × AttributeRule) × List Char)
  | 0, _ => none
  | fuel + 1, s =>
    match skipSpace s with
    | '>' :: tail => some ([], tail)
    | _ => do
      let (name, rest) ← readQName (← space? s)
      let (free, rest) ← readKind (← space? rest)
      let (default, rest) ← readDefault table free (← space? rest)
      let (rules, tail) ← readRules table element fuel rest
      return ((element, ⟨name, free, default⟩) :: rules, tail)

def close? (s : List Char) : Option (List Char) :=
  match skipSpace s with
  | '>' :: tail => some tail
  | _ => none

def Doctype.addEntity (d : Doctype) (name : String) (text : Option (List Char)) : Doctype :=
  if d.heeded && (d.table.entries.lookup name).isNone then
    { d with table := { d.table with entries := d.table.entries ++ [(name, text)] } }
  else d

def readDefinition (heeded : Bool) (s : List Char) : Option (Option (List Char) × List Char) :=
  match readQuoted s with
  | some (body, rest) => do
    let text ← if heeded then entityText (body.length + 1) body else some body
    return (some text, rest)
  | none => do
    let rest ← skipExternal false s
    let tail := match (space? rest).bind (after? "NDATA") with
      | some rest => ((space? rest).bind readName).map Prod.snd
      | none => some rest
    return (none, ← tail)

def readEntity (d : Doctype) (s : List Char) : Option (Doctype × List Char) := do
  let rest ← space? s
  match rest with
  | '%' :: rest =>
    let (_, rest) ← readName (← space? rest)
    let (_, rest) ← readDefinition d.heeded (← space? rest)
    return (d, ← close? rest)
  | _ =>
    let (name, rest) ← readName rest
    let (text, rest) ← readDefinition d.heeded (← space? rest)
    return (d.addEntity (String.ofList name) text, ← close? rest)

def readDeclaration (d : Doctype) (s : List Char) : Option (Doctype × List Char) :=
  if let some rest := after? "ENTITY" s then readEntity d rest
  else if let some rest := after? "ATTLIST" s then do
    let (element, rest) ← readQName (← space? rest)
    let (rules, tail) ← readRules d.table element.text (rest.length + 1) rest
    return (if d.heeded then { d with rules := d.rules ++ rules } else d, tail)
  else if let some rest := after? "ELEMENT" s then do
    let (_, rest) ← readQName (← space? rest)
    let rest ← skipContentModel (← space? rest)
    return (d, ← close? rest)
  else if let some rest := after? "NOTATION" s then do
    let (_, rest) ← readName (← space? rest)
    let rest ← skipExternal true (← space? rest)
    return (d, ← close? rest)
  else none

def readSubset : Nat → Doctype → List Char → Option (Doctype × List Char)
  | 0, _, _ => none
  | fuel + 1, d, s =>
    match skipSpace s with
    | ']' :: tail => some (d, tail)
    | '%' :: rest =>
      match readName rest with
      | some (_, ';' :: tail) =>
        readSubset fuel { d with
          heeded := d.heeded && d.standalone
          table := { d.table with lenient := d.table.lenient || !d.standalone } } tail
      | _ => none
    | '<' :: '!' :: '-' :: '-' :: rest => (skipComment rest).bind (readSubset fuel d)
    | '<' :: '?' :: rest => (skipInstruction rest).bind (readSubset fuel d)
    | '<' :: '!' :: rest => do
      let (d, tail) ← readDeclaration d rest
      readSubset fuel d tail
    | _ => none

def readDoctype (standalone : Bool) (s : List Char) : Option (Doctype × List Char) := do
  let (_, rest) ← readQName (← space? s)
  let (lenient, rest) :=
    match (space? rest).bind (skipExternal false) with
    | some tail => (!standalone, tail)
    | none => (false, rest)
  let start : Doctype := { table := { lenient }, standalone }
  match skipSpace rest with
  | '>' :: tail => some (start, tail)
  | '[' :: tail =>
    let (d, rest) ← readSubset (tail.length + 1) start tail
    return (d, ← close? rest)
  | _ => none

end EntityForge.Xml
