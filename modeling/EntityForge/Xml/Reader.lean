import EntityForge.Document.Fault
import EntityForge.Xml.Declaration
import EntityForge.Xml.Element

/-!
Well-formed XML documents with namespaces. Comments and processing instructions are dropped, a name
in a namespace is written with the namespace in braces before it.
-/
namespace EntityForge.Xml

abbrev Bindings := List (String × String)

def reservedSpace : String := "http://www.w3.org/XML/1998/namespace"

def declarationSpace : String := "http://www.w3.org/2000/xmlns/"

def startBindings : Bindings := [("xml", reservedSpace)]

def qualified (space part : String) : String :=
  if space = "" then part else "\x7b" ++ space ++ "\x7d" ++ part

def Bindings.bind (b : Bindings) (label space : String) : Option Bindings :=
  if label = "xmlns" || space = declarationSpace then none
  else if (label = "xml") != (space = reservedSpace) then none
  else if space = "" && label ≠ "" then none
  else if space.toList.contains '\x7d' then none
  else some ((label, space) :: b)

def declared? (n : QName) : Option String :=
  match n.space with
  | some "xmlns" => some n.part
  | some _ => none
  | none => if n.part = "xmlns" then some "" else none

structure RawAttribute where
  name : QName
  value : List Char
  deriving DecidableEq, Repr

def readAttributes (table : EntityTable) (rules : List AttributeRule) :
    Nat → List Char → Option (List RawAttribute × Bool × List Char)
  | 0, _ => none
  | fuel + 1, s =>
    match skipSpace s with
    | '>' :: tail => some ([], false, tail)
    | '/' :: '>' :: tail => some ([], true, tail)
    | _ => do
      let (name, rest) ← readQName (← space? s)
      match skipSpace rest with
      | '=' :: rest =>
        let (body, rest) ← readQuoted (skipSpace rest)
        let value ← attributeValue table body
        let free := match rules.find? fun r => r.name == name with
          | some rule => rule.free
          | none => true
        let (more, tail) ← readAttributes table rules fuel rest
        return (⟨name, if free then value else tokenized value⟩ :: more, tail)
      | _ => none

def Doctype.rulesOf (d : Doctype) (element : QName) : List AttributeRule :=
  ((d.rules.filter fun r => r.1 = element.text).map Prod.snd).foldl
    (fun found rule => if found.any (fun r => r.name == rule.name) then found else found ++ [rule]) []

def withDefaults (rules : List AttributeRule) (given : List RawAttribute) : List RawAttribute :=
  given ++ rules.filterMap fun rule =>
    if given.any fun a => a.name == rule.name then none
    else rule.default.map fun value => ⟨rule.name, value⟩

def bindAll (b : Bindings) : List RawAttribute → Option Bindings
  | [] => some b
  | a :: rest =>
    match declared? a.name with
    | some label => do bindAll (← b.bind label (String.ofList a.value)) rest
    | none => bindAll b rest

def elementName (b : Bindings) (n : QName) : Option String :=
  match n.space with
  | some label => (b.lookup label).map fun space => qualified space n.part
  | none => some (qualified ((b.lookup "").getD "") n.part)

def attributeNames (b : Bindings) : List RawAttribute → Option (List (String × String))
  | [] => some []
  | a :: rest =>
    match declared? a.name with
    | some _ => attributeNames b rest
    | none => do
      let name ← match a.name.space with
        | some label => (b.lookup label).map fun space => qualified space a.name.part
        | none => some a.name.part
      let more ← attributeNames b rest
      return (name, String.ofList a.value) :: more

inductive Item where
  | text (s : List Char)
  | element (e : Element)

def leadingText : List Item → List Char
  | .text s :: rest => s ++ leadingText rest
  | _ => []

def elements : List Item → List Element
  | [] => []
  | .element e :: rest => e :: elements rest
  | .text _ :: rest => elements rest

mutual

def readContent (d : Doctype) (inner : Bindings → String → Option (List Item)) :
    Nat → Bindings → List Char → Option (List Item × List Char)
  | 0, _, _ => none
  | fuel + 1, b, s =>
    match s with
    | [] => some ([], [])
    | '<' :: '/' :: _ => some ([], s)
    | '<' :: '!' :: '-' :: '-' :: rest => (skipComment rest).bind (readContent d inner fuel b)
    | '<' :: '!' :: rest => do
      let (body, rest) ← Text.cutAt [']', ']', '>'] (← after? "[CDATA[" rest)
      if !body.all isChar then none
      else
        let (items, tail) ← readContent d inner fuel b rest
        return (.text body :: items, tail)
    | '<' :: '?' :: rest => (skipInstruction rest).bind (readContent d inner fuel b)
    | '<' :: rest => do
      let (element, rest) ← readElement d inner fuel b rest
      let (items, tail) ← readContent d inner fuel b rest
      return (.element element :: items, tail)
    | '&' :: rest =>
      match readReference rest with
      | none => none
      | some (.char c, rest) => do
        let (items, tail) ← readContent d inner fuel b rest
        return (.text [c] :: items, tail)
      | some (.entity name, rest) => do
        let replacement ← inner b name
        let (items, tail) ← readContent d inner fuel b rest
        return (replacement ++ items, tail)
    | ']' :: ']' :: '>' :: _ => none
    | c :: rest => do
      let plain := rest.takeWhile fun c => c != '<' && c != '&' && c != ']'
      let body := c :: plain
      if !body.all isChar then none
      else
        let (items, tail) ← readContent d inner fuel b (rest.drop plain.length)
        return (.text body :: items, tail)

def readElement (d : Doctype) (inner : Bindings → String → Option (List Item)) :
    Nat → Bindings → List Char → Option (Element × List Char)
  | 0, _, _ => none
  | fuel + 1, b, s => do
    let (name, rest) ← readQName s
    let rules := d.rulesOf name
    let (given, empty, rest) ← readAttributes d.table rules (rest.length + 1) rest
    if !(given.map RawAttribute.name).Nodup then none
    else
      let attributes := withDefaults rules given
      let b ← bindAll b attributes
      let tag ← elementName b name
      let named ← attributeNames b attributes
      if !(named.map Prod.fst).Nodup then none
      else if empty then return (.mk tag named "" [], rest)
      else
        let (items, rest) ← readContent d inner fuel b rest
        let rest ← close? (← after? name.text (← after? "</" rest))
        return (.mk tag named (String.ofList (leadingText items)) (elements items), rest)

end

/-- The content of an entity, `depth` entities deep: it has to close what it opens. -/
def entityContent (d : Doctype) : Nat → Bindings → String → Option (List Item)
  | 0, _, _ => none
  | depth + 1, b, name =>
    match d.table.entries.lookup name with
    | some (some text) =>
      match readContent d (entityContent d depth) (2 * text.length + 2) b text with
      | some (items, []) => some items
      | _ => none
    | _ => none

def skipMisc : Nat → List Char → Option (List Char)
  | 0, s => some s
  | fuel + 1, s =>
    match skipSpace s with
    | '<' :: '!' :: '-' :: '-' :: rest => (skipComment rest).bind (skipMisc fuel)
    | '<' :: '?' :: rest => (skipInstruction rest).bind (skipMisc fuel)
    | rest => some rest

def readSetting (name : String) (s : List Char) : Option (String × List Char) := do
  let rest ← after? name (← space? s)
  match skipSpace rest with
  | '=' :: rest =>
    let (body, tail) ← readQuoted (skipSpace rest)
    let allowed (c : Char) : Bool := (c.toNat < 128 && c.isAlphanum) || c == '.' || c == '-' || c == '_'
    if body.all allowed then some (String.ofList body, tail) else none
  | _ => none

def readProlog (s : List Char) : Option (Bool × List Char) := do
  let (_, rest) ← readSetting "version" s
  let rest ← match readSetting "encoding" rest with
    | some (name, tail) =>
      match name.toList with
      | c :: _ => if c.isAlpha then some tail else none
      | [] => none
    | none => some rest
  let (standalone, rest) ← match readSetting "standalone" rest with
    | some ("yes", tail) => some (true, tail)
    | some ("no", tail) => some (false, tail)
    | some _ => none
    | none => some (false, rest)
  match skipSpace rest with
  | '?' :: '>' :: tail => some (standalone, tail)
  | _ => none

def normalizeLines : List Char → List Char
  | [] => []
  | '\r' :: '\n' :: rest => '\n' :: normalizeLines rest
  | '\r' :: rest => '\n' :: normalizeLines rest
  | c :: rest => c :: normalizeLines rest

def readDocument (text : String) : Option Element := do
  let s := normalizeLines (match text.toList with
    | '\ufeff' :: rest => rest
    | cs => cs)
  let (standalone, s) ← match after? "<?xml" s with
    | some rest =>
      match rest with
      | c :: _ => if isSpace c then readProlog rest else some (false, s)
      | [] => none
    | none => some (false, s)
  let fuel := s.length + 1
  let s ← skipMisc fuel s
  let (d, s) ← match after? "<!DOCTYPE" s with
    | some rest => do
      let (d, rest) ← readDoctype standalone rest
      pure (d, ← skipMisc fuel rest)
    | none => some ({ standalone }, s)
  match s with
  | '<' :: rest =>
    let inner := entityContent d (d.table.entries.length + 1)
    let (element, rest) ← readElement d inner (2 * s.length + 2) startBindings rest
    let rest ← skipMisc fuel rest
    if rest.isEmpty then some element else none
  | _ => none

def depthLimit : Nat := 970

def parse (text : String) : Except ReadFault Element :=
  match readDocument text with
  | none => .error .malformed
  | some element =>
    if element.depth ≤ depthLimit then .ok element else .error (.impossible "nesting too deep")

end EntityForge.Xml
