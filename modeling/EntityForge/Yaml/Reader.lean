import EntityForge.Yaml.Node

/-!
The data that YAML documents stand for. Keys that are written as scalars stay text, so that a column
may be called `null` or `on`; a mapping under the merge key gives its entries to the mapping around
it, before the ones written there.

A collection is an empty object first and is filled after all that were met before it. So one that is
inside itself is the same object there.
-/
namespace EntityForge.Yaml

def withoutUnderscores (s : String) : List Char := s.toList.filter (· != '_')

def intOf? (s : String) : Option Atom := do
  let (negative, unsigned) := cutSign (withoutUnderscores s)
  let amount ← match unsigned with
    | ['0'] => some 0
    | '0' :: 'b' :: rest => integer? 2 rest
    | '0' :: 'x' :: rest => integer? 16 rest
    | '0' :: _ => integer? 8 unsigned
    | _ =>
      if unsigned.isEmpty then none
      else if unsigned.contains ':' then
        ((Text.splitAt (· == ':') unsigned).mapM (integer? 10)).map sexagesimal
      else integer? 10 unsigned
  return .int (if negative then -amount else amount)

def floatOf? (s : String) : Option Atom := do
  let (negative, unsigned) := cutSign (Text.lower (withoutUnderscores s))
  if unsigned == ".nan".toList then return .float (0.0 / 0.0)
  let amount ←
    if unsigned.isEmpty then none
    else if unsigned == ".inf".toList then some (1.0 / 0.0)
    else if unsigned.contains ':' then do
      let parts ← (Text.splitAt (· == ':') unsigned).mapM float?
      let step (acc : Float × Float) (part : Float) : Float × Float := (acc.1 + part * acc.2, acc.2 * 60)
      pure (parts.reverse.foldl step (0.0, 1.0)).1
    else float? unsigned
  return .float (if negative then -amount else amount)

def boolOf? (s : String) : Option Atom :=
  let word := Text.lowercase s
  if word == "yes" || word == "true" || word == "on" then some (.bool true)
  else if word == "no" || word == "false" || word == "off" then some (.bool false)
  else none

def sixBits? (c : Char) : Option Nat :=
  if 'A' ≤ c ∧ c ≤ 'Z' then some (c.toNat - 65)
  else if 'a' ≤ c ∧ c ≤ 'z' then some (c.toNat - 71)
  else if '0' ≤ c ∧ c ≤ '9' then some (c.toNat + 4)
  else if c = '+' then some 62
  else if c = '/' then some 63
  else none

/-- The six-bit groups up to the padding that completes a group of four, and whether they are
complete. Characters that are neither are passed over. -/
def sixBitGroups (count pads : Nat) : List Char → List Nat × Bool
  | [] => ([], count % 4 == 0)
  | c :: rest =>
    if c == '=' then
      if count % 4 ≥ 2 && count % 4 + pads + 1 ≥ 4 then ([], true)
      else sixBitGroups count (if count % 4 ≥ 2 then pads + 1 else pads) rest
    else match sixBits? c with
      | some n =>
        let (groups, complete) := sixBitGroups (count + 1) 0 rest
        (n :: groups, complete)
      | none => sixBitGroups count pads rest

def bytesOfGroups : List Nat → List UInt8
  | a :: b :: c :: d :: rest =>
    (a * 4 + b / 16).toUInt8 :: (b * 16 + c / 4).toUInt8 :: (c * 64 + d).toUInt8 :: bytesOfGroups rest
  | [a, b, c] => [(a * 4 + b / 16).toUInt8, (b * 16 + c / 4).toUInt8]
  | [a, b] => [(a * 4 + b / 16).toUInt8]
  | _ => []

def binaryOf? (s : String) : Option Atom :=
  if s.toList.any fun c => c.toNat ≥ 128 then none
  else
    match sixBitGroups 0 0 s.toList with
    | (groups, true) => some (.bytes (bytesOfGroups groups))
    | (_, false) => none

def timeOf? (s : String) : Option Atom := (Stamp.ofText? s.toList).bind Stamp.atom?

def impossibleText : ReadFault := .impossible "text that the tag does not allow"

def Tag.read (tag : Tag) (text : String) : Except ReadFault Atom :=
  match tag with
  | .null => .ok .null
  | .text => .ok (.text text)
  | .bool => (boolOf? text).elim (.error impossibleText) .ok
  | .int => (intOf? text).elim (.error impossibleText) .ok
  | .float => (floatOf? text).elim (.error impossibleText) .ok
  | .binary => (binaryOf? text).elim (.error .malformed) .ok
  | .timestamp => (timeOf? text).elim (.error impossibleText) .ok
  | _ => .error .malformed

def Shape.entries : Shape → List (Nat × Nat)
  | .mapping entries => entries
  | _ => []

def Shape.isMapping : Shape → Bool
  | .mapping _ => true
  | _ => false

def Shape.isScalar : Shape → Bool
  | .scalar _ => true
  | _ => false

def entriesAt (nodes : List Node) (place : Nat) : List (Nat × Nat) := (nodeAt nodes place).shape.entries

def setEntries (nodes : List Node) (place : Nat) (entries : List (Nat × Nat)) : List Node :=
  nodes.set place ⟨(nodeAt nodes place).tag, .mapping entries⟩

def asText (nodes : List Node) (key : Nat) : List Node :=
  if (nodeAt nodes key).tag = .default then nodes.set key ⟨.text, (nodeAt nodes key).shape⟩ else nodes

def isMerge (nodes : List Node) (e : Nat × Nat) : Bool := (nodeAt nodes e.1).tag == .merge

def mergeCount (nodes : List Node) : Nat :=
  (nodes.flatMap fun node => node.shape.entries).countP (isMerge nodes)

def merged? (nodes : List Node) (place : Nat) : Option (List Nat) :=
  match (nodeAt nodes place).shape with
  | .scalar _ => none
  | .sequence items => some items
  | .mapping _ => some [place]

structure Building where
  nodes : List Node
  built : List (Nat × Part) := []
  objects : List Object := []
  waiting : List (Nat × Nat) := []

abbrev Builder := StateT Building (Except ReadFault)

namespace Builder

def reject {α : Type} : Builder α := throw .malformed

def given (flatten : Nat → Builder Unit) (item : Nat) : Builder (List (Nat × Nat)) := do
  if !(nodeAt (← get).nodes item).shape.isMapping then reject
  flatten item
  return entriesAt (← get).nodes item

/-- Takes the merges out of a mapping one by one; `inherited` is what those taken out before gave. What
is merged has its own merges taken out first. Where it leads back to the mapping, that has lost the
merge already. Of several mappings under one key the last comes first. -/
def flatten : Nat → List (Nat × Nat) → Nat → Builder Unit
  | 0, _, _ => return
  | steps + 1, inherited, place => do
    let nodes := (← get).nodes
    let entries := entriesAt nodes place
    match entries.find? (isMerge nodes) with
    | none =>
      let nodes := entries.foldl (fun nodes e => asText nodes e.1) nodes
      modify fun s => { s with nodes := setEntries nodes place (inherited ++ entries) }
    | some (_, value) =>
      modify fun s => { s with nodes := setEntries nodes place (entries.eraseP (isMerge nodes)) }
      match merged? nodes value with
      | none => reject
      | some items =>
        let parts ← items.mapM (given (flatten steps []))
        flatten steps (inherited ++ parts.reverse.flatten) place

def textAt (nodes : List Node) : Nat → Nat → Except ReadFault String
  | 0, _ => .error (.impossible "text inside itself")
  | steps + 1, place =>
    match (nodeAt nodes place).shape with
    | .scalar text => .ok text
    | .sequence _ => .error .malformed
    | .mapping entries =>
      match entries.find? fun e => (nodeAt nodes e.1).tag == .default with
      | some (_, value) => textAt nodes steps value
      | none => .error .malformed

def atom (place : Nat) : Builder Part := do
  let nodes := (← get).nodes
  let node := nodeAt nodes place
  let text ← textAt nodes (nodes.length + 1) place
  if node.tag = .timestamp && !node.shape.isScalar then throw impossibleText
  return .atom (← node.tag.read text)

def allocate (object : Object) : Builder Nat :=
  modifyGet fun s => (s.objects.length, { s with objects := s.objects ++ [object] })

def start (place : Nat) (object : Object) : Builder Part := do
  let home ← allocate object
  modify fun s => { s with waiting := s.waiting ++ [(place, home)] }
  return .object home

def fresh (place : Nat) : Builder Part := do
  match (nodeAt (← get).nodes place).tag with
  | .sequence => start place (.list [])
  | .orderedMap => start place (.list [])
  | .pairs => start place (.list [])
  | .set => start place (.set [])
  | .mapping => start place (.map [])
  | .merge => reject
  | .default => reject
  | .unknown => reject
  | _ => atom place

def build (place : Nat) : Builder Part := do
  match (← get).built.lookup place with
  | some part => return part
  | none =>
    let part ← fresh place
    modify fun s => { s with built := (place, part) :: s.built }
    return part

def key (place : Nat) : Builder Atom := do
  match (nodeAt (← get).nodes place).shape with
  | .scalar text => return .text text
  | _ =>
    match ← build place with
    | .atom s => return s
    | .object _ => reject

def entry (e : Nat × Nat) : Builder (Atom × Part) := do
  let name ← key e.1
  return (name, ← build e.2)

def entries (place : Nat) : Builder (List (Atom × Part)) := do
  flatten (mergeCount (← get).nodes + 1) [] place
  (entriesAt (← get).nodes place).mapM entry

def pair (item : Nat) : Builder Part := do
  match (nodeAt (← get).nodes item).shape with
  | .mapping [(first, second)] =>
    let first ← build first
    let second ← build second
    return .object (← allocate (.tuple [first, second]))
  | _ => reject

def content (place : Nat) : Builder Object := do
  let node := nodeAt (← get).nodes place
  match node.tag, node.shape with
  | .sequence, .sequence items => return .list (← items.mapM build)
  | .orderedMap, .sequence items => return .list (← items.mapM pair)
  | .pairs, .sequence items => return .list (← items.mapM pair)
  | .set, .mapping _ => return .set (← entries place)
  | .mapping, .mapping _ => return .map (← entries place)
  | _, _ => reject

def fill (place home : Nat) : Builder Unit := do
  let object ← content place
  modify fun s => { s with objects := s.objects.set home object }

/-- Fills what waits, and what is met thereby; no more than every node once. -/
def fillAll : Nat → Builder Unit
  | 0 => return
  | steps + 1 => do
    match (← get).waiting with
    | [] => return
    | (place, home) :: rest =>
      modify fun s => { s with waiting := rest }
      fill place home
      fillAll steps

def document (g : Graph) : Builder Part := do
  let root ← build g.root
  fillAll g.nodes.length
  return root

end Builder

def Graph.value (g : Graph) : Except ReadFault Value := do
  let (root, built) ← (Builder.document g).run { nodes := g.nodes }
  return root.read built.objects

def parse (text : List Char) : Except ReadFault Value := do
  match ← Graph.ofText text with
  | none => return .null
  | some g => g.value

end EntityForge.Yaml
