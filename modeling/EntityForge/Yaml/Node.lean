import EntityForge.Yaml.Tag
import EntityForge.Yaml.Tokens

/-!
The nodes of a YAML document, read from its tokens. They hold one another by their places in a list. A
node may be given a name, and a reference to the name is the node itself; so a collection may be inside
itself.
-/
namespace EntityForge.Yaml

inductive Shape where
  | scalar (text : String)
  | sequence (items : List Nat)
  | mapping (entries : List (Nat × Nat))
  deriving Inhabited

structure Node where
  tag : Tag
  shape : Shape
  deriving Inhabited

structure Graph where
  nodes : List Node
  root : Nat

def Node.absent : Node := ⟨.null, .scalar ""⟩

def nodeAt (nodes : List Node) (place : Nat) : Node := nodes.getD place .absent

structure Reading where
  rest : List Token
  fault : Option ReadFault
  nodes : List Node := []
  anchors : List (String × Nat) := []
  handles : List (String × String) := []

abbrev Reader := StateT Reading (Except ReadFault)

namespace Reader

def reject {α : Type} : Reader α := throw .malformed

def next? : Reader (Option Token) := do
  let s ← get
  match s.rest, s.fault with
  | t :: _, _ => return some t
  | [], some fault => throw fault
  | [], none => return none

def pass : Reader Unit := modify fun s => { s with rest := s.rest.drop 1 }

def accept (t : Token) : Reader Bool := do
  if (← next?) == some t then
    pass
    return true
  else return false

def demand (t : Token) : Reader Unit := do
  if !(← accept t) then reject

def nextIn (ts : List Token) : Reader Bool := do
  match ← next? with
  | some t => return ts.contains t
  | none => return false

def commonHandles : List (String × String) := [("!", "!"), ("!!", Tag.common)]

def directives (versioned : Bool) (handles : List (String × String)) :
    Nat → Reader (List (String × String))
  | 0 => return handles
  | fuel + 1 => do
    match ← next? with
    | some (.directive (.version major _)) =>
      pass
      if versioned || major != 1 then reject
      directives true handles fuel
    | some (.directive (.tag handle start)) =>
      pass
      if (handles.lookup handle).isSome then reject
      directives versioned ((handle, start) :: handles) fuel
    | some (.directive (.other _)) =>
      pass
      directives versioned handles fuel
    | _ => return handles

def anchor? : Reader (Option String) := do
  match ← next? with
  | some (.anchor name) =>
    pass
    return some name
  | _ => return none

def tag? : Reader (Option String) := do
  match ← next? with
  | some (.tag handle suffix) =>
    pass
    match handle with
    | none => return some suffix
    | some handle =>
      match (← get).handles.lookup handle with
      | some start => return some (start ++ suffix)
      | none => reject
  | _ => return none

def properties : Reader (Option String × Option String) := do
  match ← anchor? with
  | some name => return (some name, ← tag?)
  | none =>
    let tag ← tag?
    return (← anchor?, tag)

def add (node : Node) : Reader Nat :=
  modifyGet fun s => (s.nodes.length, { s with nodes := s.nodes ++ [node] })

def put (place : Nat) (node : Node) : Reader Unit :=
  modify fun s => { s with nodes := s.nodes.set place node }

def addNamed (name : Option String) (node : Node) : Reader Nat := do
  match name with
  | none => add node
  | some name =>
    if ((← get).anchors.lookup name).isSome then reject
    let place ← add node
    modify fun s => { s with anchors := (name, place) :: s.anchors }
    return place

def scalarTag (tag : Option String) (plain : Bool) (text : String) : Tag :=
  match tag with
  | none => if plain then .ofPlain text.toList else .text
  | some "!" => .ofPlain text.toList
  | some name => .ofName name

def collectionTag (tag : Option String) (usual : Tag) : Tag :=
  match tag with
  | none => usual
  | some "!" => usual
  | some name => .ofName name

def maxDepth : Nat := 480

def blockStops : List Token := [.key, .value, .blockEnd]

mutual

/-- A node. Block collections may start only where `block` allows it, sequences without further
indentation only where `flush` does. -/
def node (block flush : Bool) (level : Nat) : Nat → Reader Nat
  | 0 => reject
  | fuel + 1 => do
    if level > maxDepth then throw (.impossible "nested too deeply")
    match ← next? with
    | some (.reference name) =>
      pass
      match (← get).anchors.lookup name with
      | some place => return place
      | none => reject
    | _ =>
      let (name, tag) ← properties
      let single (plain : Bool) (text : String) : Reader Nat :=
        addNamed name ⟨scalarTag tag plain text, .scalar text⟩
      let sequence (items : Reader (List Nat)) : Reader Nat := do
        let tag := collectionTag tag .sequence
        let place ← addNamed name ⟨tag, .sequence []⟩
        put place ⟨tag, .sequence (← items)⟩
        return place
      let mapping (entries : Reader (List (Nat × Nat))) : Reader Nat := do
        let tag := collectionTag tag .mapping
        let place ← addNamed name ⟨tag, .mapping []⟩
        put place ⟨tag, .mapping (← entries)⟩
        return place
      match ← next? with
      | some (.scalar text plain) =>
        pass
        single plain text
      | some .flowSequenceStart =>
        pass
        sequence (flowItems true level fuel)
      | some .flowMappingStart =>
        pass
        mapping (flowEntries true level fuel)
      | t =>
        if flush && t == some .blockEntry then sequence (flushItems level fuel)
        else if block && t == some .blockSequenceStart then
          pass
          sequence (blockItems level fuel)
        else if block && t == some .blockMappingStart then
          pass
          mapping (blockEntries level fuel)
        else if name.isSome || tag.isSome then single true ""
        else reject
termination_by structural fuel => fuel

def nodeBefore (stops : List Token) (block flush : Bool) (level : Nat) : Nat → Reader Nat
  | 0 => reject
  | fuel + 1 => do
    if ← nextIn stops then add .absent else node block flush (level + 1) fuel
termination_by structural fuel => fuel

def blockItems (level : Nat) : Nat → Reader (List Nat)
  | 0 => reject
  | fuel + 1 => do
    if ← accept .blockEntry then
      let item ← nodeBefore [.blockEntry, .blockEnd] true false level fuel
      return item :: (← blockItems level fuel)
    else
      demand .blockEnd
      return []
termination_by structural fuel => fuel

def flushItems (level : Nat) : Nat → Reader (List Nat)
  | 0 => reject
  | fuel + 1 => do
    if ← accept .blockEntry then
      let item ← nodeBefore (.blockEntry :: blockStops) true false level fuel
      return item :: (← flushItems level fuel)
    else return []
termination_by structural fuel => fuel

def blockEntries (level : Nat) : Nat → Reader (List (Nat × Nat))
  | 0 => reject
  | fuel + 1 => do
    if ← accept .key then
      let key ← nodeBefore blockStops true true level fuel
      let value ←
        if ← accept .value then nodeBefore blockStops true true level fuel else add .absent
      return (key, value) :: (← blockEntries level fuel)
    else
      demand .blockEnd
      return []
termination_by structural fuel => fuel

def flowValue (close : Token) (level : Nat) : Nat → Reader Nat
  | 0 => reject
  | fuel + 1 => do
    if ← accept .value then nodeBefore [.flowEntry, close] false false level fuel else add .absent
termination_by structural fuel => fuel

def flowItems (first : Bool) (level : Nat) : Nat → Reader (List Nat)
  | 0 => reject
  | fuel + 1 => do
    let close := Token.flowSequenceEnd
    if ← accept close then return []
    if !first then demand .flowEntry
    if ← accept .key then
      let key ← nodeBefore [.value, .flowEntry, close] false false (level + 1) fuel
      let value ← flowValue close (level + 1) fuel
      let pair ← add ⟨.mapping, .mapping [(key, value)]⟩
      return pair :: (← flowItems false level fuel)
    else if ← accept close then return []
    else
      let item ← node false false (level + 1) fuel
      return item :: (← flowItems false level fuel)
termination_by structural fuel => fuel

def flowEntries (first : Bool) (level : Nat) : Nat → Reader (List (Nat × Nat))
  | 0 => reject
  | fuel + 1 => do
    let close := Token.flowMappingEnd
    if ← accept close then return []
    if !first then demand .flowEntry
    if ← accept .key then
      let key ← nodeBefore [.value, .flowEntry, close] false false level fuel
      let value ← flowValue close level fuel
      return (key, value) :: (← flowEntries false level fuel)
    else if ← accept close then return []
    else
      let key ← node false false (level + 1) fuel
      let value ← add .absent
      return (key, value) :: (← flowEntries false level fuel)
termination_by structural fuel => fuel

end

def start (fuel : Nat) : Reader Unit := do
  let handles ← directives false [] fuel
  demand .documentStart
  modify fun s => { s with handles := handles ++ commonHandles }

def ends : Nat → Reader Unit
  | 0 => return
  | fuel + 1 => do
    if ← accept .documentEnd then ends fuel

def document (fuel : Nat) : Reader (Option Nat) := do
  match ← next? with
  | none => return none
  | some t =>
    let explicit := match t with
      | .directive _ => true
      | .documentStart => true
      | _ => false
    let root ←
      if explicit then do
        start fuel
        let empty ← match ← next? with
          | none => pure true
          | some (.directive _) => pure true
          | some .documentStart => pure true
          | some .documentEnd => pure true
          | some _ => pure false
        if empty then add .absent else node true false 1 fuel
      else do
        modify fun s => { s with handles := commonHandles }
        node true false 1 fuel
    ends fuel
    if (← next?).isSome then
      start fuel
      reject
    return some root

end Reader

def Graph.ofText (text : List Char) : Except ReadFault (Option Graph) := do
  let tokens := Tokens.ofText text
  let reading : Reading := { rest := tokens.items, fault := tokens.fault }
  let (root, read) ← (Reader.document (4 * tokens.items.length + 8)).run reading
  return root.map fun root => ⟨read.nodes, root⟩

end EntityForge.Yaml
