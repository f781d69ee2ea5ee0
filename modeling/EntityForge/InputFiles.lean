import EntityForge.Document.Loading
import EntityForge.Pattern

/-!
Which files and addresses a list of patterns stands for. Patterns are matched without regard to case,
seen from a working directory whose own name is taken literally. Files come without repetition by the
length of their directory, directory and name; addresses follow in the order of the patterns.
-/
namespace EntityForge.InputFiles

def isHidden (name : List Char) : Bool := name.head? == some '.'

def namesAt (t : FileTree) (cwd : Location) (p : Path) : Except Failure (List String) :=
  if p.hasNul then .error nulFault
  else
    match t.locate cwd p with
    | .ok l => .ok (if t.get? l = some .directory then t.children l else [])
    | .error _ => .ok []

def isThere (t : FileTree) (cwd : Location) (p : Path) : Bool :=
  !p.hasNul && (t.stat cwd p).toBool

def isDirectoryAt (t : FileTree) (cwd : Location) (p : Path) : Bool :=
  !p.hasNul && t.isDirectory cwd p

def under (p : Path) (name : String) : Path := ⟨p.anchor, p.parts ++ [name]⟩

def below (t : FileTree) (cwd : Location) (directories : Bool) : Nat → Path → Except Failure (List Path)
  | 0, _ => .ok []
  | depth + 1, p => do
    let names ← namesAt t cwd p
    let inner ← names.mapM fun name => do
      let q := under p name
      if isHidden name.toList || (directories && !isDirectoryAt t cwd q) then return []
      return q :: (← below t cwd directories depth q)
    return inner.flatten

def literal (p : Path) (component : List Char) : Path :=
  if component = ['.'] then p else under p (String.ofList component)

def advance (t : FileTree) (cwd : Location) (last : Bool) (component : List Char) (p : Path) :
    Except Failure (List Path) := do
  if component = ['*', '*'] then
    let inner ← below t cwd (!last) (t.entries.length + 1) p
    return if isDirectoryAt t cwd p then p :: inner else inner
  else if component.any Pattern.isMagic then
    let names ← namesAt t cwd p
    return (names.filter fun name =>
      (isHidden component || !isHidden name.toList) && Pattern.accepts component name.toList &&
        (last || isDirectoryAt t cwd (under p name))).map (under p)
  else if component = ['.'] then return if isDirectoryAt t cwd p then [p] else []
  else
    let q := literal p component
    return if isThere t cwd q then [q] else []

/-- The places that the components of a pattern lead to. Components before the first one with magic
are followed blindly. -/
def walk (t : FileTree) (cwd : Location) (blind : Bool) :
    List (List Char) → List Path → Except Failure (List Path)
  | [], places => .ok places
  | component :: rest, places =>
    if blind && !rest.isEmpty && !component.any Pattern.isMagic then
      walk t cwd true rest (places.map fun p => literal p component)
    else do
      let next ← places.mapM (advance t cwd rest.isEmpty component)
      walk t cwd false rest next.flatten

def components (pattern : List Char) : List (List Char) :=
  (Text.splitAt (· == '/') pattern).filter (fun c => !c.isEmpty) ++
    (if pattern.getLast? == some '/' then [['.']] else [])

def find (t : FileTree) (cwd : Location) (pattern : List Char) : Except Failure (List Path) :=
  let start : Path := ⟨if pattern.head? == some '/' then .root else .relative, []⟩
  walk t cwd true (components pattern) [start]

def fullPattern (base : String) (pattern : List Char) : List Char :=
  let folded := Pattern.ignoringCase pattern
  if pattern.head? == some '/' then folded
  else
    let escaped := Pattern.escape base.toList
    if escaped.getLast? == some '/' then escaped ++ folded else escaped ++ '/' :: folded

/-- The order of files: by the length of the directory's text, then by directory and name without
regard to case. -/
def before (a b : Path) : Bool :=
  let key (p : Path) : Nat × String × String :=
    (p.parent.text.length, Text.lowercase p.parent.text, Text.lowercase p.name)
  let (m, d, n) := key a
  let (m', d', n') := key b
  if m ≠ m' then m < m' else if d ≠ d' then d < d' else !(n' < n)

def filesOf (t : FileTree) (cwd : Location) (places : List Path) : List Path :=
  (places.map (Path.resolve cwd)).filter fun p =>
    match t.get? p.parts with
    | some (.file _) => true
    | _ => false

def addNew {α : Type} [BEq α] (found new : List α) : List α :=
  new.foldl (fun found x => if found.contains x then found else found ++ [x]) found

def collect (base : String) (files : List Path) (urls : List String) :
    List Value → Activity (List Path × List String)
  | [] => return (files, urls)
  | pattern :: rest => do
    let text := Text.trim pattern.display
    if text = "" then collect base files urls rest
    else if ← Format.isUrl text then collect base files (addNew urls [text]) rest
    else
      let s ← get
      let places ← find s.tree s.cwd (fullPattern base text.toList)
      if places.isEmpty then Document.note .warning s!"No files match '{text}'"
      collect base (addNew files (filesOf s.tree s.cwd places)) urls rest

def expand (patterns : List Value) (base : Path) : Activity (List String) := do
  let (files, urls) ← collect base.text [] [] patterns
  return (files.mergeSort before).map Path.text ++ urls

end EntityForge.InputFiles
