import EntityForge.Command.Run

/-!
The program: it takes a picture of the directories that a run can reach, runs on it, prints what the
run has put on the screen, and writes back the files and directories that have changed. It has no
access to the web, so that input files with an address count as unreachable.
-/
namespace EntityForge.Program

def addDirectory (tree : FileTree) (location : Location) : Nat → IO FileTree
  | 0 => return tree
  | depth + 1 => do
    let dir ← IO.FS.realPath (Path.ofLocation location).text
    (← dir.readDir).foldlM (fun tree entry => do
      let inner := location ++ [entry.fileName]
      if ← entry.path.isDir then addDirectory (tree.put inner .directory) inner depth
      else return tree.put inner (.file (← IO.FS.readBinFile entry.path))) tree

def addWay (tree : FileTree) (location : Location) : IO FileTree :=
  (List.range (location.length + 1)).foldlM (fun tree n => do
    let above := location.take n
    let found ← try some <$> IO.FS.realPath (Path.ofLocation above).text catch _ => pure none
    match found with
    | none => return tree
    | some path =>
      if ← path.isDir then return if n = 0 then tree else tree.put above .directory
      else return tree.put above (.file (← IO.FS.readBinFile path))) tree

def unlimited : Nat := 4096

def addPlace (tree : FileTree) (place : Location × Nat) : IO FileTree := do
  let tree ← addWay tree place.1
  if tree.get? place.1 = some .directory then addDirectory tree place.1 place.2 else return tree

def writeBack (before after : FileTree) : IO Unit := do
  for (location, entry) in after.entries.reverse do
    if before.get? location ≠ some entry then
      let path := (Path.ofLocation location).text
      match entry with
      | .directory => IO.FS.createDirAll path
      | .file content =>
        IO.FS.createDirAll (Path.ofLocation location.dropLast).text
        IO.FS.writeBinFile path content

/-- The place where a pattern starts to have a choice, and how deep it goes from there. Names with
letters are a choice, because case does not count. -/
def startOf (cwd : Location) (pattern : String) : Location × Nat :=
  let p := Path.ofText pattern
  let isFixed (name : String) : Bool :=
    !name.toList.any Pattern.isMagic && Pattern.ignoringCase name.toList == name.toList
  let fixed := p.parts.takeWhile isFixed
  ((Path.mk p.anchor fixed).locate cwd,
    if p.parts.contains "**" then unlimited else p.parts.length - fixed.length)

def reached (cwd : Location) (s : Settings) : List (Location × Nat) :=
  (s.effectiveInputFiles.map (startOf cwd)) ++
    s.effectiveOutDirs.map fun dir => ((Path.ofText dir).locate cwd, unlimited)

def usage : String :=
  "usage: entity-baker [-h] [-c FILE] [-o DIR] [-d] [--ef] [--efc] [--dxo DIR] [--list-targets] " ++
    "[--verbose] [--log-level LEVEL] [FILE ...]"

def perform {α : Type} (session : Session) (activity : Activity α) : Except Failure α × Session :=
  StateT.run (ExceptT.run activity) session

def run (argv : List String) : IO UInt32 := do
  match Command.Arguments.parse argv with
  | .error exit =>
    if exit = .help then IO.println usage else IO.eprintln usage
    return exit.code.toUInt32
  | .ok arguments =>
    let cwd := (Path.ofText (← IO.currentDir).toString).parts
    let configured := arguments.config.map fun file => (Path.ofText file).locate cwd
    let tree ← configured.foldlM addWay (← addWay {} cwd)
    let width := ((← IO.getEnv "COLUMNS").bind String.toNat?).getD 80
    let session : Session := { cwd, tree, width }
    let tree ← match (perform session (Command.buildSettings arguments)).1 with
      | .ok settings => (reached cwd settings).foldlM addPlace tree
      | .error _ => pure tree
    let level ← IO.getEnv "ENTITY_BAKER_LOG_LEVEL"
    let (status, after) := perform { session with tree } (Command.run arguments level)
    IO.print after.screen
    for record in Log.atLeast ((Log.rank? arguments.logLevel level).toOption.getD 0) after.log do
      IO.eprintln record.line
    writeBack tree after.tree
    match status with
    | .ok status =>
      if status = .noTarget then IO.println usage
      return status.code.toUInt32
    | .error failure =>
      IO.eprintln failure.message
      return 1

end EntityForge.Program

def main (argv : List String) : IO UInt32 := EntityForge.Program.run argv
