import EntityForge.Command.Arguments
import EntityForge.Compilation
import EntityForge.Config.Settings
import EntityForge.InputFiles
import EntityForge.Terminal.Screen

/-!
Runs of the command line. Every input file is compiled into every output directory for every selected
target. An input file that cannot be loaded and a call that fails as a whole are reported and counted,
and the run goes on; what is reported about an entity is counted when it is done.
-/
namespace EntityForge.Command

open Activity (print printLines)
open Terminal (escape)

inductive Status where
  | done
  | failed
  | noTarget
  deriving DecidableEq, Repr

def Status.code : Status → Nat
  | .done => 0
  | .failed => 1
  | .noTarget => 4

def buildSettings (a : Arguments) : Activity Settings := do
  let base := Path.ofLocation (← get).cwd
  let fromFiles ← a.config.foldlM (fun s file => s.mergeFile (base.child file)) ({} : Settings)
  return {
    doctrine := fromFiles.doctrine || a.doctrine
    entityFramework := fromFiles.entityFramework || a.entityFramework
    entityFrameworkCore := fromFiles.entityFrameworkCore || a.entityFrameworkCore
    inputFiles := fromFiles.inputFiles ++ a.files
    outDirs := fromFiles.outDirs ++ a.out
    mappingDir := (a.mappingDir.map Text.trim |>.filter (· ≠ "")).orElse fun _ => fromFiles.mappingDir }

def count (change : Tally → Tally) : Activity Unit := modify fun s => { s with tally := change s.tally }

def countFault : Activity Unit := count fun t => { t with faults := t.faults + 1 }

def reporter : Observer where
  before name target := print s!"  🔧 {target}: '{name}'... " ""
  done failure _ _ :=
    match failure with
    | none => do
      count fun t => { t with generated := t.generated + 1 }
      print "[green]✓[/green]"
    | some failure => do
      count fun t => { t with failed := t.failed + 1 }
      print s!"[red]✗ {escape failure.message}[/red]"

def printDetails (g : Generated) : Activity Unit := do
  g.written.forM fun path => print s!"    [green]+[/green] {path.text}"
  g.skipped.forM fun path => print s!"    [dim]= {path.text} (kept)[/dim]"
  g.warnings.forM fun warning => print s!"    [yellow]⚠ {warning}[/yellow]"

def printCompilation (verbose : Bool) (c : Compilation) : Activity Unit := do
  print s!"  [dim]→ {c.outDir.text}[/dim]"
  if verbose then
    c.results.forM fun r =>
      match r.outcome with
      | .ok g => printDetails g
      | .error _ => return

def isCallFailure (failure : Failure) : Bool :=
  match failure with
  | .config _ => true
  | failure => failure.ofGeneration

def request (base : Path) (file : EntityFile) (options : Options) (t : Target) (outDir : Path) :
    CompileRequest :=
  { target := .text t.key, source := .file file, outDir := some outDir.text
    cwd := some base.text, observer := reporter, configuration := .options options }

def compileInto (base : Path) (s : Settings) (verbose : Bool) (file : EntityFile) (t : Target)
    (outDir : Path) : Activity Unit := do
  let options ← s.options t
  let call := request base file options t outDir
  let outcome ← tryCatch (do return some (← call.run)) fun failure => do
    if isCallFailure failure then
      print s!"  [red]✗ {t.key}: {escape failure.message}[/red]"
      countFault
      return none
    else throw failure
  match outcome with
  | some c => printCompilation verbose c
  | none => return

def targetDir (s : Settings) (outDir : String) (t : Target) : Path :=
  if s.targets.length > 1 then (Path.ofText outDir).child t.key else .ofText outDir

def places (s : Settings) : List (Target × Path) :=
  s.effectiveOutDirs.flatMap fun dir => s.targets.map fun t => (t, targetDir s dir t)

def loadInput (source : String) : Activity (Option Value) :=
  tryCatch (do return some (← Document.load source).2) fun failure =>
    match failure with
    | .document _ => do
      print s!"  [red]✗ {escape failure.message}[/red]"
      countFault
      return none
    | _ => throw failure

def processFile (base : Path) (s : Settings) (verbose : Bool) (source : String) : Activity Unit := do
  print s!"\n📄 [bold]{escape source}[/bold]"
  match ← loadInput source with
  | none => return
  | some data =>
    let file ← EntityFile.read data
    (places s).forM fun (t, dir) => compileInto base s verbose file t dir

def summary (t : Tally) : Terminal.Table where
  border := .blank
  hasHead := false
  columns := [{}, { toRight := true }]
  rows :=
    let row (label : String) (n : Nat) := [label.toList, (toString n).toList]
    [row "Generated classes" t.generated, row "Failed classes" t.failed] ++
      (if t.faults = 0 then [] else [row "Failed files / targets" t.faults])

def statusOf (t : Tally) : Status := if t.failed = 0 ∧ t.faults = 0 then .done else .failed

def compileFrom (base : Path) (s : Settings) (verbose : Bool) : Activity Status := do
  modify fun session => { session with tally := {} }
  Activity.note .debug "entity_baker.cli" "CLIHandler initialized"
  if s.targets.isEmpty then
    print "[red]✗ No target selected[/red]"
    return .noTarget
  let files ← InputFiles.expand (s.effectiveInputFiles.map .text) base
  if files.isEmpty then
    print "[red]✗ No input files found[/red]"
    return .failed
  files.forM (processFile base s verbose)
  let session ← get
  print ""
  printLines ((summary session.tally).lines session.width)
  return statusOf session.tally

def compileInputs (s : Settings) (verbose : Bool) : Activity Status := do
  compileFrom (.ofLocation (← get).cwd) s verbose

def targetTable (registry : Registry) : Terminal.Table where
  caption := "📋 Supported Targets".toList
  border := .rounded
  hasHead := true
  columns := [{ title := "Target".toList, wraps := false }, { title := "Name".toList },
    { title := "Language".toList }, { title := "Generator Class".toList }, { title := "Aliases".toList }]
  rows := registry.keys.filterMap fun key =>
    (registry.info (.text key)).toOption.map fun i =>
      [s!"🔧 {key}", i.target.displayName, i.target.language, i.target.generatorName,
        if i.aliases.isEmpty then "none" else String.intercalate ", " i.aliases].map String.toList

def quickStart : Terminal.Panel where
  title := "💡 Quick Start".toList
  text := "Usage: entity-baker --doctrine entities.json".toList

def listTargets : Activity Status := do
  let width := (← get).width
  print ""
  printLines ((targetTable .standard).lines width)
  print ""
  printLines (quickStart.lines width)
  return .done

def complain (message : String) : Activity Status := do
  print s!"[red]✗ Error:[/red] {escape message}"
  return .failed

def run (a : Arguments) (logLevel : Option String) : Activity Status := do
  match Log.rank? a.logLevel logLevel with
  | .error message => complain message
  | .ok _ =>
    if a.listTargets then listTargets
    else
      let settings ← tryCatch (do return Except.ok (← buildSettings a)) fun failure =>
        match failure with
        | .config _ => return Except.error failure.message
        | _ => throw failure
      match settings with
      | .error message => complain message
      | .ok settings =>
        if settings.targets.isEmpty then
          print "[red]✗ Select at least one target (--doctrine, --ef, --efc)[/red]\n"
          return .noTarget
        else compileInputs settings a.verbose

end EntityForge.Command
