import EntityForge.Config.File
import EntityForge.Generation
import EntityForge.Target.Registry

/-!
Compiling an entity file for a target. Every entity is checked, rendered and written in the order of
the file. What goes wrong with one entity becomes its result and never stops the next one; a fault of
the target, the configuration or the output directory stops the whole call.
-/
namespace EntityForge

def EntityFile.read (v : Value) : Activity EntityFile := do
  if EntityFile.ignoresEntities v then
    Activity.note .warning "entity_baker.codegen.core.schema"
      "'entities' is not an object, no entities to compile"
  return .ofValue v

inductive EntitySource where
  | file (f : EntityFile)
  | data (v : Value)

def EntitySource.read : EntitySource → Activity EntityFile
  | .file f => return f
  | .data v => EntityFile.read v

structure Observer where
  before : (name target : String) → Activity Unit := fun _ _ => return
  done : (failure : Option Failure) → (name target : String) → Activity Unit := fun _ _ _ => return

def Observer.recording : Observer where
  before name target := Activity.witness (.before name target)
  done failure name target := Activity.witness (.done name target failure)

inductive Configuration where
  | options (o : Options)
  | described (v : Value)

structure CompileRequest where
  target : Value
  source : EntitySource := .data .null
  outDir : Option String := none
  cwd : Option String := none
  observer : Observer := {}
  configuration : Configuration := .described .null

structure Compilation where
  target : Target
  outDir : Path
  results : List GenerationResult

namespace Compilation

def succeeded (c : Compilation) : List GenerationResult := c.results.filter (·.isSuccess)

def failed (c : Compilation) : List GenerationResult := c.results.filter fun r => !r.isSuccess

def isSuccess (c : Compilation) : Bool := c.failed.isEmpty

end Compilation

namespace CompileRequest

def logSource : String := "entity_baker.codegen.compiler"

def note (level : Log.Level) (message : String) : Activity Unit := Activity.note level logSource message

def given (s : Option String) : Option String := (s.map Text.trim).filter (· ≠ "")

def base (r : CompileRequest) (cwd : Location) : Path :=
  match given r.cwd with
  | some dir => (Path.ofLocation cwd).child dir
  | none => .ofLocation cwd

def outPath (r : CompileRequest) : Activity Path := do
  let base := r.base (← get).cwd
  match given r.outDir with
  | some dir => Activity.resolve (base.child dir)
  | none => return base

def options (r : CompileRequest) (key : String) : Activity Options :=
  match r.configuration with
  | .options o => return o
  | .described v => Config.ofDescription key v

def generateNew (target : Target) (options : Options) (segments : List String) (outDir : Path)
    (seen : List String) (name : String) (key raw : Value) : Activity Generated := do
  if seen.contains name then throw (.duplicateEntity name)
  let e ← Entity.normalize (← get).cwd key (.ofValue raw) segments outDir
  let generated ← target.generate options e
  note .info s!"Generated {target.displayName} class '{name}'"
  return generated

def failureNote (target : Target) (name : String) (failure : Failure) : String :=
  if failure.ofGeneration then s!"{target.displayName} class '{name}' failed: {failure.message}"
  else s!"Unexpected error while generating {target.displayName} class '{name}'"

/-- Compiles one entity; every failure becomes its result. -/
def compileEntity (target : Target) (options : Options) (observer : Observer) (segments : List String)
    (outDir : Path) (seen : List String) (key raw : Value) : Activity GenerationResult := do
  let name := Text.trim key.display
  observer.before name target.displayName
  let outcome ← tryCatch (do
    return Except.ok (← generateNew target options segments outDir seen name key raw)) fun failure => do
      note .error (failureNote target name failure)
      return Except.error failure
  let failure := match outcome with
    | .ok _ => none
    | .error failure => some failure
  observer.done failure name target.displayName
  return ⟨name, target, outcome⟩

def compileAll (target : Target) (options : Options) (observer : Observer) (segments : List String)
    (outDir : Path) (seen : List String) : Entries → Activity (List GenerationResult)
  | [] => return []
  | (key, raw) :: rest => do
    let result ← compileEntity target options observer segments outDir seen key raw
    return result :: (← compileAll target options observer segments outDir (result.entity :: seen) rest)

def run (r : CompileRequest) (registry : Registry := .standard) : Activity Compilation := do
  let outDir ← r.outPath
  let key ← registry.resolve r.target
  let target ← registry.target r.target
  let options ← r.options key
  Activity.ensureDirectory outDir
  let file ← r.source.read
  note .debug
    s!"Compiling {file.entities.length} entities for {target.displayName} into {outDir.text}"
  return ⟨target, outDir, ← compileAll target options r.observer file.segments outDir [] file.entities⟩

end CompileRequest

def compileFile (data : Value) (target : Value) (outDir : Option String) (options : Entries) :
    Activity Compilation := do
  let reserved : Value → Bool
    | .text s => ["entity_file", "target", "out_dir"].contains s
    | _ => true
  if options.any fun e => reserved e.1 then throw (.foreign "unexpected argument")
  CompileRequest.run { target, source := .data data, outDir, configuration := .described (.map options) }

end EntityForge
