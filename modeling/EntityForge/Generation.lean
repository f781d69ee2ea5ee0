import EntityForge.Emit
import EntityForge.Session

/-!
Generating one entity for one target: remarks, rendered files, written files. All files are rendered
before the first one is written, so an entity that cannot be rendered leaves nothing behind.
-/
namespace EntityForge

structure Generated where
  written : List Path
  skipped : List Path
  warnings : List String
  columnCount : Nat
  segments : List String
  deriving DecidableEq, Repr

structure GenerationResult where
  entity : String
  target : Target
  outcome : Except Failure Generated

namespace GenerationResult

def isSuccess (r : GenerationResult) : Bool :=
  match r.outcome with
  | .ok _ => true
  | .error _ => false

def text (r : GenerationResult) : String :=
  let state := match r.outcome with
    | .ok _ => "ok"
    | .error failure => "error=" ++ Text.quoted failure.message
  s!"GenerationResult({r.target.displayName}:{r.entity}, {state})"

end GenerationResult

namespace Target

def logSource : String := "entity_baker.codegen.core.generator"

def generate (t : Target) (options : Options) (e : Entity) : Activity Generated := do
  let warnings := t.warnings e
  warnings.forM fun warning => Activity.note .warning logSource warning
  let artifacts ← t.emit e options
  let s ← get
  let output := s.tree.writeArtifacts s.cwd artifacts
  set { s with tree := output.tree, log := s.log ++ output.log }
  match output.failure with
  | some failure => throw failure
  | none => return ⟨output.written, output.skipped, warnings, e.columns.length, e.segments⟩

def generateCode (t : Target) (options : Options) (e : Entity) : Activity GenerationResult :=
  tryCatch (do return ⟨e.name, t, .ok (← t.generate options e)⟩) fun failure =>
    if failure.ofGeneration then return ⟨e.name, t, .error failure⟩ else throw failure

end Target

end EntityForge
