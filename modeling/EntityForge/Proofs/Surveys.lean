import EntityForge.Proofs.Loading
import EntityForge.Proofs.Regeneration

/-! The survey of a run: the same run with nothing printed and nothing counted. It goes to every input
file and makes every call for it, whatever happens to the others, and says what became of them. The run
itself prints what the survey found and returns exactly if all of that can be printed. -/
namespace EntityForge
open Activity Command
open Terminal (escape Printable)

def Activity.tried {α : Type} (a : Activity α) : Activity (Except Failure α) :=
  tryCatch (do return Except.ok (← a)) fun failure => return .error failure

def CompileRequest.quietly (r : CompileRequest) : CompileRequest := { r with observer := {} }

structure Attempt where
  target : Target
  dir : Path
  outcome : Except Failure Compilation

inductive Visit where
  | refused (source : String) (failure : Failure)
  | compiled (source : String) (file : EntityFile) (attempts : List Attempt)

section Survey
variable (base : Path) (settings : Settings)

def attempt (file : EntityFile) (place : Target × Path) : Activity Attempt := do
  let options ← settings.options place.1
  let call := (request base file options place.1 place.2).quietly
  return ⟨place.1, place.2, ← (call.run .standard).tried⟩

def attempts (file : EntityFile) : List (Target × Path) → Activity (List Attempt)
  | [] => return []
  | place :: rest => do
    let first ← attempt base settings file place
    return first :: (← attempts file rest)

end Survey

section Lines
variable (verbose : Bool)

def placeLine (done : Compilation) : Line := ⟨s!"  [dim]→ {done.outDir.text}[/dim]", "\n"⟩

def detailLines (g : Generated) : List Line :=
  g.written.map (fun path => ⟨s!"    [green]+[/green] {path.text}", "\n"⟩) ++
    g.skipped.map (fun path => ⟨s!"    [dim]= {path.text} (kept)[/dim]", "\n"⟩) ++
    g.warnings.map fun warning => ⟨s!"    [yellow]⚠ {warning}[/yellow]", "\n"⟩

def resultLines (r : GenerationResult) : List Line :=
  match r.outcome with
  | .ok g => detailLines g
  | .error _ => []

def compilationLines (done : Compilation) : List Line :=
  placeLine done :: if verbose then done.results.flatMap resultLines else []

def Attempt.lines (a : Attempt) : List Line :=
  match a.outcome with
  | .ok done => done.results.flatMap entityLines ++ compilationLines verbose done
  | .error failure => [⟨s!"  [red]✗ {a.target.key}: {escape failure.message}[/red]", "\n"⟩]

def Visit.source : Visit → String
  | .refused source _ => source
  | .compiled source _ _ => source

def Visit.attempts : Visit → List Attempt
  | .refused _ _ => []
  | .compiled _ _ attempts => attempts

def Visit.lines : Visit → List Line
  | .refused source failure => [titleLine source, faultLine failure]
  | .compiled source _ attempts => titleLine source :: attempts.flatMap (Attempt.lines verbose)

end Lines

section Options

theorem optionsChosen (settings : Settings) (target : Target) :
    ∃ options, settings.options target = .ok options := by
  unfold Settings.options
  cases target with
  | doctrine =>
    unfold Settings.overrides
    dsimp only
    split
    · split
      · exact ⟨_, rfl⟩
      · exact ⟨_, rfl⟩
    · exact ⟨_, rfl⟩
  | entityFramework => exact ⟨_, rfl⟩
  | entityFrameworkCore => exact ⟨_, rfl⟩

end Options

section Quiet

end Quiet

section Told
variable {verbose : Bool}

variable (verbose) (base : Path) (settings : Settings) (file : EntityFile)

end Told

section Wholes

def Attempt.Whole (file : EntityFile) (a : Attempt) : Prop :=
  match a.outcome with
  | .ok done => done.results.map (·.entity) = file.entities.map fun entry => Call.nameOf entry.1
  | .error failure => failure = nulFault ∨ ∃ path, failure = .files (.createDirectory path)

def Visit.Whole (settings : Settings) : Visit → Prop
  | .refused _ _ => True
  | .compiled _ file attempts =>
    attempts.map (fun a => (a.target, a.dir)) = places settings ∧ ∀ a ∈ attempts, a.Whole file

variable {base : Path} {settings : Settings}

theorem requestCall (file : EntityFile) (options : Options) (target : Target) (dir : Path) (s : Session) :
    (request base file options target dir).call .standard s =
      (((request base file options target dir).outPath.on s).1).map fun outDir =>
        ⟨target, options, file.segments, outDir, s.cwd⟩ := by
  have found : Registry.standard.find? target.key = some target.key := by cases target <;> decide
  have kept : Registry.standard.targets.lookup target.key = some target := by cases target <;> decide
  have resolves : Registry.standard.resolve (.text target.key) = .ok target.key := by
    unfold Registry.resolve Value.display
    rw [found]
  have leads : Registry.standard.target (.text target.key) = .ok target := by
    unfold Registry.target
    rw [resolves]
    simp only [bind, Except.bind, kept]
  have resolves : Registry.standard.resolve (request base file options target dir).target = _ := resolves
  have leads : Registry.standard.target (request base file options target dir).target = _ := leads
  unfold CompileRequest.call
  rw [resolves, leads]
  cases ((request base file options target dir).outPath.on s).1 <;> rfl

end Wholes

end EntityForge
