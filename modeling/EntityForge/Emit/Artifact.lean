import EntityForge.Config.Options
import EntityForge.Emit.Format
import EntityForge.Path
import EntityForge.Template.Basic

/-!
Generated files before they are written.
-/
namespace EntityForge

/-- A file to write; one that must not overwrite is left alone where something is there already. -/
structure Artifact where
  path : Path
  content : String
  overwrite : Bool := true
  kind : String := "class"
  deriving DecidableEq, Repr

def renderPlain (name : String) (template : Template) (scope : Scope) : Except Failure String :=
  match template.render scope with
  | .ok code => .ok code
  | .error .undefined => .error (.template name)
  | .error .wrongKind => .error (.foreign "template value of the wrong kind")

def renderFormatted (name : String) (template : Template) (scope : Scope) (options : Options) :
    Except Failure String := do
  let code ← renderPlain name template scope
  match options.lineEnding with
  | .text ending => return String.ofList (Format.format ending.toList code.toList)
  | _ => throw (.foreign "line ending without text")

end EntityForge
