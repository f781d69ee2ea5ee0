import EntityForge.Emit.Doctrine
import EntityForge.Emit.EntityFramework

/-!
The files of an entity for any target.
-/
namespace EntityForge

def Target.emit (t : Target) (e : Entity) (options : Options) : Except Failure (List Artifact) :=
  match t with
  | .doctrine => Emit.Doctrine.artifacts e options
  | .entityFramework => Emit.EntityFramework.artifacts Emit.EntityFramework.classic e options
  | .entityFrameworkCore => Emit.EntityFramework.artifacts Emit.EntityFramework.core e options

def scopeOf (context : Entries) : Except Failure Scope :=
  context.mapM fun (key, value) =>
    match key with
    | .text name => .ok (name, value)
    | _ => .error (.foreign "variable name without text")

def Target.renderTemplate (t : Target) (name : String) (context : Entries) : Except Failure String :=
  match t.template? name with
  | none => .error (.template name)
  | some template => do renderPlain name template (← scopeOf context)

end EntityForge
