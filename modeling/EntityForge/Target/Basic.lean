import EntityForge.Entity.Warnings
import EntityForge.Target.TypeTable
import EntityForge.Template.Doctrine
import EntityForge.Template.EntityFramework

/-!
The targets that entities can be generated for.
-/
namespace EntityForge

inductive Target where
  | doctrine
  | entityFramework
  | entityFrameworkCore
  deriving DecidableEq, Repr

namespace Target

def all : List Target := [.doctrine, .entityFramework, .entityFrameworkCore]

def key : Target → String
  | .doctrine => "doctrine"
  | .entityFramework => "ef"
  | .entityFrameworkCore => "ef-core"

def nicknames : Target → List String
  | .doctrine => ["d", "php"]
  | .entityFramework => ["entity-framework", "entityframework"]
  | .entityFrameworkCore => ["efc", "efcore", "entity-framework-core", "entityframeworkcore"]

def types : Target → TypeTable
  | .doctrine => .doctrine
  | .entityFramework => .entityFramework
  | .entityFrameworkCore => .entityFrameworkCore

def displayName (t : Target) : String := t.types.target

def language : Target → String
  | .doctrine => "php"
  | _ => "csharp"

def extension : Target → String
  | .doctrine => ".php"
  | _ => ".cs"

def generatorName : Target → String
  | .doctrine => "DoctrineGenerator"
  | .entityFramework => "EntityFrameworkGenerator"
  | .entityFrameworkCore => "EntityFrameworkCoreGenerator"

def templates : Target → List (String × Template)
  | .doctrine => [("class.php.j2", Template.phpClass), ("trait.php.j2", Template.phpTrait),
      ("mapping.dcm.xml.j2", Template.xmlMapping)]
  | _ => [("class.cs.j2", Template.csharpClass), ("extensions.cs.j2", Template.csharpExtensions)]

def template? (t : Target) (name : String) : Option Template :=
  t.templates.lookup (String.intercalate "/" (Path.names name.toList))

def warnings (t : Target) (e : Entity) : List String :=
  match t with
  | .doctrine => e.warnings
  | _ => e.warnings ++ e.memberWarnings

end Target

end EntityForge
