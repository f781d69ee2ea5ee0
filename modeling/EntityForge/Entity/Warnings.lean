import EntityForge.Entity.Basic

/-!
Remarks about an entity that do not prevent its generation.
-/
namespace EntityForge.Entity

def warnings (e : Entity) : List String :=
  let empty := if e.columns.isEmpty then [s!"Entity '{e.name}' has no columns"] else []
  let nameless := (e.methods.filter fun m => m.2 = "").map fun m =>
    s!"{e.name}: column '{m.1}' derives an empty accessor name"
  let shared := (Name.collisions e.methods).map fun warning => s!"{e.name}: {warning}"
  empty ++ nameless ++ shared

def memberWarnings (e : Entity) : List String :=
  (e.methods.filter fun m => m.2 = e.name).map fun m =>
    s!"{e.name}: property of column '{m.1}' has the name of its class"

end EntityForge.Entity
