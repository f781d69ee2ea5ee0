import EntityForge.Entity.Description
import EntityForge.Failure
import EntityForge.Path

/-!
Entities with checked names: what every generator works from. Column names are distinct after
trimming; generators visit columns by name, compared in lower case, equal names in the order of the
description.
-/
namespace EntityForge

structure Entity where
  name : String
  segments : List String
  table : String
  columns : List (String × Column)
  outDir : Path
  deriving DecidableEq, Repr

namespace Entity

def readName (raw : Value) (kind : String) : Except Failure String :=
  match Name.read? raw with
  | some name => .ok name
  | none => .error (.invalidName raw.plain kind)

def readColumns (entity : String) :
    List (String × Column) → Entries → Except Failure (List (String × Column))
  | found, [] => .ok found
  | found, (key, entry) :: rest =>
    match readName key "column" with
    | .error failure => .error failure
    | .ok name =>
      if (found.lookup name).isSome then .error (.duplicateColumn name entity)
      else readColumns entity (found ++ [(name, Column.ofValue entry)]) rest

def tableName (raw : Value) (className : String) : String :=
  let trimmed := Text.trim raw.plain
  if trimmed = "" then className else trimmed

def ofDescription (key : Value) (description : Description) (segments : List String)
    (outDir : Path) : Except Failure Entity := do
  let name ← readName key "class"
  match description.columns.opened with
  | .map entries =>
    let columns ← readColumns name [] entries
    .ok ⟨name, segments, tableName description.table name, columns, outDir⟩
  | _ => .error (.foreign "columns without entries")

/-- Checks an entity description as `ofDescription` does and makes its output directory canonical; a
path that no directory can have is refused last. -/
def normalize (cwd : Location) (key : Value) (description : Description) (segments : List String)
    (outDir : Path) : Except Failure Entity := do
  let e ← ofDescription key description segments (outDir.resolve cwd)
  if outDir.hasNul then .error nulFault else .ok e

def nameBefore (a b : String) : Bool := !(Value.folded (.text b) < Value.folded (.text a))

def sorted (e : Entity) : List (String × Column) :=
  e.columns.mergeSort fun a b => nameBefore a.1 b.1

def columnNames (e : Entity) : List String := e.sorted.map Prod.fst

def methods (e : Entity) : List (String × String) :=
  e.columnNames.map fun name => (name, Name.accessorOf name)

def classDir (e : Entity) : Path := e.segments.foldl Path.child e.outDir

def qualifiedName (e : Entity) (separator : String) : String :=
  String.intercalate separator (e.segments ++ [e.name])

end Entity

end EntityForge
