import EntityForge.Failure
import EntityForge.Naming

/-!
Semantic type tags and the tables that give their native types. An empty tag stands for a 32-bit
integer in an id column and for a string everywhere else, on every target.
-/
namespace EntityForge

structure TypeTable where
  target : String
  natives : List (String × String)
  nullable : List String
  marker : String
  deriving DecidableEq, Repr

namespace TypeTable

def resolveTag (tag : String) (id : Bool) : String :=
  if tag = "" then if id then "int32" else "string" else tag

def native? (t : TypeTable) (tag : String) : Option String := t.natives.lookup tag

def supports (t : TypeTable) (tag : String) : Bool := (t.native? (resolveTag tag false)).isSome

def map (t : TypeTable) (tag : String) (id nullable : Bool) : Except Failure String :=
  let resolved := resolveTag tag id
  match t.native? resolved with
  | none => .error (.unsupportedType resolved t.target)
  | some native =>
    .ok (if nullable && t.nullable.contains native then native ++ t.marker else native)

def empty : TypeTable := ⟨"unknown", [], [], ""⟩

def doctrine : TypeTable where
  target := "Doctrine"
  natives := [
    ("bigint", "bigint"), ("int64", "bigint"), ("decimal", "decimal"), ("float", "float"),
    ("int", "integer"), ("int32", "integer"), ("integer", "integer"), ("int16", "smallint"),
    ("smallint", "smallint"), ("json", "string"), ("str", "string"), ("string", "string")]
  nullable := []
  marker := ""

def entityFramework : TypeTable where
  target := "Entity Framework"
  natives := [
    ("bigint", "long"), ("int64", "long"), ("int", "int"), ("int32", "int"), ("integer", "int"),
    ("json", "dynamic"), ("str", "string"), ("string", "string")]
  nullable := ["int", "long"]
  marker := "?"

def entityFrameworkCore : TypeTable where
  target := "Entity Framework Core"
  natives := [
    ("bigint", "long"), ("int64", "long"), ("decimal", "decimal"), ("float", "float"),
    ("int", "int"), ("int32", "int"), ("integer", "int"), ("int16", "short"),
    ("smallint", "short"), ("json", "dynamic"), ("str", "string"), ("string", "string")]
  nullable := ["decimal", "float", "int", "long", "short"]
  marker := "?"

def docType (tag : String) : String :=
  if tag ∈ ["", "str", "string"] then "string"
  else if tag ∈ ["bigint", "int", "int32", "int64", "integer"] then "integer"
  else "mixed"

end TypeTable

end EntityForge
