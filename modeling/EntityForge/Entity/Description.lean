import EntityForge.Naming

/-!
Entity descriptions as documents give them. Whatever has the wrong shape counts as absent: an entity
that is no mapping has no columns, a file that is none has no entities.
-/
namespace EntityForge

structure Column where
  tag : String
  id : Bool := false
  auto : Bool := false
  nullable : Bool := false
  deriving DecidableEq, Repr, Inhabited

/-- Reads a column entry: a mapping with `type`, `id`, `auto` and `null` (or `nullable`), or the bare
type tag. -/
def Column.ofValue (v : Value) : Column :=
  match v.opened with
  | .map entries =>
    let field (name : String) : Value := (Entries.field? entries name).getD .null
    { tag := (field "type").folded
      id := (field "id").flag
      auto := (field "auto").flag
      nullable := ((Entries.field? entries "null").getD (field "nullable")).flag }
  | _ => { tag := v.folded }

def Column.isJson (c : Column) : Bool := Value.folded (.text c.tag) = "json"

structure Description where
  table : Value := .null
  columns : Value := .map []

def Description.ofValue (v : Value) : Description :=
  match v.opened with
  | .map entries =>
    { table := match Entries.field? entries "table" with
        | none => .null
        | some .null => .null
        | some v => .text v.plain
      columns := match (Entries.field? entries "columns").map Value.opened with
        | some (.map columns) => .map columns
        | _ => .map [] }
  | _ => {}

def namespaceSegments (s : List Char) : List (List Char) :=
  ((Text.splitAt (· == '.') s).map Text.strip).filter fun segment => !segment.isEmpty

def parseNamespace (raw : Value) : List String :=
  (namespaceSegments raw.plain.toList).map String.ofList

structure EntityFile where
  segments : List String := []
  entities : Entries := []

def EntityFile.ofValue (v : Value) : EntityFile :=
  match v.opened with
  | .map entries =>
    { segments := parseNamespace ((Entries.field? entries "namespace").getD .null)
      entities := match (Entries.field? entries "entities").map Value.opened with
        | some (.map entities) => entities
        | _ => [] }
  | _ => {}

def EntityFile.ignoresEntities (v : Value) : Bool :=
  match v.opened with
  | .map entries =>
    match (Entries.field? entries "entities").map Value.opened with
    | none => false
    | some .null => false
    | some (.map _) => false
    | some _ => true
  | _ => false

end EntityForge
