import EntityForge.Naming
import EntityForge.Text.Literal

/-!
Source templates as data. A template is a list of blocks of lines; a line holds fixed text and holes.
Holes are filled from a scope of named values, and a name that the scope does not have is a fault
where it is used and nowhere else.
-/
namespace EntityForge

abbrev Scope := List (String × Value)

namespace Template

inductive Source where
  | name (name : String)
  | field (name field : String)
  deriving DecidableEq, Repr

inductive Style where
  | plain
  | literal
  | doubled
  | escaped
  | joined (separator : String)
  deriving DecidableEq, Repr

inductive Piece where
  | text (s : String)
  | hole (source : Source) (style : Style)
  | when (condition : Source) (s : String)
  deriving DecidableEq, Repr

inductive Block where
  | lines (texts : List String)
  | line (pieces : List Piece)
  | when (condition : Source) (yes : List Block)
  | choose (condition : Source) (yes no : List Block)
  | each (item : String) (source : Source) (body : List Block)
  /-- A body inside the namespace that the value names, or bare if it is empty. -/
  | within (source : Source) (body : List Block)

inductive Fault where
  | undefined
  | wrongKind
  deriving DecidableEq, Repr

def Source.read (scope : Scope) : Source → Except Fault Value
  | .name n => (scope.lookup n).elim (.error .undefined) .ok
  | .field n key =>
    match (scope.lookup n).map Value.opened with
    | some (.map entries) => (Entries.field? entries key).elim (.error .undefined) .ok
    | _ => .error .undefined

def Style.write : Style → Value → Except Fault String
  | .plain, v => .ok v.display
  | .literal, v => .ok (Text.literal v.display)
  | .doubled, v => .ok (Text.doubled v.display)
  | .escaped, v => .ok (Text.escaped v.display)
  | .joined separator, v =>
    match v.items? with
    | some items => .ok (String.intercalate separator (items.map Value.display))
    | none => .error .wrongKind

def Piece.fill (scope : Scope) : Piece → Except Fault String
  | .text s => .ok s
  | .hole source style => do style.write (← source.read scope)
  | .when condition s => do return if (← condition.read scope).truthy then s else ""

def fillLine (scope : Scope) : List Piece → Except Fault String
  | [] => .ok ""
  | piece :: rest => do
    let first ← piece.fill scope
    return first ++ (← fillLine scope rest)

def textOf (lines : List String) : String := String.join (lines.map (· ++ "\n"))

def wrap (name : String) (body : List String) : List String :=
  ["namespace " ++ name, "\x7b",
    String.ofList (Text.indent 4 (Text.stripEnd (textOf body).toList)), "\x7d"]

def forEach (fill : Scope → Except Fault (List String)) (item : String) (scope : Scope) :
    List Value → Except Fault (List String)
  | [] => .ok []
  | v :: rest => do
    let first ← fill ((item, v) :: scope)
    return first ++ (← forEach fill item scope rest)

mutual

def Block.fill (scope : Scope) : Block → Except Fault (List String)
  | .lines texts => .ok texts
  | .line pieces => do return [← fillLine scope pieces]
  | .when condition yes => do
    if (← condition.read scope).truthy then fillAll scope yes else .ok []
  | .choose condition yes no => do
    if (← condition.read scope).truthy then fillAll scope yes else fillAll scope no
  | .each item source body => do
    match (← source.read scope).items? with
    | some items => forEach (fun inner => fillAll inner body) item scope items
    | none => .error .wrongKind
  | .within source body => do
    let lines ← fillAll scope body
    let name ← source.read scope
    return if name.truthy then wrap name.display lines else lines ++ [""]

def fillAll (scope : Scope) : List Block → Except Fault (List String)
  | [] => .ok []
  | block :: rest => do
    let first ← block.fill scope
    return first ++ (← fillAll scope rest)

end

end Template

abbrev Template := List Template.Block

def Template.render (t : Template) (scope : Scope) : Except Template.Fault String := do
  return Template.textOf (← Template.fillAll scope t)

end EntityForge
