import EntityForge.Text.Blank
import EntityForge.Text.Split
import EntityForge.Value

/-!
Names in entity descriptions. Descriptions come from formats with and without types, so every rule
first takes the text of a value; an absent value counts as empty text. A name is valid when its
trimmed text is a letter or underscore followed by letters, digits and underscores, all ASCII.
-/
namespace EntityForge

namespace Value

def textOr (default : String) : Value → String
  | .text s => s
  | .null => default
  | v => v.display

def plain (v : Value) : String := v.textOr ""

def folded (v : Value) : String := Text.trim (Text.lowercase v.plain)

/-- Reads a flag. Blank values give the default; `0`, `false`, `n`, `no` and `1`, `true`, `y`, `yes`
are understood in any case; everything else counts by its truth as a value. -/
def flag (v : Value) (default : Bool := false) : Bool :=
  match v with
  | .bool b => b
  | v =>
    if Text.trim v.plain = "" then default
    else if v.folded ∈ ["0", "false", "n", "no"] then false
    else if v.folded ∈ ["1", "true", "y", "yes"] then true
    else v.truthy

end Value

namespace Name

def isWordChar (c : Char) : Bool := c.isAlphanum || c == '_'

def wellFormed : List Char → Bool
  | [] => false
  | c :: rest => isWordChar c && !c.isDigit && rest.all isWordChar

def read? (raw : Value) : Option String :=
  let name := Text.strip raw.plain.toList
  if wellFormed name then some (String.ofList name) else none

def isSeparator (c : Char) : Bool := c == '_' || c == '-' || c == '\t'

def words (key : List Char) : List (List Char) :=
  ((Text.splitAt isSeparator key).map Text.strip).filter fun w => !w.isEmpty

def capitalize : List Char → List Char
  | [] => []
  | c :: rest => Text.upperChar c ++ rest

def accessor (key : List Char) : List Char := (words key).flatMap capitalize

def accessorOf (key : String) : String := String.ofList (accessor key.toList)

def collisions (methods : List (String × String)) : List String :=
  go [] methods
where
  go (owners : List (String × String)) : List (String × String) → List String
    | [] => []
    | (column, suffix) :: rest =>
      match owners.lookup suffix with
      | some other =>
        s!"Columns '{other}' and '{column}' both map to accessor name '{suffix}'" :: go owners rest
      | none => go ((suffix, column) :: owners) rest

end Name

end EntityForge
