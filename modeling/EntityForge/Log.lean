import EntityForge.Text.Blank
import EntityForge.Text.Case

/-!
The log: records with a level and the name of the part of the program that wrote them.
-/
namespace EntityForge.Log

inductive Level where
  | debug
  | info
  | warning
  | error
  deriving DecidableEq, Repr

def Level.title : Level → String
  | .debug => "DEBUG"
  | .info => "INFO"
  | .warning => "WARNING"
  | .error => "ERROR"

def Level.rank : Level → Nat
  | .debug => 10
  | .info => 20
  | .warning => 30
  | .error => 40

def ranks : List (String × Nat) := [
  ("CRITICAL", 50), ("FATAL", 50), ("ERROR", 40), ("WARN", 30), ("WARNING", 30), ("INFO", 20),
  ("DEBUG", 10), ("NOTSET", 0)]

structure Record where
  level : Level
  source : String
  message : String
  deriving DecidableEq, Repr

def Record.line (r : Record) : String := r.level.title ++ " " ++ r.source ++ " " ++ r.message

def root : String := "entity_baker"

def sourceName (name : String) : String :=
  if name = root ∨ (root ++ ".").isPrefixOf name then name else root ++ "." ++ name

def rank? (asked environment : Option String) : Except String Nat :=
  let given (s : Option String) : Option String := s.filter (· ≠ "")
  let name := (given asked).getD ((given environment).getD "WARNING")
  let upper := Text.uppercase (Text.trim name)
  match ranks.lookup upper with
  | some n => .ok n
  | none => .error ("Unknown log level: " ++ (given asked).getD upper)

/-- The rank from which records are kept. Without one of its own the log keeps warnings. -/
def threshold (rank : Nat) : Nat := if rank = 0 then Level.warning.rank else rank

def atLeast (rank : Nat) (records : List Record) : List Record :=
  records.filter fun r => rank ≤ r.level.rank

def Record.format (r : Record) (format : List Char) : String :=
  String.ofList (go format.length format)
where
  go : Nat → List Char → List Char
    | 0, s => s
    | _, [] => []
    | fuel + 1, c :: rest =>
      let places : List (String × String) := [
        ("%(levelname)s", r.level.title), ("%(name)s", r.source), ("%(message)s", r.message), ("%%", "%")]
      match places.find? fun (place, _) => place.toList.isPrefixOf (c :: rest) with
      | some (place, text) => text.toList ++ go fuel ((c :: rest).drop place.length)
      | none => c :: go fuel rest

def fileText (rank : Nat) (format : String) (records : List Record) : String :=
  String.join ((atLeast (threshold rank) records).map fun r => r.format format.toList ++ "\n")

end EntityForge.Log
