import EntityForge.Failure
import EntityForge.Naming

/-!
Generator options. Two options are flags and always have a truth value; the others are kept as given
and checked where they are used. Options that no generator knows are collected under `custom`.
-/
namespace EntityForge

structure Options where
  header : Bool := true
  comments : Bool := true
  lineEnding : Value := .text "\n"
  xmlOutDir : Value := .null
  custom : Value := .map []

namespace Options

def aliases : List (String × String) := [
  ("addHeader", "add_header"), ("addComments", "add_comments"), ("lineEnding", "line_ending"),
  ("xmlOutDir", "xml_out_dir"), ("doctrineXmlOutDir", "xml_out_dir")]

def optionKey : Value → Value
  | .text s => .text ((aliases.lookup s).getD s)
  | key => key

def canonical (entries : Entries) : Entries :=
  Entries.ofPairs (entries.map fun (key, value) => (optionKey key, value))

def known : List String := ["add_header", "add_comments", "line_ending", "xml_out_dir", "custom"]

def isUnknown : Value → Bool
  | .text s => !known.contains s
  | _ => true

def pair? (v : Value) : Option (Value × Value) :=
  match v.items? with
  | some [key, value] => if key.hashable then some (key, value) else none
  | _ => none

def entriesOf? (v : Value) : Option Entries :=
  match v.opened with
  | .map entries => some entries
  | _ =>
    if !v.truthy then some []
    else do
      let items ← v.items?
      let pairs ← items.mapM pair?
      return Entries.ofPairs pairs

def ofEntries (entries : Entries) : Except Failure Options :=
  let unknown := entries.filter fun e => isUnknown e.1
  let given (name : String) (default : Value) : Value := (Entries.field? entries name).getD default
  let flagOf (name : String) : Bool :=
    match Entries.field? entries name with
    | some v => v.flag true
    | none => true
  let base : Options := {
    header := flagOf "add_header"
    comments := flagOf "add_comments"
    lineEnding := given "line_ending" (.text "\n")
    xmlOutDir := given "xml_out_dir" .null
    custom := given "custom" (.map []) }
  if unknown.isEmpty then .ok base
  else match entriesOf? base.custom with
    | some custom => .ok { base with custom := .map (Entries.update custom unknown) }
    | none => .error (.foreign "custom options without entries")

/-- The part of a configuration file that concerns a target: the mapping under its key if there is
one, else the whole file. -/
def section? (target : String) (file : Entries) : Entries :=
  match (Entries.field? file target).map Value.opened with
  | some (.map inner) => inner
  | _ => file

def merge (target : String) (file overrides : Entries) : Except Failure Options :=
  ofEntries (Entries.update (canonical (section? target file)) (canonical overrides))

def ofArguments (target : String) (arguments : Entries) : Except Failure Options :=
  let isText : Value → Bool
    | .text _ => true
    | _ => false
  if !arguments.all (fun e => isText e.1) then .error (.foreign "option without a name")
  else if target ≠ "doctrine" then merge target [] arguments
  else
    let others := arguments.filter fun e => !Value.sameKey e.1 (.text "xml_out_dir")
    match Entries.field? arguments "xml_out_dir" with
    | none => merge target [] others
    | some .null => merge target [] others
    | some dir => merge target [] (others ++ [(.text "xml_out_dir", dir)])

end Options

end EntityForge
