import EntityForge.Config.File
import EntityForge.Target.Basic

/-!
The settings of a run: which targets are selected, what is read and where the files go. Several
sources are merged one after the other: flags are replaced, lists grow.
-/
namespace EntityForge

structure Settings where
  doctrine : Bool := false
  entityFramework : Bool := false
  entityFrameworkCore : Bool := false
  inputFiles : List String := []
  outDirs : List String := []
  mappingDir : Option String := none
  deriving DecidableEq, Repr

namespace Settings

/-- The texts of a value that may be a list; absent and blank ones do not count. -/
def texts (v : Value) : List String :=
  match v.opened with
  | .null => []
  | .list items => keep items
  | .tuple items => keep items
  | _ => keep [v]
where
  keep (items : List Value) : List String :=
    items.filterMap fun item =>
      match item with
      | .null => none
      | v => if Text.trim v.display = "" then none else some v.display

def trimmed? : Value → Option String
  | .null => none
  | v => if Text.trim v.display = "" then none else some (Text.trim v.display)

def flagOr (entries : Entries) (name : String) (before : Bool) : Bool :=
  match Entries.field? entries name with
  | some v => v.flag
  | none => before

def merge (s : Settings) (entries : Entries) : Settings :=
  let field (name : String) : Value := (Entries.field? entries name).getD .null
  { doctrine := flagOr entries "doctrine" s.doctrine
    entityFramework := flagOr entries "entityFramework" s.entityFramework
    entityFrameworkCore := flagOr entries "entityFrameworkCore" s.entityFrameworkCore
    inputFiles := s.inputFiles ++ texts (field "inputFiles")
    outDirs := s.outDirs ++ texts (field "outDir")
    mappingDir := (trimmed? (field "doctrineXmlOutDir")).orElse fun _ => s.mappingDir }

def mergeValue (s : Settings) (v : Value) : Except Failure Settings :=
  match v.opened with
  | .map entries => .ok (s.merge entries)
  | _ => .error (.foreign "settings without entries")

def mergeFile (s : Settings) (p : Path) : Activity Settings := do
  return s.merge (← Config.loadFile p)

def selects (s : Settings) : Target → Bool
  | .doctrine => s.doctrine
  | .entityFramework => s.entityFramework
  | .entityFrameworkCore => s.entityFrameworkCore

def targets (s : Settings) : List Target := Target.all.filter s.selects

def effectiveInputFiles (s : Settings) : List String :=
  if s.inputFiles.isEmpty then ["entities.json"] else s.inputFiles

def effectiveOutDirs (s : Settings) : List String :=
  if s.outDirs.isEmpty then ["./out"] else s.outDirs

def overrides (s : Settings) : Target → Entries
  | .doctrine =>
    match s.mappingDir with
    | some dir => if dir = "" then [] else [(.text "xml_out_dir", .text dir)]
    | none => []
  | _ => []

def options (s : Settings) (t : Target) : Except Failure Options := Options.merge t.key [] (s.overrides t)

end Settings

end EntityForge
