import EntityForge.Config.Options
import EntityForge.Document.Loading

/-!
Configuration files, and generator options from them.
-/
namespace EntityForge.Config

def source : String := "entity_baker.codegen.core.config"

def isPresent (p : Path) : Activity Bool := do
  let s ← get
  if p.hasNul then return false
  match s.tree.exists? s.cwd p with
  | .ok found => return found
  | .error _ => throw (.foreign "file name too long")

def readEntries (p : Path) : Activity Entries := do
  let data ← tryCatch (Document.loadFile p) fun failure =>
    match failure with
    | .document fault => throw (.config (.unloadable p.text fault))
    | other => throw other
  match data.opened with
  | .null => return []
  | .map entries =>
    Activity.note .debug source s!"Loaded configuration from {p.text}"
    return entries
  | _ => throw (.config (.notObject p.text))

def loadFile (p : Path) : Activity Entries := do
  if !(← isPresent p) then throw (.config (.notFound p.text))
  readEntries p

def overrides (v : Value) : Except Failure Entries :=
  match v.opened with
  | .map entries => .ok entries
  | _ => if v.truthy then .error (.foreign "overrides without entries") else .ok []

def loadNamed (file : Value) : Activity Entries :=
  match file with
  | .text name => if name = "" then return [] else loadFile (Path.ofText name)
  | v => if v.truthy then throw (.foreign "file name without text") else return []

def load (target : String) (custom file : Value) : Activity Options := do
  let entries ← loadNamed file
  Options.merge target entries (← overrides custom)

def ofDescription (target : String) (config : Value) : Activity Options :=
  match config.opened with
  | .null => Options.merge target [] []
  | .map entries => Options.merge target [] entries
  | .text name => load target .null (.text name)
  | _ => throw (.registry (.configKind config.kindName))

end EntityForge.Config
