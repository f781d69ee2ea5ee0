import EntityForge.Value

/-!
The ways in which loading, configuring and generating can fail, and the one place where their
messages are worded.
-/
namespace EntityForge

inductive DocumentFault where
  | malformed (format source : String)
  | wrongRoot (source tag : String)
  | notFound (path : String)
  | invalidUrl (url : String)
  | timeout (url : String)
  | connection (url : String)
  | status (code : Int) (url : String)
  | request (url reason : String)
  deriving DecidableEq, Repr

inductive ConfigFault where
  | notFound (path : String)
  | unloadable (path : String) (fault : DocumentFault)
  | notObject (path : String)
  deriving DecidableEq, Repr

inductive RegistryFault where
  | notGenerator
  | aliasIsTarget (label : String)
  | aliasTaken (label owner : String)
  | configKind (kind : String)
  deriving DecidableEq, Repr

inductive FileFault where
  | createDirectory (path : String)
  | checkExistence (path : String)
  | writeFile (path : String)
  deriving DecidableEq, Repr

inductive Failure where
  | invalidName (value kind : String)
  | duplicateColumn (column entity : String)
  | duplicateEntity (entity : String)
  | unsupportedType (tag target : String)
  | unsupportedTarget (target : Value) (available : List String)
  | registry (fault : RegistryFault)
  | files (fault : FileFault)
  | template (name : String)
  | config (fault : ConfigFault)
  | document (fault : DocumentFault)
  | foreign (text : String)

def nulFault : Failure := .foreign "embedded null byte"

def DocumentFault.message : DocumentFault → String
  | .malformed format source => s!"Invalid {format} in {source}"
  | .wrongRoot source tag => s!"Root element of {source} must be <entity_baker>, not <{tag}>"
  | .notFound path => s!"File not found: {path}"
  | .invalidUrl url => s!"Invalid URL: {url}"
  | .timeout url => s!"Request timeout for URL: {url}"
  | .connection url => s!"Connection error for URL: {url}"
  | .status code url => s!"HTTP error {code} for URL: {url}"
  | .request url reason => s!"Request error for URL {url}: {reason}"

def ConfigFault.message : ConfigFault → String
  | .notFound path => s!"Configuration file not found: {path}"
  | .unloadable path fault => s!"Failed to load configuration file {path}: {fault.message}"
  | .notObject path => s!"Configuration file must contain an object: {path}"

def RegistryFault.message : RegistryFault → String
  | .notGenerator => "Generator class must inherit from CodeGenerator"
  | .aliasIsTarget label => s!"Alias '{label}' conflicts with existing primary target"
  | .aliasTaken label owner => s!"Alias '{label}' already points to '{owner}'"
  | .configKind kind => s!"Invalid config type: <class '{kind}'>"

def FileFault.message : FileFault → String
  | .createDirectory path => s!"Could not create directory '{path}'"
  | .checkExistence path => s!"Could not check '{path}'"
  | .writeFile path => s!"Could not write '{path}'"

def Failure.message : Failure → String
  | .invalidName value kind => s!"The {kind} name '{value}' is invalid!"
  | .duplicateColumn column _ => s!"The column '{column}' has already been defined!"
  | .duplicateEntity entity => s!"The entity '{entity}' has already been defined!"
  | .unsupportedType tag target => s!"The data type '{tag}' is not supported by {target}!"
  | .unsupportedTarget target available =>
    let base := s!"Target {target.display} is not supported!"
    if available.isEmpty then base
    else base ++ " Available: " ++ String.intercalate ", " available
  | .registry fault => fault.message
  | .files fault => fault.message
  | .template name => s!"Failed to render template {name}"
  | .config fault => fault.message
  | .document fault => fault.message
  | .foreign text => text

/-- Failures of generating one entity; they never leave the entity they belong to. Configuration and
document failures are of another kind, and so are foreign ones. -/
def Failure.ofGeneration : Failure → Bool
  | .config _ => false
  | .document _ => false
  | .foreign _ => false
  | _ => true

end EntityForge
