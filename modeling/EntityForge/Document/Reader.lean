import EntityForge.Document.Format
import EntityForge.Json.Reader
import EntityForge.Xml.Reader
import EntityForge.Yaml.Reader

/-!
Documents of every format as plain data.
-/
namespace EntityForge.Document

def rootName : String := "entity_baker"

/-- The data of an XML document under the right root. A root without content is an empty mapping. -/
def readXml (text source : String) : Except ReadFault (Except DocumentFault Value) := do
  let root ← Xml.parse text
  if root.tag != rootName then return .error (.wrongRoot source root.tag)
  match root.toValue with
  | .map entries => return .ok (.map entries)
  | _ => return .ok (.map [])

def read (format : Format) (text source : String) : Except Failure Value :=
  let outcome : Except ReadFault (Except DocumentFault Value) :=
    match format with
    | .json => (Json.parse text).map Except.ok
    | .xml => readXml text source
    | .yaml => (Yaml.parse text.toList).map Except.ok
  match outcome with
  | .ok (.ok value) => .ok value
  | .ok (.error fault) => .error (.document fault)
  | .error .malformed => .error (.document (.malformed format.title source))
  | .error (.impossible text) => .error (.foreign text)

end EntityForge.Document
