import EntityForge.Failure
import EntityForge.Path
import EntityForge.Url

/-!
The formats of documents and how a name tells them apart.
-/
namespace EntityForge

inductive Format where
  | json
  | xml
  | yaml
  deriving DecidableEq, Repr

namespace Format

def key : Format → String
  | .json => "json"
  | .xml => "xml"
  | .yaml => "yaml"

def title : Format → String
  | .json => "JSON"
  | .xml => "XML"
  | .yaml => "YAML"

def ofKey (name : String) : Format :=
  if name = "xml" then .xml else if name = "yaml" then .yaml else .json

def ofFileName (name : String) : Format :=
  let suffix := Text.lowercase (Path.suffixOf name)
  if suffix = ".xml" then .xml else if suffix = ".yaml" ∨ suffix = ".yml" then .yaml else .json

def isUrl (source : String) : Except Failure Bool :=
  match Url.ofText? source with
  | some url => .ok url.isWeb
  | none => .error (.foreign "invalid address")

def detect (source : String) : Except Failure Format :=
  match Url.ofText? source with
  | some url =>
    let path := if url.isWeb then url.path else source
    .ok (ofFileName (Path.ofText path).name)
  | none => .error (.foreign "invalid address")

end Format

end EntityForge
