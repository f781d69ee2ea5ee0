/-!
The tokens of YAML: indicators, scalars and the boundaries of block collections, which stand where
the indentation grows or shrinks.
-/
namespace EntityForge.Yaml

inductive Directive where
  | version (major minor : Nat)
  | tag (handle start : String)
  | other (name : String)
  deriving DecidableEq, Repr

inductive Token where
  | directive (d : Directive)
  | documentStart
  | documentEnd
  | blockSequenceStart
  | blockMappingStart
  | blockEnd
  | flowSequenceStart
  | flowSequenceEnd
  | flowMappingStart
  | flowMappingEnd
  | blockEntry
  | flowEntry
  | key
  | value
  | reference (name : String)
  | anchor (name : String)
  | tag (handle : Option String) (suffix : String)
  | scalar (text : String) (plain : Bool)
  deriving DecidableEq, Repr

end EntityForge.Yaml
