import EntityForge.Naming

/-!
XML elements and the plain data they stand for. An element without children and attributes is its
text. Any other is a mapping: attributes and children under their names in the order of first
occurrence, a name that occurs once with its value, one that occurs more often with the list of its
values, and the text before the first child under `_`.
-/
namespace EntityForge.Xml

/-- An element; `text` is what stands before its first child. -/
inductive Element where
  | mk (tag : String) (attributes : List (String × String)) (text : String) (children : List Element)
  deriving Inhabited

def Element.tag : Element → String
  | .mk tag _ _ _ => tag

abbrev Groups := List (String × List Value)

def Groups.add (name : String) (value : Value) : Groups → Groups
  | [] => [(name, [value])]
  | (n, values) :: rest =>
    if n = name then (n, values ++ [value]) :: rest else (n, values) :: Groups.add name value rest

def gathered : List Value → Value
  | [value] => value
  | values => .list values

def mappingOf (groups : Groups) (text : String) : Entries :=
  let entries : Entries := groups.map fun (name, values) => (.text name, gathered values)
  if text = "" then entries else Entries.insert entries (.text "_") (.text text)

mutual

def Element.toValue : Element → Value
  | .mk _ attributes text children =>
    let trimmed := Text.trim text
    if children.isEmpty && attributes.isEmpty then .text trimmed
    else
      let named := attributes.map (fun (name, value) => (name, Value.text value)) ++ childValues children
      .map (mappingOf (named.foldl (fun groups (name, value) => Groups.add name value groups) []) trimmed)

def childValues : List Element → List (String × Value)
  | [] => []
  | child :: rest => (child.tag, child.toValue) :: childValues rest

end

mutual

def Element.depth : Element → Nat
  | .mk _ _ _ children => childDepth children + 1

def childDepth : List Element → Nat
  | [] => 0
  | child :: rest => max child.depth (childDepth rest)

end

end EntityForge.Xml
