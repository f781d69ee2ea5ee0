import EntityForge.Emit.Artifact
import EntityForge.Target.Basic

/-!
Doctrine output: an annotated PHP class, its extension trait and the XML mapping. The mapping lists
id columns first; its directory may be moved by an option.
-/
namespace EntityForge.Emit.Doctrine

def mappingNamespace : String := "http://doctrine-project.org/schemas/orm/doctrine-mapping"

def columnView (name : String) (c : Column) (native : String) : Value :=
  let suffix := Name.accessorOf name
  .map [
    (.text "name", .text name),
    (.text "doctrine_type", .text native),
    (.text "php_type", .text (TypeTable.docType c.tag)),
    (.text "is_id", .bool c.id),
    (.text "is_auto", .bool c.auto),
    (.text "nullable", .bool c.nullable),
    (.text "is_json", .bool c.isJson),
    (.text "getter", .text ("get" ++ suffix)),
    (.text "setter", if c.auto then .null else .text ("set" ++ suffix))]

def typed (e : Entity) : Except Failure (List (String × Column × String)) :=
  e.sorted.mapM fun (name, c) => do
    return (name, c, ← TypeTable.doctrine.map c.tag c.id c.nullable)

def mappingBefore (a b : String × Column × String) : Bool :=
  if a.2.1.id = b.2.1.id then Entity.nameBefore a.1 b.1 else a.2.1.id

def scope (e : Entity) (options : Options) (columns : List (String × Column × String)) : Scope :=
  let views (cs : List (String × Column × String)) : Value :=
    .list (cs.map fun (name, c, native) => columnView name c native)
  [("add_header", .bool options.header),
    ("add_comments", .bool options.comments),
    ("class_name", .text e.name),
    ("table_name", .text e.table),
    ("php_namespace", .text (String.intercalate "\\" e.segments)),
    ("trait_namespace", .text (String.intercalate "\\" (e.segments ++ ["Extensions"]))),
    ("entity_name", .text (e.qualifiedName "\\")),
    ("columns", views columns),
    ("mapping_columns", views (columns.mergeSort mappingBefore)),
    ("xmlns", .text mappingNamespace),
    ("xsd", .text (mappingNamespace ++ ".xsd"))]

def isBlankByte (b : UInt8) : Bool := b == 32 || (9 ≤ b && b ≤ 13)

def mappingDir (e : Entity) (options : Options) : Except Failure Path :=
  match options.xmlOutDir with
  | .text s =>
    let dir := Text.trim s
    .ok (if dir = "" then e.outDir else e.outDir.child dir)
  | .bytes data =>
    if data.all isBlankByte then .ok e.outDir else .error (.foreign "mapping directory without text")
  | v => if v.truthy then .error (.foreign "mapping directory without text") else .ok e.outDir

def artifacts (e : Entity) (options : Options) : Except Failure (List Artifact) := do
  let columns ← typed e
  let view := scope e options columns
  let file := e.name ++ Target.doctrine.extension
  let phpClass ← renderFormatted "class.php.j2" Template.phpClass view options
  let phpTrait ← renderFormatted "trait.php.j2" Template.phpTrait view options
  let dir ← mappingDir e options
  let mapping ← renderFormatted "mapping.dcm.xml.j2" Template.xmlMapping view options
  return [
    { path := e.classDir.child file, content := phpClass, kind := "class" },
    { path := (e.classDir.child "Extensions").child file, content := phpTrait, overwrite := false,
      kind := "extension" },
    { path := dir.child (e.qualifiedName "." ++ ".dcm.xml"), content := mapping, kind := "mapping" }]

end EntityForge.Emit.Doctrine
