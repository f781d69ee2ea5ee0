import EntityForge.Emit.Artifact
import EntityForge.Target.Basic

/-!
Entity Framework output: a partial C# class and the part for hand-written extensions. Entity
Framework Core shares the layout of the class and differs in attributes and base types.
-/
namespace EntityForge.Emit.EntityFramework

structure Flavor where
  target : Target
  classAttributes : (table : String) → List String
  baseTypes : List String
  propertyAttributes : (name : String) → Column → List String

def notification : List String := [
  "global::System.ComponentModel.INotifyPropertyChanged",
  "global::System.ComponentModel.INotifyPropertyChanging"]

def annotations : String := "global::System.ComponentModel.DataAnnotations"

def classic : Flavor where
  target := .entityFramework
  classAttributes table := [
    "global::System.Runtime.Serialization.DataContract",
    "global::System.Data.Linq.Mapping.Table(Name = " ++ Text.literal table ++ ")",
    "global::System.Serializable"]
  baseTypes := "global::System.MarshalByRefObject" :: notification
  propertyAttributes name _ := [
    "global::System.Runtime.Serialization.DataMember(EmitDefaultValue = true, Name = " ++
      Text.literal name ++ ")"]

def core : Flavor where
  target := .entityFrameworkCore
  classAttributes table := [annotations ++ ".Schema.Table(" ++ Text.literal table ++ ")"]
  baseTypes := notification
  propertyAttributes name c :=
    (if c.id then [annotations ++ ".Key"] else []) ++
    (if c.auto then [annotations ++ ".Schema.DatabaseGenerated(" ++ annotations ++
      ".Schema.DatabaseGeneratedOption.Identity)"] else []) ++
    [annotations ++ ".Schema.Column(" ++ Text.literal name ++ ")"]

def texts (items : List String) : Value := .list (items.map .text)

def columnView (flavor : Flavor) (name : String) (c : Column) (native : String) : Value :=
  .map [
    (.text "name", .text name),
    (.text "clr_type", .text native),
    (.text "field", .text ("_" ++ name)),
    (.text "property", .text (Name.accessorOf name)),
    (.text "is_id", .bool c.id),
    (.text "is_auto", .bool c.auto),
    (.text "has_setter", .bool !c.auto),
    (.text "attributes", texts (flavor.propertyAttributes name c))]

def typed (flavor : Flavor) (e : Entity) : Except Failure (List (String × Column × String)) :=
  e.sorted.mapM fun (name, c) => do
    return (name, c, ← flavor.target.types.map c.tag c.id c.nullable)

def scope (flavor : Flavor) (e : Entity) (options : Options)
    (columns : List (String × Column × String)) : Scope :=
  [("add_header", .bool options.header),
    ("add_comments", .bool options.comments),
    ("target_name", .text flavor.target.displayName),
    ("class_name", .text e.name),
    ("table_name", .text e.table),
    ("cs_namespace", .text (String.intercalate "." e.segments)),
    ("class_attributes", texts (flavor.classAttributes e.table)),
    ("base_types", texts flavor.baseTypes),
    ("columns", .list (columns.map fun (name, c, native) => columnView flavor name c native))]

def artifacts (flavor : Flavor) (e : Entity) (options : Options) :
    Except Failure (List Artifact) := do
  let columns ← typed flavor e
  let view := scope flavor e options columns
  let extension := flavor.target.extension
  let main ← renderFormatted "class.cs.j2" Template.csharpClass view options
  let extensions ← renderFormatted "extensions.cs.j2" Template.csharpExtensions view options
  return [
    { path := e.classDir.child (e.name ++ extension), content := main, kind := "class" },
    { path := e.classDir.child (e.name ++ ".Extensions" ++ extension), content := extensions,
      overwrite := false, kind := "extension" }]

end EntityForge.Emit.EntityFramework
