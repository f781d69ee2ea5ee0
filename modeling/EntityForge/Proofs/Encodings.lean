import EntityForge.Document.Reader
import EntityForge.Proofs.Blanks
import EntityForge.Proofs.Columns

/-! One document in two encodings. Formats without types give every scalar as a text and an empty
mapping as an empty text. Descriptions read from either form have the same namespace and the same
entities, and normalizing those gives the same results and the same failures. -/
namespace EntityForge
open List (Forall₂)

inductive Scalar where
  | null
  | bool (b : Bool)
  | int (n : Int)
  | text (s : String)

namespace Scalar

def value : Scalar → Value
  | .null => .null
  | .bool b => .bool b
  | .int n => .int n
  | .text s => .text s

def shown (s : Scalar) : String := s.value.plain

end Scalar

inductive Tree where
  | leaf (s : Scalar)
  | node (fields : List (String × Tree))

namespace Tree

mutual

def value : Tree → Value
  | .leaf s => s.value
  | .node fields => .map (fieldValues fields)

def fieldValues : List (String × Tree) → Entries
  | [] => []
  | (name, tree) :: rest => (.text name, tree.value) :: fieldValues rest

end

mutual

def element (tag : String) : Tree → Xml.Element
  | .leaf s => .mk tag [] s.shown []
  | .node fields => .mk tag [] "" (fieldElements fields)

def fieldElements : List (String × Tree) → List Xml.Element
  | [] => []
  | (name, tree) :: rest => tree.element name :: fieldElements rest

end

def untyped (tree : Tree) (tag : String) : Value := (tree.element tag).toValue

theorem elementTag (tree : Tree) (tag : String) : (tree.element tag).tag = tag := by
  cases tree <;> simp [element, Xml.Element.tag]

theorem fieldValuesMap (fields : List (String × Tree)) :
    fieldValues fields = fields.map fun field => (.text field.1, field.2.value) := by
  induction fields with
  | nil => simp [fieldValues]
  | cons field rest ih => simp [fieldValues, ih]

theorem childValuesMap (fields : List (String × Tree)) : Xml.childValues (fieldElements fields) =
    fields.map fun field => (field.1, field.2.untyped field.1) := by
  induction fields with
  | nil => simp [fieldElements, Xml.childValues]
  | cons field rest ih => simp [fieldElements, Xml.childValues, ih, elementTag, untyped]

end Tree

namespace Xml

theorem addNew {groups : Groups} {name : String} (new : name ∉ groups.map Prod.fst)
    (value : Value) : Groups.add name value groups = groups ++ [(name, [value])] := by
  induction groups with
  | nil => rfl
  | cons group rest ih =>
    simp only [List.map_cons, List.mem_cons, not_or] at new
    rw [Groups.add, if_neg (Ne.symm new.1), ih new.2, List.cons_append]

theorem gatherApart {named : List (String × Value)} {groups : Groups}
    (apart : (groups.map Prod.fst ++ named.map Prod.fst).Nodup) :
    named.foldl (fun groups (name, value) => Groups.add name value groups) groups =
      groups ++ named.map fun entry => (entry.1, [entry.2]) := by
  induction named generalizing groups with
  | nil => simp
  | cons entry rest ih =>
    obtain ⟨name, value⟩ := entry
    rw [List.map_cons, List.nodup_append] at apart
    have new : name ∉ groups.map Prod.fst :=
      fun there => apart.2.2 name there name List.mem_cons_self rfl
    have later : ((groups ++ [(name, [value])]).map Prod.fst ++ rest.map Prod.fst).Nodup := by
      rw [List.map_append, List.append_assoc]
      exact List.nodup_append.mpr apart
    rw [List.foldl_cons]
    dsimp only
    rw [addNew new, ih later]
    simp

end Xml

namespace Tree

def fieldUntyped (fields : List (String × Tree)) : Entries :=
  fields.map fun field => (.text field.1, field.2.untyped field.1)

theorem leafUntyped (s : Scalar) (tag : String) :
    (leaf s).untyped tag = .text (Text.trim s.shown) := by
  simp [untyped, element, Xml.Element.toValue]

theorem emptyUntyped (tag : String) : (node []).untyped tag = .text "" := by
  simp [untyped, element, fieldElements, Xml.Element.toValue]
  rfl

theorem nodeUntyped {fields : List (String × Tree)} (some : fields ≠ [])
    (apart : (fields.map Prod.fst).Nodup) (tag : String) :
    (node fields).untyped tag = .map (fieldUntyped fields) := by
  have blank : Text.trim "" = "" := rfl
  have apart : (([] : Xml.Groups).map Prod.fst ++
      (fields.map fun field => (field.1, field.2.untyped field.1)).map Prod.fst).Nodup := by
    rwa [List.map_map]
  have children : (fieldElements fields).isEmpty = false := by
    obtain ⟨field, rest, rfl⟩ := List.exists_cons_of_ne_nil some
    rw [fieldElements, List.isEmpty_cons]
  rw [untyped, element, Xml.Element.toValue, childValuesMap, children]
  simp only [Bool.false_and, Bool.false_eq_true, if_false, List.map_nil, List.nil_append]
  rw [Xml.gatherApart apart, blank, Xml.mappingOf, if_pos rfl]
  simp [fieldUntyped, Xml.gathered]

end Tree

namespace Scalar

theorem shownFolded (s : Scalar) : (Value.text (Text.trim s.shown)).folded = s.value.folded :=
  Text.lowercaseTrim s.shown

theorem shownPlain (s : Scalar) :
    Text.trim (Value.text (Text.trim s.shown)).plain = Text.trim s.value.plain :=
  Text.trimIdem s.shown

theorem textTruthy {s : String} (some : Text.trim (Value.text s).plain ≠ "") :
    (Value.text s).truthy = true := by
  rw [Value.truthy, bne_iff_ne]
  rintro rfl
  exact some rfl

theorem zeroFolded : (Value.int 0).folded ∈ ["0", "false", "n", "no"] := by decide +kernel

theorem shownFlag (s : Scalar) : (Value.text (Text.trim s.shown)).flag = s.value.flag := by
  have folded := shownFolded s
  have plain := shownPlain s
  have counts (some : ¬ Text.trim s.value.plain = "") :
      (Value.text (Text.trim s.shown)).truthy = true :=
    textTruthy fun none => some (plain.symm.trans none)
  cases s with
  | null => rfl
  | bool b => cases b <;> decide +kernel
  | int n =>
    simp only [value] at folded plain counts
    simp only [Value.flag, value, folded, plain]
    split
    next => rfl
    next some =>
      split
      next => rfl
      next other =>
        have number : n ≠ 0 := by
          rintro rfl
          exact other zeroFolded
        have counts' : (Value.int n).truthy = true := by simp [Value.truthy, number]
        rw [counts some, counts']
  | text t =>
    simp only [value] at folded plain counts
    simp only [Value.flag, value, folded, plain]
    split
    next => rfl
    next some => rw [counts some, textTruthy some]

end Scalar

namespace Tree

def isLeaf : Tree → Bool
  | .leaf _ => true
  | .node _ => false

def isMapping (each : String → Tree → Bool) : Tree → Bool
  | .leaf _ => false
  | .node fields =>
    decide (fields.map Prod.fst).Nodup && fields.all fun field => each field.1 field.2

def isColumn (tree : Tree) : Bool := tree.isLeaf || tree.isMapping fun _ => isLeaf

def isColumns (tree : Tree) : Bool := tree.isLeaf || tree.isMapping fun _ => isColumn

def isEntityField (name : String) (field : Tree) : Bool :=
  if name = "table" then field.isLeaf else if name = "columns" then field.isColumns else true

def isEntity (tree : Tree) : Bool := tree.isLeaf || tree.isMapping isEntityField

def isEntities (tree : Tree) : Bool := tree.isLeaf || tree.isMapping fun _ => isEntity

def isDocumentField (name : String) (field : Tree) : Bool :=
  if name = "namespace" then field.isLeaf else if name = "entities" then field.isEntities else true

def isDocument (tree : Tree) : Bool := tree.isMapping isDocumentField

/- A part of a document is a scalar, an empty mapping, or a mapping that is read back as one. -/
inductive Part (each : String → Tree → Bool) (tag : String) : Tree → Prop where
  | leaf (s : Scalar) (read : (Tree.leaf s).untyped tag = .text (Text.trim s.shown)) :
      Part each tag (.leaf s)
  | empty (read : (Tree.node []).untyped tag = .text "") : Part each tag (.node [])
  | node {fields : List (String × Tree)}
      (read : (Tree.node fields).untyped tag = .map (fieldUntyped fields))
      (shapes : ∀ field ∈ fields, each field.1 field.2 = true) : Part each tag (.node fields)

theorem partOf {each : String → Tree → Bool} {tree : Tree}
    (shape : (tree.isLeaf || tree.isMapping each) = true) (tag : String) : Part each tag tree := by
  cases tree with
  | leaf s => exact .leaf s (leafUntyped s tag)
  | node fields =>
    simp only [isLeaf, isMapping, Bool.false_or, Bool.and_eq_true, decide_eq_true_eq,
      List.all_eq_true] at shape
    by_cases some : fields = []
    · subst some
      exact .empty (emptyUntyped tag)
    · exact .node (nodeUntyped some shape.1 tag) shape.2

section Fields
variable {fields : List (String × Tree)}

theorem findField (g : String × Tree → Value) (fields : List (String × Tree)) (name : String) :
    Entries.field? (fields.map fun field => (.text field.1, g field)) name =
      (fields.find? fun field => field.1 == name).map g := by
  unfold Entries.field? Entries.get?
  rw [List.find?_map, Option.map_map]
  rfl

theorem fieldCases (each : String → Tree → Bool)
    (shapes : ∀ field ∈ fields, each field.1 field.2 = true) (name : String) :
    (Entries.field? (fieldValues fields) name = none ∧
        Entries.field? (fieldUntyped fields) name = none) ∨
      ∃ tree, each name tree = true ∧
        Entries.field? (fieldValues fields) name = some tree.value ∧
        Entries.field? (fieldUntyped fields) name = some (tree.untyped name) := by
  rw [fieldValuesMap, fieldUntyped, findField fun field => field.2.value,
    findField fun field => field.2.untyped field.1]
  cases found : fields.find? fun field => field.1 == name with
  | none => exact .inl ⟨rfl, rfl⟩
  | some field =>
    obtain ⟨same, there⟩ : (field.1 == name) = true ∧ field ∈ fields :=
      ⟨by simpa using List.find?_some found, List.mem_of_find?_eq_some found⟩
    obtain rfl := eq_of_beq same
    exact .inr ⟨field.2, shapes field there, rfl, rfl⟩

end Fields

theorem leafOf {tree : Tree} (leaf : tree.isLeaf = true) : ∃ s, tree = .leaf s := by
  cases tree with
  | leaf s => exact ⟨s, rfl⟩
  | node fields => cases leaf

theorem leafField {fields : List (String × Tree)} (leaves : ∀ field ∈ fields, field.2.isLeaf = true)
    (name : String) {v w : Value} (absent : w.folded = v.folded ∧ w.flag = v.flag) :
    ((Entries.field? (fieldUntyped fields) name).getD w).folded =
        ((Entries.field? (fieldValues fields) name).getD v).folded ∧
      ((Entries.field? (fieldUntyped fields) name).getD w).flag =
        ((Entries.field? (fieldValues fields) name).getD v).flag := by
  rcases fieldCases (fun _ => isLeaf) leaves name with ⟨typed, read⟩ | ⟨tree, leaf, typed, read⟩
  · rw [typed, read]
    exact absent
  · obtain ⟨s, rfl⟩ := leafOf leaf
    rw [typed, read, leafUntyped]
    exact ⟨s.shownFolded, s.shownFlag⟩

theorem columnShown {tree : Tree} (shape : tree.isColumn = true) (tag : String) :
    Column.ofValue (tree.untyped tag) = Column.ofValue tree.value := by
  cases partOf shape tag with
  | leaf s read =>
    have bare : Column.ofValue s.value = { tag := s.value.folded } := by cases s <;> rfl
    rw [read, value, bare, ← s.shownFolded]
    rfl
  | empty read =>
    rw [read, value, fieldValues]
    rfl
  | @node fields read leaves =>
    have type := (leafField leaves "type" (v := .null) ⟨rfl, rfl⟩).1
    have id := (leafField leaves "id" (v := .null) ⟨rfl, rfl⟩).2
    have auto := (leafField leaves "auto" (v := .null) ⟨rfl, rfl⟩).2
    have nullable := (leafField leaves "null" (leafField leaves "nullable" (v := .null) ⟨rfl, rfl⟩)).2
    rw [read, value]
    simp only [Column.ofValue, Value.opened, type, id, auto, nullable]

end Tree

def Value.entries (v : Value) : Entries :=
  match v.opened with
  | .map entries => entries
  | _ => []

structure Description.Alike (d d' : Description) : Prop where
  table : Text.trim d.table.plain = Text.trim d'.table.plain
  columns : ∃ entries entries', d.columns = .map entries ∧ d'.columns = .map entries' ∧
    Forall₂ (fun a b => a.1 = b.1 ∧ Column.ofValue a.2 = Column.ofValue b.2) entries entries'

namespace Description

theorem tablePlain (entries : Entries) : (Description.ofValue (.map entries)).table.plain =
    ((Entries.field? entries "table").getD .null).plain := by
  unfold Description.ofValue
  dsimp only [Value.opened]
  cases Entries.field? entries "table" with
  | none => rfl
  | some v => cases v <;> rfl

theorem columnsEntries (entries : Entries) : (Description.ofValue (.map entries)).columns =
    .map ((Entries.field? entries "columns").getD .null).entries := by
  unfold Description.ofValue
  dsimp only [Value.opened]
  cases Entries.field? entries "columns" with
  | none => rfl
  | some v =>
    unfold Value.entries
    rw [Option.map_some, Option.getD_some]
    cases v.opened <;> rfl

end Description

namespace Entity

theorem readColumnsAlike {entries entries' : Entries} (alike : Forall₂ (fun a b => a.1 = b.1 ∧
      Column.ofValue a.2 = Column.ofValue b.2) entries entries') (entity : String)
    (found : List (String × Column)) :
    readColumns entity found entries = readColumns entity found entries' := by
  induction alike generalizing found with
  | nil => rfl
  | @cons a b _ _ here _ ih =>
    obtain ⟨key, entry⟩ := a
    obtain ⟨key', entry'⟩ := b
    obtain ⟨rfl, same⟩ := here
    dsimp only at same
    simp only [readColumns, same, ih]

theorem normalizeAlike {d d' : Description} (alike : d.Alike d') (cwd : Location) (key : Value)
    (segments : List String) (outDir : Path) :
    normalize cwd key d segments outDir = normalize cwd key d' segments outDir := by
  obtain ⟨entries, entries', given, given', columns⟩ := alike.columns
  have table (name : String) : tableName d.table name = tableName d'.table name := by
    simp only [tableName, alike.table]
  have described : ofDescription key d segments (outDir.resolve cwd) =
      ofDescription key d' segments (outDir.resolve cwd) := by
    simp only [ofDescription, given, given', Value.opened, readColumnsAlike columns, table]
  simp only [normalize, described]

end Entity

namespace Tree

theorem fieldsShown (related : Value → Value → Prop) {fields : List (String × Tree)}
    (shown : ∀ field ∈ fields, related (field.2.untyped field.1) field.2.value) :
    Forall₂ (fun a b => a.1 = b.1 ∧ related a.2 b.2) (fieldUntyped fields)
      (fieldValues fields) := by
  rw [fieldValuesMap, fieldUntyped, List.forall₂_map_left_iff, List.forall₂_map_right_iff,
    List.forall₂_same]
  exact fun field there => ⟨rfl, shown field there⟩

theorem partEntries (each : String → Tree → Bool) {tree : Tree}
    (shape : (tree.isLeaf || tree.isMapping each) = true) (tag : String) :
    ∃ fields, (∀ field ∈ fields, each field.1 field.2 = true) ∧
      (tree.untyped tag).entries = fieldUntyped fields ∧
        tree.value.entries = fieldValues fields := by
  cases partOf shape tag with
  | leaf s read => exact ⟨[], nofun, by rw [read]; rfl, by cases s <;> rfl⟩
  | empty read => exact ⟨[], nofun, by rw [read]; rfl, rfl⟩
  | @node fields read shapes => exact ⟨fields, shapes, by rw [read]; rfl, rfl⟩

theorem columnsShown {tree : Tree} (shape : tree.isColumns = true) (tag : String) :
    Forall₂ (fun a b => a.1 = b.1 ∧ Column.ofValue a.2 = Column.ofValue b.2)
      (tree.untyped tag).entries tree.value.entries := by
  obtain ⟨fields, columns, first, second⟩ := partEntries _ shape tag
  rw [first, second]
  exact fieldsShown (fun v w => Column.ofValue v = Column.ofValue w)
    fun field there => columnShown (columns field there) field.1

theorem descriptionShown {tree : Tree} (shape : tree.isEntity = true) (tag : String) :
    (Description.ofValue (tree.untyped tag)).Alike (Description.ofValue tree.value) := by
  have none : ({} : Description).Alike {} := ⟨rfl, [], [], rfl, rfl, .nil⟩
  cases partOf shape tag with
  | leaf s read =>
    have bare : Description.ofValue s.value = {} := by cases s <;> rfl
    rw [read, value, bare]
    exact none
  | empty read =>
    rw [read]
    exact none
  | @node fields read shapes =>
    rw [read, value]
    refine ⟨?_, _, _, Description.columnsEntries _, Description.columnsEntries _, ?_⟩
    · rw [Description.tablePlain, Description.tablePlain]
      rcases fieldCases isEntityField shapes "table" with
        ⟨first, second⟩ | ⟨table, leaf, first, second⟩
      · rw [first, second]
      · obtain ⟨s, rfl⟩ := leafOf leaf
        rw [first, second, leafUntyped]
        exact s.shownPlain
    · rcases fieldCases isEntityField shapes "columns" with
        ⟨first, second⟩ | ⟨columns, shape, first, second⟩
      · rw [first, second]
        exact .nil
      · rw [first, second]
        exact columnsShown shape "columns"

theorem entitiesShown {tree : Tree} (shape : tree.isEntities = true) (tag : String) :
    Forall₂ (fun a b => a.1 = b.1 ∧ (Description.ofValue a.2).Alike (Description.ofValue b.2))
      (tree.untyped tag).entries tree.value.entries := by
  obtain ⟨fields, entities, first, second⟩ := partEntries _ shape tag
  rw [first, second]
  exact fieldsShown (fun v w => (Description.ofValue v).Alike (Description.ofValue w))
    fun field there => descriptionShown (entities field there) field.1

end Tree

theorem EntityFile.entitiesEntries (entries : Entries) :
    (EntityFile.ofValue (.map entries)).entities =
      ((Entries.field? entries "entities").getD .null).entries := by
  unfold EntityFile.ofValue
  dsimp only [Value.opened]
  cases Entries.field? entries "entities" with
  | none => rfl
  | some v =>
    unfold Value.entries
    rw [Option.map_some, Option.getD_some]
    cases v.opened <;> rfl

theorem namespaceShown (s : Scalar) :
    parseNamespace (.text (Text.trim s.shown)) = parseNamespace s.value := by
  have dot : Text.isBlank '.' = false := by decide
  have shown : (Value.text (Text.trim s.shown)).plain.toList = Text.strip s.value.plain.toList :=
    String.toList_ofList
  rw [parseNamespace, parseNamespace, shown, namespaceSegments, namespaceSegments,
    Text.splitStrip dot]

/- A document says the same in both encodings: its namespace, its entities in their order, and what
becomes of each of them, be it an entity or a failure. -/
theorem encodings {document : Tree} (shape : document.isDocument = true) (tag : String) :
    (EntityFile.ofValue (.map (document.untyped tag).entries)).segments =
        (EntityFile.ofValue document.value).segments ∧
      Forall₂ (fun a b => a.1 = b.1 ∧ ∀ cwd key segments outDir,
          Entity.normalize cwd key (.ofValue a.2) segments outDir =
            Entity.normalize cwd key (.ofValue b.2) segments outDir)
        (EntityFile.ofValue (.map (document.untyped tag).entries)).entities
        (EntityFile.ofValue document.value).entities := by
  cases document with
  | leaf s => cases shape
  | node fields =>
    obtain ⟨parts, shapes, first, second⟩ := Tree.partEntries Tree.isDocumentField
      (show (_ || (Tree.node fields).isDocument) = true from shape) tag
    have whole : (Tree.node fields).value = .map (Tree.fieldValues parts) := by
      rw [← second, Tree.value]
      rfl
    rw [first, whole, EntityFile.entitiesEntries, EntityFile.entitiesEntries]
    constructor
    · unfold EntityFile.ofValue
      dsimp only [Value.opened]
      rcases Tree.fieldCases Tree.isDocumentField shapes "namespace" with
        ⟨typed, read⟩ | ⟨space, leaf, typed, read⟩
      · rw [typed, read]
      · obtain ⟨s, rfl⟩ := Tree.leafOf leaf
        rw [typed, read, Tree.leafUntyped]
        exact namespaceShown s
    · rcases Tree.fieldCases Tree.isDocumentField shapes "entities" with
        ⟨typed, read⟩ | ⟨entities, shape, typed, read⟩
      · rw [typed, read]
        exact .nil
      · rw [typed, read]
        refine (Tree.entitiesShown shape "entities").imp fun a b same => ⟨same.1, ?_⟩
        exact fun cwd key segments outDir => Entity.normalizeAlike same.2 cwd key segments outDir

def exampleDocument : Tree :=
  .node [("namespace", .leaf (.text " App . Models ")),
    ("entities", .node
      [("User", .node
        [("table", .leaf (.int 7)),
          ("columns", .node
            [("id", .node [("type", .leaf (.text " Int ")), ("auto", .leaf (.bool true)),
                ("null", .leaf .null)]),
              ("size", .node [])])]),
        ("Event", .node []),
        ("Token", .leaf .null)])]

theorem exampleEncodings : exampleDocument.isDocument = true ∧
    (EntityFile.ofValue exampleDocument.value).segments = ["App", "Models"] ∧
    (EntityFile.ofValue exampleDocument.value).entities.map Prod.fst =
      [.text "User", .text "Event", .text "Token"] ∧
    (EntityFile.ofValue (.map (exampleDocument.untyped "entity_baker").entries)).segments =
        (EntityFile.ofValue exampleDocument.value).segments ∧
      Forall₂ (fun a b => a.1 = b.1 ∧ ∀ cwd key segments outDir,
          Entity.normalize cwd key (.ofValue a.2) segments outDir =
            Entity.normalize cwd key (.ofValue b.2) segments outDir)
        (EntityFile.ofValue (.map (exampleDocument.untyped "entity_baker").entries)).entities
        (EntityFile.ofValue exampleDocument.value).entities := by
  have shape : exampleDocument.isDocument = true := by decide +kernel
  refine ⟨shape, by decide +kernel, ?_, encodings shape "entity_baker"⟩
  rfl
end EntityForge
