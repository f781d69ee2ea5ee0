import EntityForge.Proofs.Listings
import EntityForge.Proofs.Namespaces

/-! The mapping of an entity. Its columns are sorted once more for it, with those of the key in front;
within the key and outside of it the order of the names stays. Each column has one entry there. -/
namespace EntityForge
open Template
open Text (Short Single)

section Partition
variable {α : Type} {le : α → α → Bool} {first : α → Bool} {xs : List α}

theorem sortedParts (front : ∀ a b, le a b = true → first b = true → first a = true)
    (sorted : xs.Pairwise fun a b => le a b = true) :
    xs = xs.filter first ++ xs.filter fun x => !first x := by
  induction xs with
  | nil => rfl
  | cons x rest ih =>
    obtain ⟨before, later⟩ := List.pairwise_cons.mp sorted
    have parts := ih later
    cases here : first x with
    | true => simpa [here] using parts
    | false =>
      have none : rest.filter first = [] := List.filter_eq_nil_iff.mpr fun y member goes =>
        absurd (front x y (before y member) goes) (by simp [here])
      rw [none, List.nil_append] at parts
      simpa [here, none] using parts

section Sorting
variable (trans : ∀ a b c, le a b = true → le b c = true → le a c = true)
  (total : ∀ a b, (le a b || le b a) = true)
include trans total

theorem sortKeeps {q : α → Bool} (kept : (xs.filter q).Pairwise fun a b => le a b = true) :
    (xs.mergeSort le).filter q = xs.filter q := by
  have inside : (xs.filter q).Sublist ((xs.mergeSort le).filter q) := by
    simpa using (List.sublist_mergeSort trans total kept List.filter_sublist).filter q
  exact (inside.eq_of_length ((List.mergeSort_perm xs le).filter q).length_eq.symm).symm

theorem sortParts (front : ∀ a b, le a b = true → first b = true → first a = true)
    (ahead : (xs.filter first).Pairwise fun a b => le a b = true)
    (behind : (xs.filter fun x => !first x).Pairwise fun a b => le a b = true) :
    xs.mergeSort le = xs.filter first ++ xs.filter fun x => !first x := by
  rw [sortedParts front (List.pairwise_mergeSort trans total xs), sortKeeps trans total ahead,
    sortKeeps trans total behind]

end Sorting

end Partition

theorem Text.Single.spelled {s : String} {cs : List Char} (same : s = String.ofList cs)
    (line : (cs.all (· != '\n') && stripEnd cs == cs && !cs.isEmpty) = true) : Single s := by
  simp only [Bool.and_eq_true, List.all_eq_true, beq_iff_eq, Bool.not_eq_true', List.isEmpty_eq_false_iff] at line
  obtain ⟨⟨free, solid⟩, some⟩ := line
  subst same
  exact ⟨by rw [Short, String.toList_ofList]; exact fun newline => by simpa using free _ newline,
    by rwa [String.toList_ofList], by rwa [String.toList_ofList]⟩

namespace Format
variable {lines : List (List Char)}

theorem normalSolid (solid : ∀ line ∈ lines, Text.stripEnd line = line ∧ line ≠ []) (blanks : Nat) :
    Normal blanks lines := by
  induction lines generalizing blanks with
  | nil => exact .nil
  | cons line rest ih =>
    obtain ⟨here, later⟩ := List.forall_mem_cons.mp solid
    exact .visible here.1 here.2 (ih later 0)

theorem trimSolid (solid : ∀ line ∈ lines, Text.stripEnd line = line ∧ line ≠ []) :
    trimEnd lines = lines := by
  induction lines with
  | nil => rfl
  | cons line rest ih =>
    obtain ⟨here, later⟩ := List.forall_mem_cons.mp solid
    cases rest with
    | nil => rw [trimConsBlank rfl, here.1, if_neg here.2]
    | cons next others =>
      have kept : trimEnd (next :: others) ≠ [] := by
        rw [ih later]
        exact List.cons_ne_nil _ _
      rw [trimConsVisible kept, ih later]

theorem formatSingles {texts : List String} (some : texts ≠ []) (single : ∀ s ∈ texts, Single s) :
    format ['\n'] (textOf texts).toList = (textOf texts).toList := by
  have lines : linesOf texts = texts.map String.toList := linesShort fun s member => (single s member).short
  have solid : ∀ line ∈ linesOf texts, Text.stripEnd line = line ∧ line ≠ [] := by
    rw [lines, List.forall_mem_map]
    exact fun s member => ⟨(single s member).solid, (single s member).some⟩
  have filled : trimEnd (linesOf texts) ≠ [] := by
    rw [trimSolid solid, lines]
    exact mt List.map_eq_nil_iff.mp some
  rw [formatUnlines filled, trimSolid solid, (normalSolid solid 0).squeezed, lines]
  simp [Text.unlines, textOf, String.toList_join, List.flatMap_map]

end Format

namespace Emit.Doctrine

section Order
variable {a b c : String × Column × String}

theorem mappingBeforeIff : mappingBefore a b = true ↔
    a.2.1.id = true ∧ b.2.1.id = false ∨ a.2.1.id = b.2.1.id ∧ Entity.nameBefore a.1 b.1 = true := by
  unfold mappingBefore
  split
  next same => simp [same]
  next apart => cases here : a.2.1.id <;> cases there : b.2.1.id <;> simp_all

theorem mappingBeforeTrans (first : mappingBefore a b = true) (next : mappingBefore b c = true) :
    mappingBefore a c = true := by
  rw [mappingBeforeIff] at first next ⊢
  rcases first with ⟨key, other⟩ | ⟨same, before⟩ <;> rcases next with ⟨key', other'⟩ | ⟨same', before'⟩
  · exact absurd (key'.symm.trans other) (by decide)
  · exact .inl ⟨key, same'.symm.trans other⟩
  · exact .inl ⟨same.trans key', other'⟩
  · exact .inr ⟨same.trans same',
      Entity.nameBeforeTrans (a.1, a.2.1) (b.1, b.2.1) (c.1, c.2.1) before before'⟩

theorem mappingBeforeTotal : (mappingBefore a b || mappingBefore b a) = true := by
  have names := Entity.nameBeforeTotal (a.1, a.2.1) (b.1, b.2.1)
  rw [Bool.or_eq_true] at names ⊢
  rw [mappingBeforeIff, mappingBeforeIff]
  cases here : a.2.1.id <;> cases there : b.2.1.id <;> simp [names]

theorem mappingSorted {columns : List (String × Column × String)}
    (order : columns.Pairwise fun a b => Entity.nameBefore a.1 b.1 = true) :
    columns.mergeSort mappingBefore =
      (columns.filter fun column => column.2.1.id) ++ columns.filter fun column => !column.2.1.id := by
  have among {q : String × Column × String → Bool} {key : Bool}
      (same : ∀ column, q column = true → column.2.1.id = key) :
      (columns.filter q).Pairwise fun a b => mappingBefore a b = true := by
    refine (order.filter q).imp_of_mem fun {a b} here there before => mappingBeforeIff.mpr (.inr ⟨?_, before⟩)
    rw [same a (List.mem_filter.mp here).2, same b (List.mem_filter.mp there).2]
  refine sortParts (fun _ _ _ => mappingBeforeTrans) (fun _ _ => mappingBeforeTotal)
    (fun a b before key => ?_) (among fun _ => id)
    (among fun _ => (Bool.not_eq_true' _).mp)
  rcases mappingBeforeIff.mp before with ⟨key, _⟩ | ⟨same, _⟩
  · exact key
  · exact same.trans key

end Order

inductive MappingEntry where
  | id (name type : String) (generated : Bool)
  | field (name type : String) (nullable : Bool)
  deriving DecidableEq

namespace MappingEntry

def name : MappingEntry → String
  | id name _ _ => name
  | field name _ _ => name

def lines : MappingEntry → List String
  | id name type generated =>
    if generated then ["        <id name=\"" ++ name ++ ("\" type=\"" ++ type ++ "\">"),
      "            <generator strategy=\"AUTO\" />", "        </id>"]
    else ["        <id name=\"" ++ name ++ ("\" type=\"" ++ type ++ "\" />")]
  | field name type nullable => ["        <field name=\"" ++ name ++ ("\" type=\"" ++ type ++ "\"") ++
      ((if nullable then " nullable=\"true\"" else "") ++ " />")]

def of (column : String × Column × String) : MappingEntry :=
  if column.2.1.id then .id column.1 column.2.2 column.2.1.auto
  else .field column.1 column.2.2 column.2.1.nullable

end MappingEntry

def mappingOpening (e : Entity) (options : Options) : List String := [
  "<?xml version=\"1.0\" encoding=\"UTF-8\"?>",
  "<doctrine-mapping xmlns=\"" ++ mappingNamespace ++ "\"",
  "                  xmlns:xsi=\"http://www.w3.org/2001/XMLSchema-instance\"",
  "                  xsi:schemaLocation=\"" ++ mappingNamespace ++
    (" " ++ (mappingNamespace ++ ".xsd") ++ "\">")] ++
  (if options.header then ["    <!-- AUTO GENERATED FILE -->"] else []) ++
  ["    <entity name=\"" ++ Text.escaped (e.qualifiedName "\\") ++
    ("\" table=\"" ++ Text.escaped e.table ++ "\">")]

def mappingClosing : List String := ["    </entity>", "</doctrine-mapping>"]

section Filling
variable {σ : Scope}

theorem fillChoose {condition : Source} {value : Value} (read : condition.read σ = .ok value)
    (yes no : List Block) : (Block.choose condition yes no).fill σ =
      if value.truthy then fillAll σ yes else fillAll σ no := by
  rw [Block.fill, read]
  rfl

theorem fillEach {α : Type} {item : String} {source : Source} {body : List Block} {rows : List α}
    {view : α → Value} (said : α → List String) (read : source.read σ = .ok (.list (rows.map view)))
    (every : ∀ x ∈ rows, fillAll ((item, view x) :: σ) body = .ok (said x)) :
    (Block.each item source body).fill σ = .ok (rows.flatMap said) := by
  have rounds : forEach (fun inner => fillAll inner body) item σ (rows.map view) =
      .ok (rows.flatMap said) := by
    clear read
    induction rows with
    | nil => rfl
    | cons x rest ih =>
      obtain ⟨here, later⟩ := List.forall_mem_cons.mp every
      rw [List.map_cons, forEach, here, ih later]
      rfl
  rw [Block.fill, read]
  exact rounds

theorem fillLineCons {piece : Piece} {rest : List Piece} {s t : String} (here : piece.fill σ = .ok s)
    (later : fillLine σ rest = .ok t) : fillLine σ (piece :: rest) = .ok (s ++ t) := by
  rw [fillLine, here, later]
  rfl

theorem fieldFill (name tag type : String) (key auto nullable : Bool) :
    fillLine (("column", columnView name ⟨tag, key, auto, nullable⟩ type) :: σ) [
      .text "        <field name=\"", .hole (.field "column" "name") .plain, .text "\" type=\"",
      .hole (.field "column" "doctrine_type") .plain, .text "\"",
      .when (.field "column" "nullable") " nullable=\"true\"", .text " />"] =
        .ok ("        <field name=\"" ++ name ++ ("\" type=\"" ++ type ++ "\"") ++
          ((if nullable then " nullable=\"true\"" else "") ++ " />")) := by
  refine (fillLineCons rfl <| fillLineCons rfl <| fillLineCons rfl <| fillLineCons rfl <|
    fillLineCons rfl <| fillLineCons rfl <| fillLineCons rfl rfl).trans ?_
  simp only [String.append_assoc, String.append_empty]
  rfl

variable {e : Entity} {options : Options} {columns : List (String × Column × String)}

theorem mappingFill : fillAll (scope e options columns) xmlMapping =
    .ok (mappingOpening e options ++
      ((columns.mergeSort mappingBefore).map MappingEntry.of).flatMap MappingEntry.lines ++
        mappingClosing) := by
  have header : (Block.when (.name "add_header") [.lines ["    <!-- AUTO GENERATED FILE -->"]]).fill
      (scope e options columns) =
        .ok (if options.header then ["    <!-- AUTO GENERATED FILE -->"] else []) := by
    refine (fillWhen rfl _).trans ?_
    cases options.header <;> rfl
  refine (fillCons (fillLines _) <| fillCons (fillLineBlock (fillBetween _ .plain _ _ rfl rfl)) <|
    fillCons (fillLines _) <| fillCons (fillLineBlock (fillTwice rfl rfl rfl rfl)) <|
    fillCons header <| fillCons (fillLineBlock (fillTwice rfl rfl rfl rfl)) <|
    fillCons (fillEach (fun column => (MappingEntry.of column).lines) rfl fun column _ => ?_) <|
    fillCons (fillLines _) rfl).trans ?_
  · obtain ⟨name, ⟨tag, key, auto, nullable⟩, native⟩ := column
    refine fillOne ((fillChoose rfl _ _).trans ?_)
    cases key with
    | true =>
      refine fillOne ((fillChoose rfl _ _).trans ?_)
      cases auto with
      | true => exact fillCons (fillLineBlock (fillTwice rfl rfl rfl rfl)) (fillOne (fillLines _))
      | false => exact fillOne (fillLineBlock (fillTwice rfl rfl rfl rfl))
    | false => exact fillOne (fillLineBlock (fieldFill ..))
  · rw [List.flatMap_map]
    simp only [mappingOpening, mappingClosing, List.cons_append, List.nil_append, List.append_assoc,
      List.append_nil]
    rfl

end Filling

section Mapping
variable {e : Entity} {options : Options}

theorem openingSingle (lined : e.Lined) : ∀ s ∈ mappingOpening e options, Single s := by
  have space : Short mappingNamespace := by decide +kernel
  have first : Single "<?xml version=\"1.0\" encoding=\"UTF-8\"?>" :=
    .spelled rfl (by decide +kernel)
  have instances : Single "                  xmlns:xsi=\"http://www.w3.org/2001/XMLSchema-instance\"" :=
    .spelled rfl (by decide +kernel)
  have banner : Single "    <!-- AUTO GENERATED FILE -->" :=
    .spelled rfl (by decide +kernel)
  have quote : Single "\"" := .spelled rfl (by decide +kernel)
  have bracket : Single "\">" := .spelled rfl (by decide +kernel)
  have schema : Short (" " ++ (mappingNamespace ++ ".xsd")) :=
    Text.shortAppend (by decide) (Text.shortAppend space (by decide))
  have header : ∀ s ∈ (if options.header then ["    <!-- AUTO GENERATED FILE -->"] else []), Single s := by
    split
    · exact List.forall_mem_singleton.mpr banner
    · exact List.forall_mem_nil _
  have name : Short ("    <entity name=\"" ++ Text.escaped (e.qualifiedName "\\")) :=
    Text.shortAppend (by decide +kernel) (Text.escapedShort (lined.qualified (by decide)))
  have table : Short ("\" table=\"" ++ Text.escaped e.table) :=
    Text.shortAppend (by decide) (Text.escapedShort lined.table)
  refine List.forall_mem_append.mpr ⟨List.forall_mem_append.mpr ⟨?_, header⟩,
    List.forall_mem_singleton.mpr ((bracket.behind table).behind name)⟩
  simp only [List.forall_mem_cons]
  exact ⟨first, quote.behind (Text.shortAppend (by decide +kernel) space), instances,
    (bracket.behind schema).behind (Text.shortAppend (by decide +kernel) space), List.forall_mem_nil _⟩

theorem entrySingle {column : String × Column × String}
    (plain : Name.wellFormed column.1.toList = true ∧ Short column.2.2) :
    ∀ s ∈ (MappingEntry.of column).lines, Single s := by
  obtain ⟨words, native⟩ := plain
  have name : Short column.1 := Name.wordFree words (by decide)
  have named {front closing : String} (short : Short front) (single : Single closing) :
      Single (front ++ column.1 ++ ("\" type=\"" ++ column.2.2 ++ closing)) :=
    (single.behind (Text.shortAppend (by decide) native)).behind (Text.shortAppend short name)
  have key : Short "        <id name=\"" := by decide
  have generator : Single "            <generator strategy=\"AUTO\" />" :=
    .spelled rfl (by decide +kernel)
  have done : Single "        </id>" := .spelled rfl (by decide +kernel)
  have last : Single " />" := .spelled rfl (by decide +kernel)
  have nullable (c : Column) : Single ((if c.nullable then " nullable=\"true\"" else "") ++ " />") :=
    last.behind (by split <;> decide)
  have quoted : Short ("\" type=\"" ++ column.2.2 ++ "\"") :=
    Text.shortAppend (Text.shortAppend (by decide) native) (by decide)
  unfold MappingEntry.of
  split
  · rw [MappingEntry.lines]
    split
    next => simpa using ⟨named key (.spelled rfl (by decide +kernel)), generator, done⟩
    next => exact List.forall_mem_singleton.mpr (named key (.spelled rfl (by decide +kernel)))
  · have front : Short ("        <field name=\"" ++ column.1) := Text.shortAppend (by decide) name
    exact List.forall_mem_singleton.mpr ((nullable _).behind (Text.shortAppend front quoted))

theorem mappingWritten (lined : e.Lined) {columns : List (String × Column × String)}
    (plain : ∀ column ∈ columns, Name.wellFormed column.1.toList = true ∧ Short column.2.2)
    (feed : options.lineEnding = .text "\n") {content : String} (rendered : renderFormatted
      "mapping.dcm.xml.j2" Template.xmlMapping (scope e options columns) options = .ok content) :
    content = textOf (mappingOpening e options ++
      ((columns.mergeSort mappingBefore).map MappingEntry.of).flatMap MappingEntry.lines ++
        mappingClosing) := by
  have entries : ∀ s ∈ ((columns.mergeSort mappingBefore).map MappingEntry.of).flatMap
      MappingEntry.lines, Single s := by
    intro s member
    obtain ⟨_, listed, here⟩ := List.mem_flatMap.mp member
    obtain ⟨column, there, rfl⟩ := List.mem_map.mp listed
    exact entrySingle (plain column (List.mem_mergeSort.mp there)) s here
  have closing : ∀ s ∈ mappingClosing, Single s := List.forall_mem_cons.mpr
    ⟨.spelled rfl (by decide +kernel), List.forall_mem_singleton.mpr (.spelled rfl (by decide +kernel))⟩
  have opening : ∀ s ∈ mappingOpening e options, Single s := openingSingle lined
  have single := List.forall_mem_append.mpr ⟨List.forall_mem_append.mpr ⟨opening, entries⟩, closing⟩
  have some : mappingClosing ≠ [] := List.cons_ne_nil _ _
  have ending : "\n".toList = ['\n'] := rfl
  rw [formattedRender (renderFilled mappingFill), formatted, feed] at rendered
  refine (Except.ok.inj rendered).symm.trans ?_
  rw [ending, Format.formatSingles (List.append_ne_nil_of_right_ne_nil _ some) single, String.ofList_toList]

def mappingEntries (columns : List (String × Column × String)) : List MappingEntry :=
  ((columns.filter fun column => column.2.1.id).map fun column =>
      .id column.1 column.2.2 column.2.1.auto) ++
    (columns.filter fun column => !column.2.1.id).map fun column =>
      .field column.1 column.2.2 column.2.1.nullable

theorem entriesSorted {columns : List (String × Column × String)}
    (order : columns.Pairwise fun a b => Entity.nameBefore a.1 b.1 = true) :
    (columns.mergeSort mappingBefore).map MappingEntry.of = mappingEntries columns := by
  rw [mappingSorted order, List.map_append, mappingEntries]
  congr 1
  · refine List.map_congr_left fun column member => ?_
    rw [MappingEntry.of, if_pos (List.mem_filter.mp member).2]
  · refine List.map_congr_left fun column member => ?_
    rw [MappingEntry.of, if_neg (by simpa using (List.mem_filter.mp member).2)]

theorem entriesNamed (columns : List (String × Column × String)) :
    ((mappingEntries columns).map MappingEntry.name).Perm (columns.map Prod.fst) := by
  have parts := (List.filter_append_perm (fun column => column.2.1.id) columns).map Prod.fst
  simpa [mappingEntries, Function.comp_def, MappingEntry.name] using parts

end Mapping

end Emit.Doctrine

open Emit.Doctrine

/- The mapping is there, unless its directory stands in the way. Between the lines that open and close it,
it has one entry for each column: those of the key in the order of the names, then the others in that
order. -/
theorem mappingOrder {cwd : Location} {key : Value} {description : Description}
    {segments : List String} {outDir : Path} {e : Entity} {options : Options}
    (checked : Entity.normalize cwd key description segments outDir = .ok e)
    (accepted : ∀ column ∈ e.columns, Target.doctrine.types.accepts column.2 = true)
    (table : Short e.table) (spaces : ∀ segment ∈ segments, Short segment)
    (feed : options.lineEnding = .text "\n") :
    ((∃ files, Target.doctrine.emit e options = .ok files) ↔ Target.doctrine.Takes options) ∧
      ∀ files, Target.doctrine.emit e options = .ok files → ∃ columns main extension mapping,
        columns.map (fun column => (column.1, column.2.1)) = e.sorted ∧
        (∀ column ∈ columns, Target.doctrine.types.mapColumn column.2.1 = .ok column.2.2) ∧
        columns.mergeSort mappingBefore = (columns.filter fun column => column.2.1.id) ++
          (columns.filter fun column => !column.2.1.id) ∧
        files = [main, extension, mapping] ∧ mapping.kind = "mapping" ∧
        mapping.content = textOf (mappingOpening e options ++
          (mappingEntries columns).flatMap MappingEntry.lines ++ mappingClosing) ∧
        ((mappingEntries columns).map MappingEntry.name).Perm (e.columns.map Prod.fst) ∧
        ((mappingEntries columns).map MappingEntry.name).Nodup := by
  have lined := Entity.normalizeLined checked table spaces
  refine ⟨Target.doctrine.emitTaken accepted feed, fun files emitted => ?_⟩
  obtain ⟨columns, main, extension, dir, mapping, done, _, _, _, rendered, rfl⟩ := artifactsOk.mp emitted
  obtain ⟨entries, natives⟩ := TypeTable.typedEntries (TypeTable.typedIff.mp done)
  have order : columns.Pairwise fun a b => Entity.nameBefore a.1 b.1 = true := by
    have sorted := e.sortedPairwise
    rwa [← entries, List.pairwise_map] at sorted
  have names : ((mappingEntries columns).map MappingEntry.name).Perm (e.columns.map Prod.fst) := by
    have sorted := (e.sortedPerm).map Prod.fst
    rw [← entries, List.map_map] at sorted
    exact (entriesNamed columns).trans sorted
  refine ⟨columns, _, _, _, entries, natives, mappingSorted order, rfl, rfl, ?_, names,
    names.nodup_iff.mpr (Entity.normalizeApart checked)⟩
  rw [mappingWritten lined (lined.typed (t := .doctrine) done) feed rendered, entriesSorted order]

def stockEntity : Entity where
  name := "Stock"
  segments := []
  table := "Stock"
  columns := [("code", { tag := "" }), ("Code", { tag := "int", nullable := true }),
    ("id", { tag := "", id := true, auto := true }), ("Id", { tag := "", id := true })]
  outDir := ⟨.root, ["w", "out"]⟩

def stockDescription : Description := .ofValue (.map [(.text "columns", .map [
  (.text "code", .null), (.text "Code", .map [(.text "type", .text "int"), (.text "null", .bool true)]),
  (.text "id", .map [(.text "id", .bool true), (.text "auto", .bool true)]),
  (.text "Id", .map [(.text "id", .bool true)])])])

theorem stockMapping :
    Entity.normalize [] (.text "Stock") stockDescription [] (.ofText "/w/out") = .ok stockEntity ∧
      (∀ column ∈ stockEntity.columns, Target.doctrine.types.accepts column.2 = true) ∧
      Short stockEntity.table ∧ (∀ segment ∈ ([] : List String), Short segment) ∧
      ∃ main extension mapping, Target.doctrine.emit stockEntity {} = .ok [main, extension, mapping] ∧
        mapping.content = textOf (mappingOpening stockEntity {} ++ [
          "        <id name=\"id\" type=\"integer\">",
          "            <generator strategy=\"AUTO\" />",
          "        </id>",
          "        <id name=\"Id\" type=\"integer\" />",
          "        <field name=\"code\" type=\"string\" />",
          "        <field name=\"Code\" type=\"integer\" nullable=\"true\" />"] ++ mappingClosing) := by
  have normal : Entity.normalize [] (.text "Stock") stockDescription [] (.ofText "/w/out") =
      .ok stockEntity := rfl
  have accepted : ∀ column ∈ stockEntity.columns,
      Target.doctrine.types.accepts column.2 = true := by decide
  have table : Short stockEntity.table := by decide
  have feed : ({} : Options).lineEnding = .text "\n" := rfl
  have takes : Target.doctrine.Takes {} := fun _ given => absurd given Bool.false_ne_true
  obtain ⟨there, inOrder⟩ := mappingOrder normal accepted table (List.forall_mem_nil _) feed
  obtain ⟨files, emitted⟩ := there.mpr takes
  obtain ⟨columns, main, extension, mapping, entries, natives, _, rfl, _, content, _⟩ :=
    inOrder files emitted
  have sorted : stockEntity.sorted = stockEntity.columns := List.mergeSort_of_pairwise (by decide)
  have typed : columns = [("code", { tag := "" }, "string"),
      ("Code", { tag := "int", nullable := true }, "integer"),
      ("id", { tag := "", id := true, auto := true }, "integer"), ("Id", { tag := "", id := true }, "integer")] := by
    have apart : Function.Injective fun column : String × Column × String =>
        (column.1, column.2.1, (Except.ok column.2.2 : Except Failure String)) :=
      fun a b same => by simpa [Prod.ext_iff] using same
    refine List.map_injective_iff.mpr apart ?_
    have named := congrArg (List.map fun column =>
      (column.1, column.2, Target.doctrine.types.mapColumn column.2)) (entries.trans sorted)
    rw [List.map_map] at named
    refine (List.map_congr_left fun column member => ?_).trans named
    rw [Function.comp_apply, natives column member]
  refine ⟨normal, accepted, table, List.forall_mem_nil _, main, extension, mapping, emitted, ?_⟩
  rw [content, typed]
  rfl

end EntityForge
