import EntityForge.Proofs.Columns

/-! Checking an entity. It is accepted exactly if its key and all keys of its columns are names and the
names of its columns are distinct; else the first thing that stands in the way is the failure. What an
accepted entity holds is read off its description, and its columns are visited in the order of their
lower-cased names, equal ones as they come. -/
namespace EntityForge.Entity

def nameIn (key : Value) : String := Text.trim key.plain

def Named (key : Value) : Prop := Name.wellFormed (nameIn key).toList = true

instance (key : Value) : Decidable (Named key) :=
  inferInstanceAs (Decidable (Name.wellFormed (nameIn key).toList = true))

def entriesIn (raw : Value) : Entries :=
  match raw.opened with
  | .map entries =>
    match (Entries.field? entries "columns").map Value.opened with
    | some (.map columns) => columns
    | _ => []
  | _ => []

def tableIn (raw : Value) : String :=
  match raw.opened with
  | .map entries => Text.trim ((Entries.field? entries "table").getD .null).plain
  | _ => ""

def namesIn (entries : Entries) : List String := entries.map fun entry => nameIn entry.1

structure Fine (entries : Entries) : Prop where
  named : ∀ entry ∈ entries, Named entry.1
  apart : (namesIn entries).Nodup

instance (entries : Entries) : Decidable (Fine entries) :=
  decidable_of_iff ((∀ entry ∈ entries, Named entry.1) ∧ (namesIn entries).Nodup)
    ⟨fun fine => ⟨fine.1, fine.2⟩, fun fine => ⟨fine.named, fine.apart⟩⟩

/- What stands in the way of an entity, with nothing in the way before it. -/
inductive Fault (key : Value) (entries : Entries) (outDir : Path) : Failure → Prop where
  | key (bad : ¬ Named key) : Fault key entries outDir (.invalidName key.plain "class")
  | column {front back : Entries} {label entry : Value} (named : Named key)
      (split : entries = front ++ (label, entry) :: back) (fine : Fine front)
      (bad : ¬ Named label) : Fault key entries outDir (.invalidName label.plain "column")
  | repeated {front back : Entries} {label entry : Value} (named : Named key)
      (split : entries = front ++ (label, entry) :: back) (fine : Fine front) (good : Named label)
      (again : nameIn label ∈ namesIn front) :
      Fault key entries outDir (.duplicateColumn (nameIn label) (nameIn key))
  | place (named : Named key) (fine : Fine entries) (nul : outDir.hasNul = true) :
      Fault key entries outDir nulFault

structure Reflects (e : Entity) (key raw : Value) (segments : List String) (outDir : Path) : Prop where
  name : e.name = nameIn key
  segments : e.segments = segments
  outDir : e.outDir = outDir
  table : e.table = if tableIn raw = "" then nameIn key else tableIn raw
  keys : e.columns.map Prod.fst = namesIn (entriesIn raw)
  column : ∀ entry ∈ entriesIn raw, e.columns.lookup (nameIn entry.1) = some (Column.ofValue entry.2)
  visited : e.columnNames.Perm (namesIn (entriesIn raw))
  order : e.columnNames.Pairwise fun a b => Text.lowercase a ≤ Text.lowercase b
  ties : ∀ a b, [a, b].Sublist (namesIn (entriesIn raw)) → Text.lowercase a = Text.lowercase b →
    [a, b].Sublist e.columnNames
  methods : e.methods.map Prod.fst = e.columnNames
  method : ∀ name ∈ e.columnNames, e.methods.lookup name = some (Name.accessorOf name)

theorem readNamed {key : Value} (named : Named key) : Name.read? key = some (nameIn key) := by
  have words : Name.wellFormed (Text.strip key.plain.toList) = true := by
    simpa [Named, nameIn, Text.trim] using named
  exact if_pos words

theorem readUnnamed {key : Value} (bad : ¬ Named key) : Name.read? key = none := by
  have words : ¬ Name.wellFormed (Text.strip key.plain.toList) = true := by
    simpa [Named, nameIn, Text.trim] using bad
  exact if_neg words

theorem columnNamed {entry : Value × Value} (named : Named entry.1) :
    columnOf entry = (nameIn entry.1, Column.ofValue entry.2) := by
  simp [columnOf, readNamed named]

theorem columnsNamed {entries : Entries} (named : ∀ entry ∈ entries, Named entry.1) :
    (entries.map columnOf).map Prod.fst = namesIn entries := by
  rw [List.map_map]
  exact List.map_congr_left fun entry member => congrArg Prod.fst (columnNamed (named entry member))

theorem describedColumns (raw : Value) : (Description.ofValue raw).columns = .map (entriesIn raw) := by
  unfold Description.ofValue entriesIn
  cases raw.opened with
  | map entries =>
    dsimp only
    cases (Entries.field? entries "columns").map Value.opened with
    | none => rfl
    | some columns => cases columns <;> rfl
  | _ => rfl

theorem describedTable (raw : Value) (name : String) :
    tableName (Description.ofValue raw).table name = if tableIn raw = "" then name else tableIn raw := by
  unfold tableIn
  cases shape : raw.opened with
  | map entries =>
    have plain : (Description.ofValue raw).table.plain =
        ((Entries.field? entries "table").getD .null).plain := by
      unfold Description.ofValue
      rw [shape]
      dsimp only
      generalize Entries.field? entries "table" = table
      cases table with
      | none => rfl
      | some table => cases table <;> rfl
    rw [tableName, plain]
  | _ =>
    unfold Description.ofValue
    rw [shape]
    rfl

section Reading
variable {entries front back : Entries} {label entry : Value} {entity : String}

theorem fineSnoc : Fine (front ++ [(label, entry)]) ↔
    Fine front ∧ Named label ∧ nameIn label ∉ namesIn front := by
  have names : namesIn (front ++ [(label, entry)]) = namesIn front ++ [nameIn label] := by
    simp [namesIn]
  constructor
  · rintro ⟨named, apart⟩
    rw [names] at apart
    obtain ⟨apart, _, new⟩ := List.nodup_append.mp apart
    refine ⟨⟨fun entry member => named entry (List.mem_append_left _ member), apart⟩,
      named (label, entry) (by simp), fun again => ?_⟩
    exact new _ again _ (List.mem_singleton.mpr rfl) rfl
  · rintro ⟨⟨named, apart⟩, good, new⟩
    refine ⟨?_, ?_⟩
    · rw [List.forall_mem_append]
      exact ⟨named, by simpa using good⟩
    · rw [names]
      exact List.Nodup.append apart (by simp) (by simpa using new)

theorem knownIff {columns : List (String × Column)} {name : String} :
    (columns.lookup name).isSome = true ↔ name ∈ columns.map Prod.fst := by
  simp [List.lookup_isSome_iff]

theorem fineOrNot (entries : Entries) : Fine entries ∨
    ∃ front label entry back, entries = front ++ (label, entry) :: back ∧ Fine front ∧
      (¬ Named label ∨ Named label ∧ nameIn label ∈ namesIn front) := by
  induction entries using List.reverseRecOn with
  | nil => exact .inl ⟨by simp, List.nodup_nil⟩
  | append_singleton front last ih =>
    obtain ⟨label, entry⟩ := last
    rcases ih with fine | ⟨before, other, raw, back, rfl, fine, fault⟩
    · by_cases good : Named label
      · by_cases again : nameIn label ∈ namesIn front
        · exact .inr ⟨front, label, entry, [], rfl, fine, .inr ⟨good, again⟩⟩
        · exact .inl (fineSnoc.mpr ⟨fine, good, again⟩)
      · exact .inr ⟨front, label, entry, [], rfl, fine, .inl good⟩
    · exact .inr ⟨before, other, raw, back ++ [(label, entry)], by simp, fine, fault⟩

theorem readFront (entity : String) (fine : Fine front) (rest : Entries) :
    readColumns entity [] (front ++ rest) = readColumns entity (front.map columnOf) rest := by
  induction front using List.reverseRecOn generalizing rest with
  | nil => rfl
  | append_singleton before last ih =>
    obtain ⟨label, entry⟩ := last
    obtain ⟨fine, good, new⟩ := fineSnoc.mp fine
    have unknown : ¬ ((before.map columnOf).lookup (nameIn label)).isSome = true := by
      rwa [knownIff, columnsNamed fine.named]
    have column : columnOf (label, entry) = (nameIn label, Column.ofValue entry) := columnNamed good
    rw [List.append_assoc, ih fine, List.singleton_append, readColumns, readName, readNamed good,
      List.map_append, List.map_singleton, column]
    exact if_neg unknown

theorem readBad (fine : Fine front) (bad : ¬ Named label) :
    readColumns entity [] (front ++ (label, entry) :: back) =
      .error (.invalidName label.plain "column") := by
  rw [readFront entity fine, readColumns, readName, readUnnamed bad]

theorem readAgain (fine : Fine front) (good : Named label) (again : nameIn label ∈ namesIn front) :
    readColumns entity [] (front ++ (label, entry) :: back) =
      .error (.duplicateColumn (nameIn label) entity) := by
  have known : ((front.map columnOf).lookup (nameIn label)).isSome = true := by
    rwa [knownIff, columnsNamed fine.named]
  rw [readFront entity fine, readColumns, readName, readNamed good]
  exact if_pos known

theorem readFine (fine : Fine entries) :
    readColumns entity [] entries = .ok (entries.map columnOf) := by
  have read := readFront entity fine []
  rwa [List.append_nil] at read

end Reading

section Checking
variable {cwd : Location} {key raw : Value} {segments : List String} {outDir : Path}

theorem normalizeUnnamed (bad : ¬ Named key) :
    normalize cwd key (.ofValue raw) segments outDir = .error (.invalidName key.plain "class") := by
  simp only [normalize, ofDescription, readName, readUnnamed bad, bind, Except.bind]

theorem normalizeNamed (named : Named key) :
    normalize cwd key (.ofValue raw) segments outDir =
      match readColumns (nameIn key) [] (entriesIn raw) with
      | .error failure => .error failure
      | .ok columns =>
        if outDir.hasNul then .error nulFault
        else .ok ⟨nameIn key, segments, if tableIn raw = "" then nameIn key else tableIn raw, columns,
          outDir.resolve cwd⟩ := by
  simp only [normalize, ofDescription, readName, readNamed named, describedColumns, describedTable,
    Value.opened, bind, Except.bind]
  cases readColumns (nameIn key) [] (entriesIn raw) <;> rfl

theorem faultFound {failure : Failure} (fault : Fault key (entriesIn raw) outDir failure) :
    normalize cwd key (.ofValue raw) segments outDir = .error failure := by
  cases fault with
  | key bad => exact normalizeUnnamed bad
  | column named split fine bad => rw [normalizeNamed named, split, readBad fine bad]
  | repeated named split fine good again => rw [normalizeNamed named, split, readAgain fine good again]
  | place named fine nul =>
    rw [normalizeNamed named, readFine fine]
    exact if_pos nul

theorem acceptedOrFault (key raw : Value) (outDir : Path) :
    (Named key ∧ Fine (entriesIn raw) ∧ outDir.hasNul = false) ∨
      ∃ failure, Fault key (entriesIn raw) outDir failure := by
  by_cases named : Named key
  · rcases fineOrNot (entriesIn raw) with fine | ⟨front, label, entry, back, split, fine, fault⟩
    · cases nul : outDir.hasNul with
      | true => exact .inr ⟨_, .place named fine nul⟩
      | false => exact .inl ⟨named, fine, rfl⟩
    · rcases fault with bad | ⟨good, again⟩
      · exact .inr ⟨_, .column named split fine bad⟩
      · exact .inr ⟨_, .repeated named split fine good again⟩
  · exact .inr ⟨_, .key named⟩

def accepted (cwd : Location) (key raw : Value) (segments : List String) (outDir : Path) : Entity :=
  ⟨nameIn key, segments, if tableIn raw = "" then nameIn key else tableIn raw,
    (entriesIn raw).map columnOf, outDir.resolve cwd⟩

theorem normalizeFine (named : Named key) (fine : Fine (entriesIn raw)) (clean : outDir.hasNul = false) :
    normalize cwd key (.ofValue raw) segments outDir = .ok (accepted cwd key raw segments outDir) := by
  rw [normalizeNamed named, readFine fine]
  exact if_neg (by simp [clean])

theorem lookupOwn {α : Type} (f : String → α) {names : List String} {name : String}
    (member : name ∈ names) : (names.map fun name => (name, f name)).lookup name = some (f name) := by
  induction names with
  | nil => cases member
  | cons first rest ih =>
    rw [List.map_cons, List.lookup_cons]
    by_cases same : name = first
    · simp [same]
    · have other : (name == first) = false := by simpa using same
      rw [other]
      exact ih ((List.mem_cons.mp member).resolve_left same)

theorem acceptedReflects (fine : Fine (entriesIn raw)) :
    (accepted cwd key raw segments outDir).Reflects key raw segments (outDir.resolve cwd) := by
  have keys : (accepted cwd key raw segments outDir).columns.map Prod.fst = namesIn (entriesIn raw) :=
    columnsNamed fine.named
  have folded : ∀ name ∈ namesIn (entriesIn raw), Value.folded (.text name) = Text.lowercase name := by
    intro name member
    obtain ⟨entry, there, rfl⟩ := List.mem_map.mp member
    exact foldedName (fine.named entry there)
  have visited : (accepted cwd key raw segments outDir).columnNames.Perm (namesIn (entriesIn raw)) :=
    keys ▸ (sortedPerm _).map Prod.fst
  refine ⟨rfl, rfl, rfl, rfl, keys, fun entry member => ?_, visited, ?_, ?_, ?_, fun name member => ?_⟩
  · refine lookupApart (keys ▸ fine.apart) ?_
    rw [← columnNamed (fine.named entry member)]
    exact List.mem_map_of_mem member
  · refine List.pairwise_map.mpr ((sortedPairwise _).imp_of_mem fun {a b} first second before => ?_)
    have first := folded _ (visited.mem_iff.mp (List.mem_map_of_mem first))
    have second := folded _ (visited.mem_iff.mp (List.mem_map_of_mem second))
    rw [← first, ← second]
    exact nameBeforeIff.mp before
  · intro a b pair same
    rw [← keys] at pair
    obtain ⟨columns, inside, shape⟩ := List.sublist_map_iff.mp pair
    obtain ⟨x, others, rfl, rfl, last⟩ := List.map_eq_cons_iff.mp shape.symm
    obtain ⟨y, others, rfl, rfl, none⟩ := List.map_eq_cons_iff.mp last
    obtain rfl := List.map_eq_nil_iff.mp none
    have member : ∀ column ∈ [x, y], Value.folded (.text column.1) = Text.lowercase column.1 :=
      fun column there => folded _ (keys ▸ List.mem_map_of_mem (inside.subset there))
    have before : nameBefore x.1 y.1 = true := by
      rw [nameBeforeIff, member x (by simp), member y (by simp)]
      exact same ▸ String.le_refl _
    exact (List.pair_sublist_mergeSort nameBeforeTrans nameBeforeTotal before inside).map Prod.fst
  · simp [methods, Function.comp_def]
  · exact lookupOwn Name.accessorOf member

/- An entity is accepted exactly if nothing stands in its way, the first thing that does is the
failure, and what is accepted reflects key and description. -/
theorem normalizeExact (cwd : Location) (key raw : Value) (segments : List String) (outDir : Path) :
    ((∃ e, normalize cwd key (.ofValue raw) segments outDir = .ok e) ↔
      Named key ∧ (∀ entry ∈ entriesIn raw, Named entry.1) ∧ (namesIn (entriesIn raw)).Nodup ∧
        outDir.hasNul = false) ∧
    (∀ failure, normalize cwd key (.ofValue raw) segments outDir = .error failure ↔
      Fault key (entriesIn raw) outDir failure) ∧
    ∀ e, normalize cwd key (.ofValue raw) segments outDir = .ok e →
      e.Reflects key raw segments (outDir.resolve cwd) := by
  rcases acceptedOrFault key raw outDir with ⟨named, fine, clean⟩ | ⟨failure, fault⟩
  · have ok : normalize cwd key (.ofValue raw) segments outDir = .ok _ := normalizeFine named fine clean
    refine ⟨⟨fun _ => ⟨named, fine.named, fine.apart, clean⟩, fun _ => ⟨_, ok⟩⟩, fun failure => ?_, ?_⟩
    · refine ⟨fun failed => ?_, fun fault => faultFound fault⟩
      rw [ok] at failed
      cases failed
    · intro e same
      rw [ok] at same
      cases same
      exact acceptedReflects fine
  · have failed : normalize cwd key (.ofValue raw) segments outDir = .error failure := faultFound fault
    refine ⟨⟨fun ⟨e, ok⟩ => ?_, fun ⟨named, good, apart, clean⟩ => ?_⟩, fun other => ?_, ?_⟩
    · rw [failed] at ok
      cases ok
    · exact ⟨_, normalizeFine named ⟨good, apart⟩ clean⟩
    · refine ⟨fun same => ?_, fun fault => faultFound fault⟩
      rw [failed] at same
      cases same
      exact fault
    · intro e ok
      rw [failed] at ok
      cases ok

end Checking

end EntityForge.Entity
