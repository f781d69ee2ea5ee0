import EntityForge.Proofs.Emission

/-! The order of the columns in a description does not show. Generators visit columns by name, so
descriptions whose columns are the same in another order give the same warnings, the same files and the
same failures. -/
namespace EntityForge

namespace Entity

theorem emitSorted {e : Entity} {columns : List (String × Column)}
    (sorted : ({ e with columns } : Entity).sorted = e.sorted) (t : Target) (options : Options) :
    t.emit { e with columns } options = t.emit e options := by
  have framework (flavor : Emit.EntityFramework.Flavor) :
      Emit.EntityFramework.artifacts flavor { e with columns } options =
        Emit.EntityFramework.artifacts flavor e options := by
    rw [Emit.EntityFramework.artifacts, Emit.EntityFramework.typedMap, sorted]
    rfl
  cases t with
  | doctrine =>
    rw [Target.emit, Emit.Doctrine.artifacts, Emit.Doctrine.typedMap, sorted]
    rfl
  | entityFramework => exact framework _
  | entityFrameworkCore => exact framework _

theorem warningsSorted {e : Entity} {columns : List (String × Column)}
    (sorted : ({ e with columns } : Entity).sorted = e.sorted) (t : Target) :
    t.warnings { e with columns } = t.warnings e := by
  have methods : ({ e with columns } : Entity).methods = e.methods := by
    rw [Entity.methods, columnNames, sorted]
    rfl
  have empty : columns.isEmpty = e.columns.isEmpty := by
    have first := (sortedPerm { e with columns }).isEmpty_eq
    rw [sorted] at first
    exact first.symm.trans (sortedPerm e).isEmpty_eq
  have shared : ({ e with columns } : Entity).warnings = e.warnings := by
    unfold Entity.warnings
    dsimp only
    rw [methods, empty]
  have members : ({ e with columns } : Entity).memberWarnings = e.memberWarnings := by
    unfold memberWarnings
    rw [methods]
  cases t <;> simp only [Target.warnings, shared, members]

theorem foldedApart {entries : Entries}
    (named : ∀ entry ∈ entries, (Name.read? entry.1).isSome = true)
    (apart : (entries.map fun entry => (Name.read? entry.1).map Text.lowercase).Nodup) :
    ((entries.map columnOf).map fun column => Value.folded (.text column.1)).Nodup := by
  refine List.Nodup.of_map some ?_
  rw [List.map_map, List.map_map]
  convert apart using 1
  refine List.map_congr_left fun entry member => ?_
  obtain ⟨name, read⟩ := Option.isSome_iff_exists.mp (named entry member)
  simp [columnOf, read, foldedName (readOk read).1]

structure SameOutput (e e' : Entity) : Prop where
  warnings (t : Target) : t.warnings e = t.warnings e'
  files (t : Target) (options : Options) : options.Plain →
    (∃ artifacts, t.emit e options = .ok artifacts ∧ t.emit e' options = .ok artifacts) ∨
      ∃ tag, t.emit e options = .error (.unsupportedType tag t.displayName) ∧
        t.emit e' options = .error (.unsupportedType tag t.displayName)

end Entity

/- Descriptions that differ in the order of their columns, with names that differ without regard to
case: both are accepted or both lie in a directory that cannot be, and what they give is the same. -/
theorem columnOrder (cwd : Location) {key : Value} (valid : (Name.read? key).isSome = true)
    {first second : Description} (table : first.table = second.table) {entries entries' : Entries}
    (columns : first.columns.opened = .map entries) (columns' : second.columns.opened = .map entries')
    (perm : entries.Perm entries') (named : ∀ entry ∈ entries, (Name.read? entry.1).isSome = true)
    (apart : (entries.map fun entry => (Name.read? entry.1).map Text.lowercase).Nodup)
    (segments : List String) (outDir : Path) :
    (∃ e e', Entity.normalize cwd key first segments outDir = .ok e ∧
        Entity.normalize cwd key second segments outDir = .ok e' ∧ e.SameOutput e') ∨
      outDir.hasNul = true ∧ Entity.normalize cwd key first segments outDir = .error nulFault ∧
        Entity.normalize cwd key second segments outDir = .error nulFault := by
  have folded := Entity.foldedApart named apart
  have unique : ((entries.map Entity.columnOf).map Prod.fst).Nodup :=
    List.Nodup.of_map (fun name => Value.folded (.text name)) (by rw [List.map_map]; exact folded)
  obtain ⟨name, read⟩ := Option.isSome_iff_exists.mp valid
  have named' : Entity.readName key "class" = .ok name := by rw [Entity.readName, read]
  let e : Entity := ⟨name, segments, Entity.tableName first.table name, entries.map Entity.columnOf,
    outDir.resolve cwd⟩
  have left : Entity.ofDescription key first segments (outDir.resolve cwd) = .ok e :=
    Entity.ofDescriptionOk.mpr ⟨name, entries, named', columns, named, unique, rfl⟩
  have right : Entity.ofDescription key second segments (outDir.resolve cwd) =
      .ok { e with columns := entries'.map Entity.columnOf } :=
    Entity.ofDescriptionOk.mpr ⟨name, entries', named', columns',
      fun entry member => named entry (perm.mem_iff.mpr member),
      ((perm.map _).map _).nodup_iff.mp unique, by rw [← table]⟩
  cases nul : outDir.hasNul with
  | true =>
    refine .inr ⟨rfl, ?_, ?_⟩
    · rw [Entity.normalize, left]
      exact if_pos nul
    · rw [Entity.normalize, right]
      exact if_pos nul
  | false =>
    refine .inl ⟨_, _, Entity.normalizeIff.mpr ⟨left, nul⟩, Entity.normalizeIff.mpr ⟨right, nul⟩, ?_⟩
    have sorted : ({ e with columns := entries'.map Entity.columnOf } : Entity).sorted = e.sorted :=
      Entity.sortedSame (perm.map Entity.columnOf).symm folded
    refine ⟨fun t => (Entity.warningsSorted sorted t).symm, fun t options plain => ?_⟩
    rw [Entity.emitSorted sorted]
    rcases t.emitPlain e plain with ⟨artifacts, emitted, _⟩ | ⟨tag, failed, _⟩
    · exact .inl ⟨artifacts, emitted, emitted⟩
    · exact .inr ⟨tag, failed, failed⟩

def userColumns : Entries := [
  (.text "name", .text "string"), (.text " Score ", .text "float"), (.text "ID", .map [
    (.text "id", .bool true), (.text "auto", .text "yes")])]

def userDescription (columns : Entries) : Description :=
  .ofValue (.map [(.text "table", .text "users"), (.text "columns", .map columns)])

theorem userColumnOrder : (Name.read? (.text "User")).isSome = true ∧
    userColumns.Perm userColumns.reverse ∧
    (∀ entry ∈ userColumns, (Name.read? entry.1).isSome = true) ∧
    (userColumns.map fun entry => (Name.read? entry.1).map Text.lowercase).Nodup ∧
    ∃ e e', Entity.normalize [] (.text "User") (userDescription userColumns) ["App"] (.ofText "out") =
        .ok e ∧
      Entity.normalize [] (.text "User") (userDescription userColumns.reverse) ["App"]
        (.ofText "out") = .ok e' ∧ e.SameOutput e' := by
  have valid : (Name.read? (.text "User")).isSome = true := by decide
  have perm : userColumns.Perm userColumns.reverse := (List.reverse_perm userColumns).symm
  have named : ∀ entry ∈ userColumns, (Name.read? entry.1).isSome = true := by decide
  have apart : (userColumns.map fun entry => (Name.read? entry.1).map Text.lowercase).Nodup := by
    decide +kernel
  refine ⟨valid, perm, named, apart, ?_⟩
  have table : (userDescription userColumns).table = (userDescription userColumns.reverse).table := rfl
  rcases columnOrder [] valid table rfl rfl perm named apart ["App"] (.ofText "out") with
    same | ⟨nul, _⟩
  · exact same
  · exact absurd nul (by decide)

end EntityForge
