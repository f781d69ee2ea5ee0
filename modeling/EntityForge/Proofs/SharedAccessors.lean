import EntityForge.Proofs.Accessors
import EntityForge.Proofs.Firsts
import Mathlib.Data.List.Count

/-! Columns that share an accessor name. A column more adds a remark exactly if a column before it has
its accessor name, so every repetition is told once, with the first column of that name. Columns without
an accessor name share one as well, and each of them is told apart from that. -/
namespace EntityForge

namespace Name

def Repeats (names : List String) (name : String) : Prop :=
  ∃ before, before ++ [name] <+: names ∧ ∃ other ∈ before, accessorOf other = accessorOf name

def sharedRemark (first name : String) : String :=
  s!"Columns '{first}' and '{name}' both map to accessor name '{accessorOf name}'"

def Tells (names : List String) (name remark : String) : Prop :=
  ∃ first, names.find? (fun other => accessorOf other = accessorOf name) = some first ∧
    remark = sharedRemark first name

def remarks (names : List String) : List String :=
  collisions (names.map fun name => (name, accessorOf name))

theorem collisionsGoSnoc (owners methods : List (String × String)) (column suffix : String) :
    collisions.go owners (methods ++ [(column, suffix)]) = collisions.go owners methods ++
      ((owners.lookup suffix).or ((methods.find? fun m => m.2 = suffix).map Prod.fst)).toList.map
        fun other => s!"Columns '{other}' and '{column}' both map to accessor name '{suffix}'" := by
  induction methods generalizing owners with
  | nil =>
    rw [List.nil_append, collisions.go, collisions.go]
    cases owners.lookup suffix <;> rfl
  | cons method rest ih =>
    obtain ⟨name, here⟩ := method
    rw [List.cons_append, collisions.go, collisions.go]
    by_cases same : here = suffix
    · subst same
      cases met : owners.lookup here with
      | some other => simp [ih, met]
      | none => simp [ih]
    · have differs : (suffix == here) = false := by simpa using Ne.symm same
      cases owners.lookup here with
      | some other => simp [ih, same]
      | none => simp [ih, same, List.lookup_cons, differs]

section Remarks
variable (names : List String)

theorem remarksSnoc (name : String) : remarks (names ++ [name]) = remarks names ++
    (names.find? fun other => accessorOf other = accessorOf name).toList.map
      fun first => sharedRemark first name := by
  rw [remarks, List.map_append, List.map_singleton, collisions, collisionsGoSnoc, List.lookup_nil,
    Option.none_or, List.find?_map, Option.map_map]
  simp [remarks, collisions, sharedRemark, Function.comp_def]

theorem repeatsSnoc (last name : String) : Repeats (names ++ [last]) name ↔
    Repeats names name ∨ name = last ∧ ∃ other ∈ names, accessorOf other = accessorOf last := by
  simp only [Repeats, List.prefix_concat_iff]
  constructor
  · rintro ⟨before, whole | within, met⟩
    · obtain ⟨rfl, ends⟩ := List.append_inj' whole rfl
      obtain rfl := List.singleton_inj.mp ends
      exact .inr ⟨rfl, met⟩
    · exact .inl ⟨before, within, met⟩
  · rintro (⟨before, within, met⟩ | ⟨rfl, met⟩)
    · exact ⟨before, .inr within, met⟩
    · exact ⟨names, .inl rfl, met⟩

theorem Tells.longer {names : List String} {name remark : String} (tells : Tells names name remark)
    (last : String) : Tells (names ++ [last]) name remark := by
  obtain ⟨first, found, same⟩ := tells
  exact ⟨first, by rw [List.find?_append, found, Option.some_or], same⟩

theorem remarksTell : ∃ repeated : List String, repeated.Sublist names ∧
    (∀ name, name ∈ repeated ↔ Repeats names name) ∧
    List.Forall₂ (Tells names) repeated (remarks names) := by
  induction names using List.reverseRecOn with
  | nil => exact ⟨[], List.Sublist.refl _, fun name => by simp [Repeats], .nil⟩
  | append_singleton front last ih =>
    obtain ⟨repeated, order, each, told⟩ := ih
    have told := told.imp fun name remark tells => tells.longer last
    rw [remarksSnoc]
    cases found : front.find? fun other => accessorOf other = accessorOf last with
    | none =>
      have new : ¬ ∃ other ∈ front, accessorOf other = accessorOf last := by simpa using found
      refine ⟨repeated, order.trans (List.sublist_append_left _ _), fun name => ?_, ?_⟩
      · rw [each, repeatsSnoc, or_iff_left fun ⟨_, met⟩ => new met]
      · simpa using told
    | some first =>
      have met : ∃ other ∈ front, accessorOf other = accessorOf last :=
        ⟨first, List.mem_of_find?_eq_some found, by simpa using List.find?_some found⟩
      have tells : Tells (front ++ [last]) last (sharedRemark first last) :=
        ⟨first, by rw [List.find?_append, found, Option.some_or], rfl⟩
      refine ⟨repeated ++ [last], order.append (List.Sublist.refl _), fun name => ?_, ?_⟩
      · rw [List.mem_append, each, repeatsSnoc, List.mem_singleton, and_iff_left met]
      · exact List.rel_append told (.cons tells .nil)

theorem remarksLength :
    (remarks names).length + (names.map accessorOf).eraseDups.length = names.length := by
  induction names using List.reverseRecOn with
  | nil => rfl
  | append_singleton front last ih =>
    rw [remarksSnoc, List.map_append, List.map_singleton, InputFiles.firstsSnoc]
    cases found : front.find? fun other => accessorOf other = accessorOf last with
    | none =>
      have new : accessorOf last ∉ front.map accessorOf := by
        simpa using found
      rw [if_neg new]
      simp
      omega
    | some first =>
      have old : accessorOf last ∈ front.map accessorOf :=
        List.mem_map.mpr ⟨first, List.mem_of_find?_eq_some found, by simpa using List.find?_some found⟩
      rw [if_pos old]
      simp
      omega

theorem remarkShape {names : List String} {remark : String} (told : remark ∈ remarks names) :
    ∃ first name, remark = sharedRemark first name := by
  induction names using List.reverseRecOn with
  | nil => cases told
  | append_singleton front last ih =>
    rw [remarksSnoc] at told
    rcases List.mem_append.mp told with early | late
    · exact ih early
    · obtain ⟨first, _, rfl⟩ := List.mem_map.mp late
      exact ⟨first, last, rfl⟩

end Remarks

end Name

namespace Entity

def namelessRemark (e : Entity) (name : String) : String :=
  s!"{e.name}: column '{name}' derives an empty accessor name"

section Nameless
variable {e : Entity} {name : String}

theorem namelessInjective : Function.Injective e.namelessRemark := fun a b same =>
  String.toList_injective (by simpa [namelessRemark, toString] using congrArg String.toList same)

theorem namelessListed (e : Entity) : ((e.methods.filter fun m => m.2 = "").map fun m =>
    s!"{e.name}: column '{m.1}' derives an empty accessor name") =
      (e.columnNames.filter fun name => Name.accessorOf name = "").map e.namelessRemark := by
  simp [methods, List.filter_map, Function.comp_def, namelessRemark]

theorem namelessOwn (e : Entity) (name : String) : e.namelessRemark name ∉
    ((Name.collisions e.methods).map fun warning => s!"{e.name}: {warning}") ++ e.memberWarnings := by
  rw [List.mem_append, List.mem_map]
  rintro (⟨remark, told, same⟩ | member)
  · have told : remark ∈ Name.remarks e.columnNames := told
    obtain ⟨first, other, rfl⟩ := Name.remarkShape told
    simpa [namelessRemark, Name.sharedRemark, toString] using congrArg String.toList same
  · obtain ⟨method, _, same⟩ := List.mem_map.mp member
    simpa [namelessRemark, toString] using congrArg String.toList same

theorem namelessCount (apart : e.columnNames.Nodup) (member : name ∈ e.columnNames) (t : Target) :
    (t.warnings e).count (e.namelessRemark name) = if Name.accessorOf name = "" then 1 else 0 := by
  have some : e.columns.isEmpty = false := by
    rw [columnNames, List.mem_map] at member
    obtain ⟨column, listed, _⟩ := member
    rw [List.isEmpty_eq_false_iff_exists_mem]
    exact ⟨column, memberSorted.mp listed⟩
  have own := e.namelessOwn name
  have either : t.warnings e = e.warnings ∨ t.warnings e = e.warnings ++ e.memberWarnings := by
    cases t <;> simp [Target.warnings]
  obtain ⟨more, rest, parts⟩ : ∃ more, e.namelessRemark name ∉ more ∧ t.warnings e =
      (e.columnNames.filter fun name => Name.accessorOf name = "").map e.namelessRemark ++ more := by
    rcases either with base | members
    · refine ⟨_, fun here => own (List.mem_append_left _ here), ?_⟩
      simp [base, warnings, some, ← namelessListed]
    · exact ⟨_, own, by simp [members, warnings, some, ← namelessListed]⟩
  rw [parts, List.count_append, List.count_eq_zero.mpr rest, Nat.add_zero,
    List.count_map_of_injective _ _ namelessInjective]
  split
  next empty => rw [List.count_filter (by simpa using empty), List.count_eq_one_of_mem apart member]
  next named =>
    refine List.count_eq_zero.mpr fun listed => named ?_
    simpa using (List.mem_filter.mp listed).2

end Nameless

theorem columnNamesApart {cwd : Location} {key : Value} {description : Description}
    {segments : List String} {outDir : Path} {e : Entity}
    (normal : normalize cwd key description segments outDir = .ok e) : e.columnNames.Nodup :=
  ((sortedPerm e).map Prod.fst).nodup_iff.mpr (normalizeApart normal)

/- The columns whose accessor name an earlier column has are told in their order, each once and with the
first column of that name. So there are as many remarks as there are columns beyond the different
accessor names, and columns without an accessor name are told besides. -/
theorem sharedAccessorsTold {cwd : Location} {key : Value} {description : Description}
    {segments : List String} {outDir : Path} {e : Entity}
    (normal : normalize cwd key description segments outDir = .ok e) :
    (∃ repeated : List String, repeated.Nodup ∧ repeated.Sublist e.columnNames ∧
      (∀ name, name ∈ repeated ↔ Name.Repeats e.columnNames name) ∧
      List.Forall₂ (Name.Tells e.columnNames) repeated (Name.collisions e.methods)) ∧
    (Name.collisions e.methods).length + (e.columnNames.map Name.accessorOf).eraseDups.length =
      e.columns.length ∧
    (Name.collisions e.methods = [] ↔ (e.columnNames.map Name.accessorOf).Nodup) ∧
    ∀ (t : Target), ∀ name ∈ e.columnNames,
      (t.warnings e).count (e.namelessRemark name) = if Name.accessorOf name = "" then 1 else 0 := by
  have apart := columnNamesApart normal
  obtain ⟨repeated, order, each, told⟩ := Name.remarksTell e.columnNames
  refine ⟨⟨repeated, apart.sublist order, order, each, told⟩, ?_, ?_, fun t name member =>
    namelessCount apart member t⟩
  · have count := Name.remarksLength e.columnNames
    rw [columnNames, List.length_map, (sortedPerm e).length_eq] at count
    exact count
  · rw [Name.collisionsNone, methods, List.map_map]
    rfl

def crowdedColumns (names : List String) : List (String × Column) :=
  names.map fun name => (name, { tag := "" })

def crowdedEntity : Entity where
  name := "Crowd"
  segments := []
  table := "Crowd"
  columns := crowdedColumns ["id", "a_b", "___", "aB", "_", "a__b", "__"]
  outDir := ⟨.root, ["w", "out"]⟩

def crowdedDescription : Description := .ofValue (.map [(.text "columns", .map [
  (.text "id", .null), (.text "a_b", .null), (.text "___", .null), (.text " aB", .null),
  (.text "_", .null), (.text "a__b", .null), (.text "__", .null)])])

theorem crowdedNames : crowdedEntity.columnNames = ["_", "__", "___", "a__b", "a_b", "aB", "id"] := by
  have order : crowdedEntity.sorted =
      crowdedColumns ["_", "__", "___", "a__b", "a_b", "aB", "id"] :=
    sortedOf (by decide) (by decide +kernel) (by decide +kernel)
  rw [columnNames, order]
  rfl

theorem crowdedTold :
    normalize [] (.text "Crowd") crowdedDescription [] (.ofText "/w/out") = .ok crowdedEntity ∧
      crowdedEntity.columnNames = ["_", "__", "___", "a__b", "a_b", "aB", "id"] ∧
      Name.collisions crowdedEntity.methods = [
        "Columns '_' and '__' both map to accessor name ''",
        "Columns '_' and '___' both map to accessor name ''",
        "Columns 'a__b' and 'a_b' both map to accessor name 'AB'",
        "Columns 'a__b' and 'aB' both map to accessor name 'AB'"] ∧
      (∃ repeated : List String, repeated.Nodup ∧ repeated.Sublist crowdedEntity.columnNames ∧
        (∀ name, name ∈ repeated ↔ Name.Repeats crowdedEntity.columnNames name) ∧
        List.Forall₂ (Name.Tells crowdedEntity.columnNames) repeated
          (Name.collisions crowdedEntity.methods)) ∧
      4 + (crowdedEntity.columnNames.map Name.accessorOf).eraseDups.length = 7 ∧
      (Target.doctrine.warnings crowdedEntity).count (crowdedEntity.namelessRemark "__") = 1 := by
  have normal : normalize [] (.text "Crowd") crowdedDescription [] (.ofText "/w/out") =
      .ok crowdedEntity := rfl
  have told : Name.collisions crowdedEntity.methods = [
      "Columns '_' and '__' both map to accessor name ''",
      "Columns '_' and '___' both map to accessor name ''",
      "Columns 'a__b' and 'a_b' both map to accessor name 'AB'",
      "Columns 'a__b' and 'aB' both map to accessor name 'AB'"] := by
    rw [methods, crowdedNames]
    decide +kernel
  obtain ⟨each, count, _, empty⟩ := sharedAccessorsTold normal
  refine ⟨normal, crowdedNames, told, each, ?_, ?_⟩
  · rw [told] at count
    exact count
  · rw [empty .doctrine "__" (by simp [crowdedNames]), if_pos (by decide +kernel)]

end Entity

end EntityForge
