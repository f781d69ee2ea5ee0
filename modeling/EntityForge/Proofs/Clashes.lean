import EntityForge.Proofs.Members

/-! Entities that nothing is remarked on. Their members have names that differ as they are written. A
property may begin with a digit all the same, and methods may have one name where case does not count. -/
namespace EntityForge
open Template

section Names
variable {cwd : Location} {key : Value} {description : Description} {segments : List String}
  {outDir : Path} {e : Entity}

theorem silentProperties (normal : Entity.normalize cwd key description segments outDir = .ok e)
    {t : Target} (sharp : t ≠ .doctrine) (silent : t.warnings e = []) :
    e.accessors.Nodup ∧ e.name ∉ e.accessors ∧
      (∀ name ∈ e.accessors, name ≠ "" ∧ ∀ c ∈ name.toList, c.isAlphanum = true) ∧
      (∀ column ∈ e.columns, (Name.read? (.text (Name.accessorOf column.1))).isSome = true ↔
        ∃ c, column.1.toList.find? (· != '_') = some c ∧ c.isDigit = false) ∧
      ∀ options files, t.emit e options = .ok files → ∃ columns main extension lines,
        e.sorted.mapM t.types.typeColumn = .ok columns ∧ files = [main, extension] ∧
        Written options main.content lines ∧
        ((columns.map Emit.EntityFramework.propertyText).map fun s =>
          (margin (String.intercalate "." e.segments) ++ s).toList).Sublist lines := by
  have words := Entity.normalizeWords normal
  obtain ⟨_, some, apart, named⟩ := (Entity.warningsNone t e).mp silent
  refine ⟨apart, named sharp, fun name member => ⟨?_, ?_⟩, fun column member => ?_,
    fun options files => ?_⟩
  · rintro rfl
    exact some member
  · obtain ⟨column, there, rfl⟩ := List.mem_map.mp member
    exact Name.accessorLetters (words column there)
  · exact Name.accessorValid (words column member)
  · exact t.propertiesEmitted sharp words some

def accountEntity : Entity where
  name := "Account"
  segments := ["App"]
  table := "Account"
  columns := [("_a1", { tag := "" }), ("Id", { tag := "", id := true, auto := true }),
    ("user__name", { tag := "" })]
  outDir := ⟨.root, ["w", "out"]⟩

def accountDescription : Description := .ofValue (.map [(.text "columns", .map [(.text "_a1", .null),
  (.text "Id", .map [(.text "id", .bool true), (.text "auto", .bool true)]),
  (.text " user__name", .null)])])

theorem accountNormal : Entity.normalize [] (.text "Account") accountDescription ["App"]
    (.ofText "/w/out") = .ok accountEntity := rfl

theorem accountSilent (t : Target) : t.warnings accountEntity = [] :=
  (Entity.warningsNone t _).mpr ⟨by decide, by decide, by decide, fun _ => by decide⟩

theorem accountProperties :
    Entity.normalize [] (.text "Account") accountDescription ["App"] (.ofText "/w/out") =
        .ok accountEntity ∧
      Target.entityFramework ≠ .doctrine ∧ Target.entityFramework.warnings accountEntity = [] ∧
      accountEntity.accessors = ["A1", "Id", "UserName"] ∧
      ["A1", "Id", "UserName"].Nodup ∧ "Account" ∉ ["A1", "Id", "UserName"] ∧
      (Name.read? (.text "A1")).isSome = true ∧
      ∃ columns main extension lines,
        accountEntity.sorted.mapM Target.entityFramework.types.typeColumn = .ok columns ∧
        Target.entityFramework.emit accountEntity {} = .ok [main, extension] ∧
        Written {} main.content lines ∧
        ((columns.map Emit.EntityFramework.propertyText).map fun s => ("    " ++ s).toList).Sublist
          lines := by
  have sharp : Target.entityFramework ≠ .doctrine := by decide
  have silent := accountSilent .entityFramework
  have names : accountEntity.accessors = ["A1", "Id", "UserName"] := rfl
  obtain ⟨apart, free, _, valid, emits⟩ := silentProperties accountNormal sharp silent
  obtain ⟨files, emitted⟩ : ∃ files, Target.entityFramework.emit accountEntity {} = .ok files :=
    Target.entityFramework.emitAccepted plainDefault (by decide)
  obtain ⟨columns, main, extension, lines, typed, rfl, written, inside⟩ := emits {} files emitted
  have first := (valid ("_a1", { tag := "" }) List.mem_cons_self).mpr ⟨'a', rfl, rfl⟩
  exact ⟨accountNormal, sharp, silent, names, names ▸ apart, names ▸ free, first, columns, main,
    extension, lines, typed, emitted, written, inside⟩

def digitEntity : Entity where
  name := "User"
  segments := []
  table := "User"
  columns := [("_1", { tag := "" })]
  outDir := ⟨.root, ["w", "out"]⟩

theorem digitProperty :
    Entity.normalize [] (.text "User") (.ofValue (.map [(.text "columns", .map [(.text "_1", .null)])]))
        [] (.ofText "/w/out") = .ok digitEntity ∧
      Target.entityFramework.warnings digitEntity = [] ∧
      Target.entityFrameworkCore.warnings digitEntity = [] ∧
      (∃ main extension lines, Target.entityFramework.emit digitEntity {} = .ok [main, extension] ∧
        Written {} main.content lines ∧ "    public string 1".toList ∈ lines) ∧
      Name.read? (.text "1") = none := by
  have normal : Entity.normalize [] (.text "User") (.ofValue (.map [(.text "columns",
      .map [(.text "_1", .null)])])) [] (.ofText "/w/out") = .ok digitEntity := rfl
  have silent (t : Target) : t.warnings digitEntity = [] :=
    (Entity.warningsNone t _).mpr ⟨by decide, by decide, by decide, fun _ => by decide⟩
  obtain ⟨files, emitted⟩ : ∃ files, Target.entityFramework.emit digitEntity {} = .ok files :=
    Target.entityFramework.emitAccepted plainDefault (by decide)
  obtain ⟨columns, main, extension, lines, done, rfl, written, inside⟩ :=
    Target.propertiesEmitted (t := .entityFramework) (by decide) (Entity.normalizeWords normal)
      (by decide) emitted
  have sorted : digitEntity.sorted = digitEntity.columns := List.mergeSort_singleton _
  have typed : digitEntity.columns.mapM Target.entityFramework.types.typeColumn =
      .ok [("_1", { tag := "" }, "string")] := rfl
  rw [sorted, typed] at done
  cases done
  exact ⟨normal, silent _, silent _, ⟨main, extension, lines, emitted, written,
    inside.subset List.mem_cons_self⟩, by decide⟩

def bareName (name : String) : List Char := (name.toList.filter (· != '_')).map Char.toLower

/- The getters and setters of an entity that nothing is remarked on differ as they are written. Without
regard to case they differ exactly if the columns do without their underscores. -/
theorem silentMethods (normal : Entity.normalize cwd key description segments outDir = .ok e)
    (silent : Target.doctrine.warnings e = []) :
    (e.columns.flatMap Emit.Doctrine.methodNames).Nodup ∧
      (((e.columns.flatMap Emit.Doctrine.methodNames).map fun s => s.toList.map Char.toLower).Nodup ↔
        (e.columns.map fun column => bareName column.1).Nodup) ∧
      ∀ options files, Target.doctrine.emit e options = .ok files → ∃ main others lines,
        files = main :: others ∧ Written options main.content lines ∧
        ((e.sorted.flatMap Emit.Doctrine.methodTexts).map String.toList).Sublist lines := by
  have words := Entity.normalizeWords normal
  obtain ⟨_, _, apart, _⟩ := (Entity.warningsNone .doctrine e).mp silent
  refine ⟨(Emit.Doctrine.methodsDiffer _).mpr apart, ?_, fun options files =>
    Target.methodsEmitted words⟩
  have same : e.columns.map (fun column => (Name.accessorOf column.1).toList.map Char.toLower) =
      e.columns.map fun column => bareName column.1 :=
    List.map_congr_left fun column member => Name.accessorLower (words column member)
  rw [Emit.Doctrine.methodsApart (by decide), same]

end Names

theorem accountMethods :
    Entity.normalize [] (.text "Account") accountDescription ["App"] (.ofText "/w/out") =
        .ok accountEntity ∧
      Target.doctrine.warnings accountEntity = [] ∧
      accountEntity.columns.flatMap Emit.Doctrine.methodNames =
        ["getA1", "setA1", "getId", "getUserName", "setUserName"] ∧
      ["getA1", "setA1", "getId", "getUserName", "setUserName"].Nodup ∧
      (["getA1", "setA1", "getId", "getUserName", "setUserName"].map fun s =>
        s.toList.map Char.toLower).Nodup ∧
      ∃ main others lines, Target.doctrine.emit accountEntity {} = .ok (main :: others) ∧
        Written {} main.content lines ∧
        ((accountEntity.sorted.flatMap Emit.Doctrine.methodTexts).map String.toList).Sublist lines := by
  have silent := accountSilent .doctrine
  have names : accountEntity.columns.flatMap Emit.Doctrine.methodNames =
      ["getA1", "setA1", "getId", "getUserName", "setUserName"] := rfl
  obtain ⟨apart, folded, emits⟩ := silentMethods accountNormal silent
  obtain ⟨files, emitted⟩ : ∃ files, Target.doctrine.emit accountEntity {} = .ok files :=
    Target.doctrine.emitAccepted plainDefault (by decide)
  obtain ⟨main, others, lines, rfl, written, inside⟩ := emits {} files emitted
  have bare : (accountEntity.columns.map fun column => bareName column.1).Nodup := by decide
  rw [names] at apart folded
  exact ⟨accountNormal, silent, names, apart, folded.mpr bare, main, others, lines, emitted, written,
    inside⟩

def caseEntity : Entity where
  name := "User"
  segments := []
  table := "User"
  columns := [("userName", { tag := "" }), ("username", { tag := "" })]
  outDir := ⟨.root, ["w", "out"]⟩

theorem caseMethods :
    Entity.normalize [] (.text "User") (.ofValue (.map [(.text "columns",
        .map [(.text "userName", .null), (.text "username", .null)])])) [] (.ofText "/w/out") =
          .ok caseEntity ∧
      Target.doctrine.warnings caseEntity = [] ∧
      (∃ main others lines, Target.doctrine.emit caseEntity {} = .ok (main :: others) ∧
        Written {} main.content lines ∧ "    public function getUserName() \x7b".toList ∈ lines ∧
        "    public function getUsername() \x7b".toList ∈ lines) ∧
      "getUserName".toList.map Char.toLower = "getUsername".toList.map Char.toLower := by
  have normal : Entity.normalize [] (.text "User") (.ofValue (.map [(.text "columns",
      .map [(.text "userName", .null), (.text "username", .null)])])) [] (.ofText "/w/out") =
        .ok caseEntity := rfl
  obtain ⟨files, emitted⟩ : ∃ files, Target.doctrine.emit caseEntity {} = .ok files :=
    Target.doctrine.emitAccepted plainDefault (by decide)
  obtain ⟨main, others, lines, rfl, written, inside⟩ :=
    Target.methodsEmitted (Entity.normalizeWords normal) emitted
  have there (column : String × Column) (member : column ∈ caseEntity.columns) {text : String}
      (said : text ∈ Emit.Doctrine.methodTexts column) : text.toList ∈ lines :=
    inside.subset (List.mem_map_of_mem
      (List.mem_flatMap.mpr ⟨column, Entity.memberSorted.mpr member, said⟩))
  refine ⟨normal, (Entity.warningsNone .doctrine _).mpr ⟨by decide, by decide, by decide, nofun⟩,
    ⟨main, others, lines, emitted, written, ?_, ?_⟩, by decide⟩
  · exact there ("userName", { tag := "" }) (by decide) (by decide)
  · exact there ("username", { tag := "" }) (by decide) (by decide)

end EntityForge
