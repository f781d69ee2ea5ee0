import EntityForge.Proofs.Clashes
import EntityForge.Proofs.CsharpMembers
import EntityForge.Proofs.PhpMembers

/-! Generated classes keep their lists in step. Fields, accessors and the tables that give the accessors
by name are written one after the other, from one list of columns; read off the class, all of them are
the columns in their order, and those that cannot be set are missing from the lists of setters only. -/
namespace EntityForge
open Template
open Text (Short)

structure Roster where
  fields : List (List Char)
  getters : List (List Char)
  setters : List (List Char)
  getterTable : List (List Char × List Char)
  setterTable : List (List Char × List Char)
  deriving DecidableEq

namespace Item

def field? : Item → Option (List Char)
  | field name => some name
  | _ => none

def property? : Item → Option (List Char)
  | property name => some name
  | _ => none

def accessor? (kind : String) : Item → Option (List Char)
  | method name =>
    if kind.toList.isPrefixOf name && !(kind ++ "_").toList.isPrefixOf name then some name else none
  | _ => none

def settable : List Item → List (List Char)
  | property name :: rest =>
    if rest.head? = some setter then name :: settable rest else settable rest
  | _ :: rest => settable rest
  | [] => []

theorem settableSkip {front : List Item} (free : ∀ name, property name ∉ front) (rest : List Item) :
    settable (front ++ rest) = settable rest := by
  induction front with
  | nil => rfl
  | cons item front ih =>
    have later := ih fun name there => free name (List.mem_cons_of_mem item there)
    cases item with
    | property name => exact absurd List.mem_cons_self (free name)
    | _ => exact later

def tableFrom (name : String) : Bool → List Item → List (List Char × List Char)
  | _, [] => []
  | _, method found :: rest => tableFrom name (found == name.toList) rest
  | true, entry key member :: rest => (key, member) :: tableFrom name true rest
  | inside, _ :: rest => tableFrom name inside rest

def table (name : String) (items : List Item) : List (List Char × List Char) := tableFrom name false items

section Tables
variable {name : String}

theorem tableOutside {items : List Item} (free : method name.toList ∉ items) (rest : List Item) :
    tableFrom name false (items ++ rest) = tableFrom name false rest := by
  induction items with
  | nil => rfl
  | cons item items ih =>
    obtain ⟨apart, later⟩ := List.ne_and_not_mem_of_not_mem_cons free
    cases item with
    | method found =>
      have here : (found == name.toList) = false :=
        beq_eq_false_iff_ne.mpr fun same => apart (congrArg method same.symm)
      rw [List.cons_append, tableFrom, here, ih later]
    | _ => exact ih later

theorem tableInside (pairs : List (List Char × List Char)) (rest : List Item) :
    tableFrom name true (pairs.map (fun pair => entry pair.1 pair.2) ++ rest) =
      pairs ++ tableFrom name true rest := by
  induction pairs with
  | nil => rfl
  | cons pair pairs ih => rw [List.map_cons, List.cons_append, tableFrom, ih, List.cons_append]

theorem tableBetween {front middle back : List Item} {next : String}
    {pairs : List (List Char × List Char)} (apart : next.toList ≠ name.toList)
    (before : method name.toList ∉ front) (behind : method name.toList ∉ back)
    (listed : middle = pairs.map fun pair => entry pair.1 pair.2) :
    table name (front ++ method name.toList :: (middle ++ method next.toList :: back)) = pairs := by
  have rest : tableFrom name false back = [] := by
    simpa [tableFrom] using tableOutside behind []
  rw [listed, table, tableOutside before, tableFrom, beq_self_eq_true, tableInside, tableFrom,
    beq_eq_false_iff_ne.mpr apart, rest, List.append_nil]

end Tables

end Item

namespace Target

def roster (t : Target) (content : String) : Roster :=
  match t with
  | .doctrine =>
    let items := Reader.php.reads content
    { fields := items.filterMap Item.field?
      getters := items.filterMap (Item.accessor? "get")
      setters := items.filterMap (Item.accessor? "set")
      getterTable := Item.table "get_getters" items
      setterTable := Item.table "get_setters" items }
  | _ =>
    let items := Reader.csharp.reads content
    { fields := items.filterMap Item.field?
      getters := items.filterMap Item.property?
      setters := Item.settable items
      getterTable := Item.table "Get_Getters" items
      setterTable := Item.table "Get_Setters" items }

end Target

def Roster.of (field getter setter : String → String) (columns : List (String × Column)) : Roster :=
  let settable := columns.filter fun column => !column.2.auto
  { fields := columns.map fun column => (field column.1).toList
    getters := columns.map fun column => (getter column.1).toList
    setters := settable.map fun column => (setter column.1).toList
    getterTable := columns.map fun column => (column.1.toList, (getter column.1).toList)
    setterTable := settable.map fun column => (column.1.toList, (setter column.1).toList) }

def Entity.roster (e : Entity) : Target → Roster
  | .doctrine => .of id (fun name => "get" ++ Name.accessorOf name)
      (fun name => "set" ++ Name.accessorOf name) e.sorted
  | _ => .of (fun name => "_" ++ name) Name.accessorOf Name.accessorOf e.sorted

section Loops
variable {α β γ : Type} {p : β → Option γ} {f : α → List β} {xs : List α}

theorem loopPicked {g : α → List γ} (each : ∀ x ∈ xs, (f x).filterMap p = g x) :
    (xs.flatMap f).filterMap p = xs.flatMap g := by
  rw [List.filterMap_flatMap]
  exact List.flatMap_congr each

theorem loopNone (each : ∀ x ∈ xs, (f x).filterMap p = []) : (xs.flatMap f).filterMap p = [] := by
  rw [loopPicked each, List.flatMap_eq_nil_iff.mpr fun _ _ => rfl]

theorem loopMapped {g : α → γ} (each : ∀ x ∈ xs, (f x).filterMap p = [g x]) :
    (xs.flatMap f).filterMap p = xs.map g := by
  rw [loopPicked each, List.map_eq_flatMap]

theorem flatMapUnless (q : α → Bool) (g : α → γ) (xs : List α) :
    (xs.flatMap fun x => if q x then [] else [g x]) = (xs.filter fun x => !q x).map g := by
  induction xs with
  | nil => rfl
  | cons x rest ih => cases here : q x <;> simp [here, ih]

end Loops

theorem freshAmong {item : Item} {segments : List (List Item)}
    (each : ∀ segment ∈ segments, item ∉ segment) : item ∉ segments.flatten := fun member => by
  obtain ⟨segment, there, here⟩ := List.mem_flatten.mp member
  exact each segment there here

namespace Emit.Doctrine

section Roster
variable {columns : List (String × Column × String)}

theorem fieldsListed : (classItems columns).flatten.filterMap Item.field? =
    columns.map fun column => column.1.toList := by
  have fields : (columns.flatMap fieldItems).filterMap Item.field? =
      columns.map fun column => column.1.toList := loopMapped fun _ _ => rfl
  have methods : (columns.flatMap methodItems).filterMap Item.field? = [] :=
    loopNone fun column _ => by unfold methodItems; split <;> rfl
  have getters : (columns.flatMap getterItems).filterMap Item.field? = [] := loopNone fun _ _ => rfl
  have setters : (columns.flatMap setterItems).filterMap Item.field? = [] :=
    loopNone fun column _ => by unfold setterItems; split <;> rfl
  rw [classItems, List.filterMap_flatten]
  simp only [List.map_cons, fields, methods, getters, setters]
  exact List.append_nil _

theorem accessorKind {name kind : String} (words : Name.wellFormed name.toList = true) :
    Item.accessor? kind (.method (kind ++ Name.accessorOf name).toList) =
      some (kind ++ Name.accessorOf name).toList := by
  have front : kind.toList.isPrefixOf (kind ++ Name.accessorOf name).toList = true := by
    simp [List.isPrefixOf_iff_prefix]
  have apart : (kind ++ "_").toList.isPrefixOf (kind ++ Name.accessorOf name).toList = false := by
    rw [← Bool.not_eq_true, List.isPrefixOf_iff_prefix, String.toList_append, String.toList_append,
      List.prefix_append_right_inj]
    intro (begins : ['_'] <+: (Name.accessorOf name).toList)
    exact absurd (Name.accessorLetters words '_' (begins.subset List.mem_cons_self)) (by decide)
  rw [Item.accessor?, front, apart]
  rfl

theorem methodsPicked {column : String × Column × String}
    (words : Name.wellFormed column.1.toList = true) :
    (methodItems column).filterMap (Item.accessor? "get") =
        [("get" ++ Name.accessorOf column.1).toList] ∧
      (methodItems column).filterMap (Item.accessor? "set") =
        if column.2.1.auto then [] else [("set" ++ Name.accessorOf column.1).toList] := by
  have get : Item.accessor? "get" (.method ("set" ++ Name.accessorOf column.1).toList) = none := by
    rw [String.toList_append]
    rfl
  have set : Item.accessor? "set" (.method ("get" ++ Name.accessorOf column.1).toList) = none := by
    rw [String.toList_append]
    rfl
  unfold methodItems
  split
  · simp only [List.append_nil, List.filterMap_cons, List.filterMap_nil, accessorKind words, set,
      and_self]
  · simp only [List.cons_append, List.nil_append, List.filterMap_cons, List.filterMap_nil,
      accessorKind words, get, set, and_self]

theorem accessorsListed (words : ∀ column ∈ columns, Name.wellFormed column.1.toList = true) :
    (classItems columns).flatten.filterMap (Item.accessor? "get") =
        columns.map (fun column => ("get" ++ Name.accessorOf column.1).toList) ∧
      (classItems columns).flatten.filterMap (Item.accessor? "set") =
        (columns.filter fun column => !column.2.1.auto).map fun column =>
          ("set" ++ Name.accessorOf column.1).toList := by
  have others (kind : String) {f : String × Column × String → List Item}
      (none : ∀ column, ∀ item ∈ f column, ∀ name, item ≠ .method name) :
      (columns.flatMap f).filterMap (Item.accessor? kind) = [] := by
    refine loopNone fun column _ => List.filterMap_eq_nil_iff.mpr fun item member => ?_
    cases item with
    | method name => exact absurd rfl (none column _ member name)
    | _ => rfl
  have fields (kind) := others kind (f := fieldItems) (by simp [fieldItems])
  have getters (kind) := others kind (f := getterItems) (by simp [getterItems])
  have setters (kind) := others kind (f := setterItems) (by simp [setterItems])
  have get : (columns.flatMap methodItems).filterMap (Item.accessor? "get") =
      columns.map fun column => ("get" ++ Name.accessorOf column.1).toList :=
    loopMapped fun column member => (methodsPicked (words column member)).1
  have set : (columns.flatMap methodItems).filterMap (Item.accessor? "set") =
      (columns.filter fun column => !column.2.1.auto).map fun column =>
        ("set" ++ Name.accessorOf column.1).toList := by
    rw [loopPicked fun column member => (methodsPicked (words column member)).2, flatMapUnless]
  rw [classItems, List.filterMap_flatten, List.filterMap_flatten]
  simp only [List.map_cons, fields, getters, setters, get, set]
  exact ⟨List.append_nil _, List.append_nil _⟩

theorem methodLetters (words : ∀ column ∈ columns, Name.wellFormed column.1.toList = true)
    {name : List Char} (member : .method name ∈ columns.flatMap methodItems) :
    ∀ c ∈ name, c.isAlphanum = true := by
  obtain ⟨column, there, here⟩ := List.mem_flatMap.mp member
  rcases List.mem_append.mp here with get | set
  · rw [Item.method.inj (List.mem_singleton.mp get)]
    exact kindLetters (by decide) (words column there)
  · split at set
    · exact absurd set List.not_mem_nil
    · rw [Item.method.inj (List.mem_singleton.mp set)]
      exact kindLetters (by decide) (words column there)

theorem tablesListed (words : ∀ column ∈ columns, Name.wellFormed column.1.toList = true) :
    Item.table "get_getters" (classItems columns).flatten = columns.map (fun column =>
        (column.1.toList, ("get" ++ Name.accessorOf column.1).toList)) ∧
      Item.table "get_setters" (classItems columns).flatten =
        (columns.filter fun column => !column.2.1.auto).map fun column =>
          (column.1.toList, ("set" ++ Name.accessorOf column.1).toList) := by
  -- no accessor is named like the methods that hold the tables, since these have an underscore
  have fresh {name : String} (underscore : '_' ∈ name.toList) :
      .method name.toList ∉ columns.flatMap methodItems := fun member =>
    absurd (methodLetters words member _ underscore) (by decide)
  have fields {name : List Char} : .method name ∉ columns.flatMap fieldItems := by
    simp [fieldItems]
  have getters {name : List Char} : .method name ∉ columns.flatMap getterItems := by
    simp [getterItems]
  have setters {name : List Char} : .method name ∉ columns.flatMap setterItems := by
    simp [setterItems]
  have getterPairs : columns.flatMap getterItems = (columns.map fun column =>
      (column.1.toList, ("get" ++ Name.accessorOf column.1).toList)).map fun pair =>
        .entry pair.1 pair.2 := by
    unfold getterItems
    rw [List.map_map, List.map_eq_flatMap, Function.comp_def]
  have setterPairs : columns.flatMap setterItems = ((columns.filter fun column => !column.2.1.auto).map
      fun column => (column.1.toList, ("set" ++ Name.accessorOf column.1).toList)).map fun pair =>
        .entry pair.1 pair.2 := by
    unfold setterItems
    rw [flatMapUnless, List.map_map, Function.comp_def]
  constructor
  · rw [← List.take_append_drop 5 (classItems columns), List.flatten_append]
    refine Item.tableBetween (by decide) (freshAmong ?_) (freshAmong ?_) getterPairs
    · exact List.forall_mem_cons.mpr ⟨fields, List.forall_mem_cons.mpr ⟨by decide +kernel,
        List.forall_mem_cons.mpr ⟨fresh (by decide), List.forall_mem_cons.mpr ⟨by decide +kernel,
        List.forall_mem_singleton.mpr (by decide +kernel)⟩⟩⟩⟩
    · exact List.forall_mem_cons.mpr ⟨setters, List.forall_mem_singleton.mpr (by decide +kernel)⟩
  · rw [← List.take_append_drop 7 (classItems columns), List.flatten_append]
    refine Item.tableBetween (by decide) (freshAmong ?_) (by decide +kernel) setterPairs
    exact List.forall_mem_cons.mpr ⟨fields, List.forall_mem_cons.mpr ⟨by decide +kernel,
      List.forall_mem_cons.mpr ⟨fresh (by decide), List.forall_mem_cons.mpr ⟨by decide +kernel,
      List.forall_mem_cons.mpr ⟨by decide +kernel, List.forall_mem_cons.mpr ⟨by decide +kernel,
      List.forall_mem_singleton.mpr getters⟩⟩⟩⟩⟩⟩

end Roster

end Emit.Doctrine

namespace Emit.EntityFramework

section Roster
variable {columns : List (String × Column × String)}

theorem fieldsListed : (classItems columns).flatten.filterMap Item.field? =
    columns.map fun column => ("_" ++ column.1).toList := by
  have fields : (columns.flatMap fieldItems).filterMap Item.field? =
      columns.map fun column => '_' :: column.1.toList := loopMapped fun _ _ => rfl
  have properties : (columns.flatMap propertyItems).filterMap Item.field? = [] :=
    loopNone fun column _ => by unfold propertyItems; split <;> rfl
  have getters : (columns.flatMap getterItems).filterMap Item.field? = [] := loopNone fun _ _ => rfl
  have setters : (columns.flatMap setterItems).filterMap Item.field? = [] :=
    loopNone fun column _ => by unfold setterItems; split <;> rfl
  rw [classItems, List.filterMap_flatten]
  simp only [List.map_cons, fields, properties, getters, setters, String.toList_append]
  exact List.append_nil _

theorem propertiesListed : (classItems columns).flatten.filterMap Item.property? =
    columns.map fun column => (Name.accessorOf column.1).toList := by
  have fields : (columns.flatMap fieldItems).filterMap Item.property? = [] := loopNone fun _ _ => rfl
  have properties : (columns.flatMap propertyItems).filterMap Item.property? =
      columns.map fun column => (Name.accessorOf column.1).toList :=
    loopMapped fun column _ => by unfold propertyItems; split <;> rfl
  have getters : (columns.flatMap getterItems).filterMap Item.property? = [] := loopNone fun _ _ => rfl
  have setters : (columns.flatMap setterItems).filterMap Item.property? = [] :=
    loopNone fun column _ => by unfold setterItems; split <;> rfl
  rw [classItems, List.filterMap_flatten]
  simp only [List.map_cons, fields, properties, getters, setters]
  exact List.append_nil _

theorem propertiesSet {rest : List Item} (other : rest.head? ≠ some .setter) :
    (columns.flatMap propertyItems ++ rest).head? ≠ some .setter ∧
      Item.settable (columns.flatMap propertyItems ++ rest) =
        ((columns.filter fun column => !column.2.1.auto).map fun column =>
          (Name.accessorOf column.1).toList) ++ Item.settable rest := by
  induction columns with
  | nil => exact ⟨other, rfl⟩
  | cons column columns ih =>
    obtain ⟨apart, listed⟩ := ih
    rw [List.flatMap_cons, List.append_assoc, propertyItems]
    generalize columns.flatMap propertyItems ++ rest = tail at apart listed
    cases auto : column.2.1.auto <;> simp [auto, Item.settable, apart, listed]

theorem settersListed : Item.settable (classItems columns).flatten =
    (columns.filter fun column => !column.2.1.auto).map fun column =>
      (Name.accessorOf column.1).toList := by
  have front (name) : .property name ∉ ((classItems columns).take 3).flatten := by
    simp [classItems, fieldItems]
  have back (name) : .property name ∉ ((classItems columns).drop 4).flatten := by
    simp [classItems, getterItems, setterItems]
  have none : Item.settable ((classItems columns).drop 4).flatten = [] := by
    have skipped := Item.settableSkip back []
    rwa [List.append_nil] at skipped
  rw [← List.take_append_drop 3 (classItems columns), List.flatten_append, Item.settableSkip front]
  have loop : ((classItems columns).drop 3).flatten =
      columns.flatMap propertyItems ++ ((classItems columns).drop 4).flatten := rfl
  have other : ((classItems columns).drop 4).flatten.head? ≠ some .setter := by
    have first : ((classItems columns).drop 4).flatten.head? = some .other := rfl
    rw [first]
    decide
  rw [loop, (propertiesSet other).2, none, List.append_nil]

theorem tablesListed :
    Item.table "Get_Getters" (classItems columns).flatten = columns.map (fun column =>
        (column.1.toList, (Name.accessorOf column.1).toList)) ∧
      Item.table "Get_Setters" (classItems columns).flatten =
        (columns.filter fun column => !column.2.1.auto).map fun column =>
          (column.1.toList, (Name.accessorOf column.1).toList) := by
  have fields {name : List Char} : .method name ∉ columns.flatMap fieldItems := by
    simp [fieldItems]
  have properties {name : List Char} : .method name ∉ columns.flatMap propertyItems := by
    simp [propertyItems]
  have getters {name : List Char} : .method name ∉ columns.flatMap getterItems := by
    simp [getterItems]
  have setters {name : List Char} : .method name ∉ columns.flatMap setterItems := by
    simp [setterItems]
  have getterPairs : columns.flatMap getterItems = (columns.map fun column =>
      (column.1.toList, (Name.accessorOf column.1).toList)).map fun pair => .entry pair.1 pair.2 := by
    unfold getterItems
    rw [List.map_map, List.map_eq_flatMap, Function.comp_def]
  have setterPairs : columns.flatMap setterItems = ((columns.filter fun column => !column.2.1.auto).map
      fun column => (column.1.toList, (Name.accessorOf column.1).toList)).map fun pair =>
        .entry pair.1 pair.2 := by
    unfold setterItems
    rw [flatMapUnless, List.map_map, Function.comp_def]
  have front {name : String} (apart : name ∉ ["Copy_Columns_To", "Get_Columns"]) :
      ∀ segment ∈ (classItems columns).take 9, .method name.toList ∉ segment := by
    rw [List.mem_cons, List.mem_singleton, not_or, ← String.toList_inj, ← String.toList_inj] at apart
    simpa [classItems, fields, properties] using apart
  constructor
  · rw [← List.take_append_drop 9 (classItems columns), List.flatten_append]
    refine Item.tableBetween (by decide) (freshAmong (front (by decide)))
      (freshAmong ?_) getterPairs
    exact List.forall_mem_cons.mpr ⟨setters, List.forall_mem_singleton.mpr (by decide +kernel)⟩
  · rw [← List.take_append_drop 11 (classItems columns), List.flatten_append]
    refine Item.tableBetween (by decide) (freshAmong ?_) (by decide +kernel) setterPairs
    have split : (classItems columns).take 11 = (classItems columns).take 9 ++
      [[.method "Get_Getters".toList], columns.flatMap getterItems] := rfl
    rw [split]
    refine List.forall_mem_append.mpr ⟨front (by decide), List.forall_mem_cons.mpr ⟨by decide,
      List.forall_mem_singleton.mpr getters⟩⟩

end Roster

theorem classicBased : classic.Based where
  some := List.cons_ne_nil _ _
  solid := by decide +kernel
  plain base member c there := by
    have check : classic.baseTypes.all (fun base =>
        base.toList.all fun c => !Text.isBlank c && c != '(') = true := by decide +kernel
    simpa using List.all_eq_true.mp (List.all_eq_true.mp check base member) c there

theorem coreBased : core.Based where
  some := List.cons_ne_nil _ _
  solid := fun base member => classicBased.solid base (List.mem_cons_of_mem _ member)
  plain := fun base member => classicBased.plain base (List.mem_cons_of_mem _ member)

end Emit.EntityFramework

namespace Target

theorem nativeSolid (t : Target) {c : Column} {native : String}
    (mapped : t.types.mapColumn c = .ok native) : Emit.EntityFramework.Solid native := by
  have marker : t.types.marker.toList.all (fun c => !Text.isBlank c) = true := by cases t <;> decide
  refine t.nativeShaped (by cases t <;> decide) (fun base solid => ?_) mapped
  rw [Emit.EntityFramework.Solid, String.toList_append]
  refine ⟨List.append_ne_nil_of_left_ne_nil solid.1 _, List.forall_mem_append.mpr ⟨solid.2, ?_⟩⟩
  simpa using marker

end Target

section Rosters
variable {e : Entity} {options : Options} {files : List Artifact}

theorem Roster.ofTyped {columns : List (String × Column × String)}
    (entries : columns.map (fun column => (column.1, column.2.1)) = e.sorted)
    (field getter setter : String → String) : Roster.of field getter setter e.sorted =
      { fields := columns.map fun column => (field column.1).toList
        getters := columns.map fun column => (getter column.1).toList
        setters := (columns.filter fun column => !column.2.1.auto).map fun column =>
          (setter column.1).toList
        getterTable := columns.map fun column => (column.1.toList, (getter column.1).toList)
        setterTable := (columns.filter fun column => !column.2.1.auto).map fun column =>
          (column.1.toList, (setter column.1).toList) } := by
  rw [Roster.of, ← entries]
  simp only [List.map_map, List.filter_map, Function.comp_def]

theorem Emit.Doctrine.rosterEmitted (lined : e.Lined) (feed : options.lineEnding = .text "\n")
    (emitted : Doctrine.artifacts e options = .ok files) : ∃ main others,
      files = main :: others ∧ main.kind = "class" ∧
        Target.doctrine.roster main.content = e.roster .doctrine := by
  obtain ⟨columns, main, extension, dir, mapping, done, rendered, _, _, _, rfl⟩ := artifactsOk.mp emitted
  obtain ⟨entries, _⟩ := TypeTable.typedEntries (TypeTable.typedIff.mp done)
  have plain := lined.typed (t := .doctrine) done
  have words (column) (member : column ∈ columns) := (plain column member).1
  obtain ⟨texts, filled, read⟩ := Reader.readsRendered (r := .php) feed rendered
  obtain ⟨texts', filled', listed⟩ : Reader.Lists .php (scope e options columns) phpClass _ :=
    classListed lined plain
  cases filled.symm.trans filled'
  refine ⟨_, _, rfl, rfl, ?_⟩
  dsimp only [Target.roster, Entity.roster]
  obtain ⟨gets, sets⟩ := accessorsListed words
  obtain ⟨getters, setters⟩ := tablesListed words
  rw [read, listed, fieldsListed, gets, sets, getters, setters, Roster.ofTyped entries]
  rfl

theorem Emit.EntityFramework.rosterEmitted {flavor : Flavor} (sharp : flavor.target ≠ .doctrine)
    (based : flavor.Based) (fine : flavor.Lined) (lined : e.Lined)
    (named : Name.wellFormed e.name.toList = true) (feed : options.lineEnding = .text "\n")
    (emitted : EntityFramework.artifacts flavor e options = .ok files) : ∃ main others,
      files = main :: others ∧ main.kind = "class" ∧
        flavor.target.roster main.content = e.roster flavor.target := by
  obtain ⟨columns, main, extension, done, rendered, _, rfl⟩ := artifactsOk.mp emitted
  obtain ⟨entries, natives⟩ := TypeTable.typedEntries (TypeTable.typedIff.mp done)
  have plain (column) (member : column ∈ columns) :
      Name.wellFormed column.1.toList = true ∧ Solid column.2.2 :=
    ⟨(lined.typed done column member).1, flavor.target.nativeSolid (natives column member)⟩
  obtain ⟨texts, filled, read⟩ := Reader.readsRendered (r := .csharp) feed rendered
  obtain ⟨texts', filled', listed⟩ : Reader.Lists .csharp
      (scope flavor e options columns) csharpClass _ :=
    classListed based fine lined named plain
  cases filled.symm.trans filled'
  refine ⟨_, _, rfl, rfl, ?_⟩
  have roster (content : String) : flavor.target.roster content =
      Target.entityFramework.roster content := by
    cases target : flavor.target with
    | doctrine => exact absurd target sharp
    | _ => rfl
  have asked : e.roster flavor.target = e.roster .entityFramework := by
    cases target : flavor.target with
    | doctrine => exact absurd target sharp
    | _ => rfl
  rw [roster, asked]
  dsimp only [Target.roster, Entity.roster]
  obtain ⟨getters, setters⟩ := @tablesListed columns
  rw [read, listed, fieldsListed, propertiesListed, settersListed, getters, setters,
    Roster.ofTyped entries]

end Rosters

/- The class of an entity is there, unless the directory of the mappings stands in the way, and its lists
are those that the columns ask for: nothing is missing from one of them, nothing is there in excess. -/
theorem listsInStep {cwd : Location} {key : Value} {description : Description}
    {segments : List String} {outDir : Path} {e : Entity} {t : Target} {options : Options}
    (checked : Entity.normalize cwd key description segments outDir = .ok e)
    (accepted : ∀ column ∈ e.columns, t.types.accepts column.2 = true) (table : Short e.table)
    (spaces : ∀ segment ∈ segments, Short segment) (feed : options.lineEnding = .text "\n") :
    ((∃ files, t.emit e options = .ok files) ↔ t.Takes options) ∧
      ∀ files, t.emit e options = .ok files → ∃ main others, files = main :: others ∧
        main.kind = "class" ∧ t.roster main.content = e.roster t := by
  have lined := Entity.normalizeLined checked table spaces
  have named : Name.wellFormed e.name.toList = true := (readNameOk (normalizeOk checked).1).1
  refine ⟨t.emitTaken accepted feed, fun files emitted => ?_⟩
  cases t with
  | doctrine => exact Emit.Doctrine.rosterEmitted lined feed emitted
  | entityFramework =>
    exact Emit.EntityFramework.rosterEmitted (by decide) Emit.EntityFramework.classicBased
      Emit.EntityFramework.classicLined lined named feed emitted
  | entityFrameworkCore =>
    exact Emit.EntityFramework.rosterEmitted (by decide) Emit.EntityFramework.coreBased
      Emit.EntityFramework.coreLined lined named feed emitted

theorem accountLists :
    Entity.normalize [] (.text "Account") accountDescription ["App"] (.ofText "/w/out") =
        .ok accountEntity ∧
      (∀ column ∈ accountEntity.columns, Target.doctrine.types.accepts column.2 = true) ∧
      Short accountEntity.table ∧ (∀ segment ∈ ["App"], Short segment) ∧
      ∃ main others, Target.doctrine.emit accountEntity {} = .ok (main :: others) ∧
        Target.doctrine.roster main.content = {
          fields := ["_a1".toList, "Id".toList, "user__name".toList]
          getters := ["getA1".toList, "getId".toList, "getUserName".toList]
          setters := ["setA1".toList, "setUserName".toList]
          getterTable := [("_a1".toList, "getA1".toList), ("Id".toList, "getId".toList),
            ("user__name".toList, "getUserName".toList)]
          setterTable := [("_a1".toList, "setA1".toList), ("user__name".toList, "setUserName".toList)] } := by
  have accepted : ∀ column ∈ accountEntity.columns,
      Target.doctrine.types.accepts column.2 = true := by decide
  have table : Short accountEntity.table := by decide
  have spaces : ∀ segment ∈ ["App"], Short segment := by decide
  have feed : ({} : Options).lineEnding = .text "\n" := rfl
  have takes : Target.doctrine.Takes {} := fun _ given => absurd given Bool.false_ne_true
  obtain ⟨there, inStep⟩ := listsInStep accountNormal accepted table spaces feed
  obtain ⟨files, emitted⟩ := there.mpr takes
  obtain ⟨main, others, rfl, _, roster⟩ := inStep files emitted
  have sorted : accountEntity.sorted = accountEntity.columns :=
    Entity.sortedOf .rfl (by decide) (by decide)
  refine ⟨accountNormal, accepted, table, spaces, main, others, emitted, roster.trans ?_⟩
  rw [Entity.roster, sorted]
  decide +kernel

end EntityForge
