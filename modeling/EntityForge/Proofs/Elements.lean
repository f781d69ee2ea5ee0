import EntityForge.Proofs.Firsts
import EntityForge.Proofs.Keys
import EntityForge.Xml.Element

/-! Elements as data. An element with children or attributes is a mapping that has an entry for every
name among them, in the order in which the names first occur, with all values of that name. -/
namespace EntityForge.Xml
open InputFiles (firstsApart firstsSnoc)

def valuesOf (named : List (String × Value)) (name : String) : List Value :=
  (named.filter fun entry => entry.1 = name).map Prod.snd

section Gathering
variable {names : List String} {name : String}

theorem addGroup (apart : names.Nodup) (values : String → List Value) (value : Value) :
    Groups.add name value (names.map fun n => (n, values n)) =
      if name ∈ names then names.map fun n => (n, if n = name then values n ++ [value] else values n)
      else names.map (fun n => (n, values n)) ++ [(name, [value])] := by
  induction names with
  | nil => rfl
  | cons n rest ih =>
    obtain ⟨new, apart⟩ := List.nodup_cons.mp apart
    rw [List.map_cons, Groups.add]
    by_cases here : n = name
    · subst here
      have others : ∀ m ∈ rest,
          (m, values m) = (m, if m = n then values m ++ [value] else values m) :=
        fun m member => by rw [if_neg (ne_of_mem_of_not_mem member new)]
      rw [if_pos rfl, if_pos List.mem_cons_self, List.map_cons, if_pos rfl, List.map_congr_left others]
    · rw [if_neg here, ih apart]
      by_cases later : name ∈ rest <;> simp [later, here, Ne.symm here]

theorem gatherGroups (named : List (String × Value)) :
    named.foldl (fun groups (name, value) => Groups.add name value groups) [] =
      (named.map Prod.fst).eraseDups.map fun name => (name, valuesOf named name) := by
  induction named using List.reverseRecOn with
  | nil => rfl
  | append_singleton front last ih =>
    obtain ⟨name, value⟩ := last
    have more (n : String) : valuesOf (front ++ [(name, value)]) n =
        if n = name then valuesOf front n ++ [value] else valuesOf front n := by
      by_cases here : n = name
      · simp [valuesOf, here]
      · simp [valuesOf, here, Ne.symm here]
    rw [List.foldl_append, ih]
    dsimp only [List.foldl_cons, List.foldl_nil]
    rw [addGroup (firstsApart _), List.map_append, List.map_singleton, firstsSnoc]
    simp only [List.mem_eraseDups, more]
    split
    · rfl
    next new =>
      have first : valuesOf front name = [] := by
        rw [valuesOf, List.map_eq_nil_iff, List.filter_eq_nil_iff]
        intro entry member
        rw [decide_eq_true_eq]
        rintro rfl
        exact new (List.mem_map_of_mem member)
      have others : ∀ n ∈ (front.map Prod.fst).eraseDups, (n, valuesOf front n) =
          (n, if n = name then valuesOf front n ++ [value] else valuesOf front n) :=
        fun n member => by rw [if_neg (ne_of_mem_of_not_mem (List.mem_eraseDups.mp member) new)]
      rw [List.map_append, List.map_congr_left others, List.map_singleton, if_pos rfl, first]
      rfl

theorem insertName (apart : names.Nodup) (values : String → Value) (value : Value) :
    Entries.insert (names.map fun n => (.text n, values n)) (.text name) value =
      if name ∈ names then names.map fun n => (.text n, if n = name then value else values n)
      else names.map (fun n => (.text n, values n)) ++ [(.text name, value)] := by
  induction names with
  | nil => rfl
  | cons n rest ih =>
    obtain ⟨new, apart⟩ := List.nodup_cons.mp apart
    rw [List.map_cons, Entries.insert, Value.textKey]
    by_cases here : n = name
    · subst here
      have others : ∀ m ∈ rest,
          (Value.text m, values m) = (.text m, if m = n then value else values m) :=
        fun m member => by rw [if_neg (ne_of_mem_of_not_mem member new)]
      rw [if_pos (beq_self_eq_true n), if_pos List.mem_cons_self, List.map_cons, if_pos rfl,
        List.map_congr_left others]
    · rw [if_neg (by simpa using here), ih apart]
      by_cases later : name ∈ rest <;> simp [later, here, Ne.symm here]

theorem fieldNames (values : String → Value) :
    Entries.field? (names.map fun n => (.text n, values n)) name =
      if name ∈ names then some (values name) else none := by
  induction names with
  | nil => rfl
  | cons n rest ih =>
    unfold Entries.field? at ih ⊢
    rw [List.map_cons, Entries.getCons, Value.textKey, ih]
    by_cases here : n = name
    · simp [here]
    · simp [here, Ne.symm here]

end Gathering

section Values
variable (attributes : List (String × String)) (children : List Element)

theorem childrenNamed : childValues children = children.map fun child => (child.tag, child.toValue) := by
  induction children with
  | nil => simp [childValues]
  | cons child rest ih => simp [childValues, ih]

def occurrences (name : String) : List Value :=
  (attributes.filter fun a => a.1 = name).map (fun a => .text a.2) ++
    (children.filter fun child => child.tag = name).map Element.toValue

def named : List (String × Value) :=
  attributes.map (fun a => (a.1, .text a.2)) ++ children.map fun child => (child.tag, child.toValue)

theorem toValueGathered (some : ¬ (attributes = [] ∧ children = [])) (tag text : String) :
    (Element.mk tag attributes text children).toValue = .map (mappingOf
      ((named attributes children).foldl (fun groups (name, value) => Groups.add name value groups) [])
      (Text.trim text)) := by
  have filled : (children.isEmpty && attributes.isEmpty) = false := by
    rw [Bool.and_eq_false_iff, List.isEmpty_eq_false_iff, List.isEmpty_eq_false_iff]
    exact (not_and_or.mp some).symm
  rw [Element.toValue, filled, childrenNamed]
  rfl

theorem occurrencesOf (name : String) :
    valuesOf (named attributes children) name = occurrences attributes children name := by
  rw [valuesOf, named, List.filter_append, List.map_append, occurrences, List.filter_map,
    List.filter_map, List.map_map, List.map_map]
  rfl

def namesOf (text : String) : List String :=
  attributes.map Prod.fst ++ children.map Element.tag ++ if Text.trim text = "" then [] else ["_"]

def heldFor (text name : String) : Value :=
  if name = "_" ∧ Text.trim text ≠ "" then .text (Text.trim text)
  else gathered (occurrences attributes children name)

theorem toValueNames (some : ¬ (attributes = [] ∧ children = [])) (tag text : String) :
    (Element.mk tag attributes text children).toValue = .map
      ((namesOf attributes children text).eraseDups.map fun name =>
        (.text name, heldFor attributes children text name)) := by
  have names : (named attributes children).map Prod.fst =
      attributes.map Prod.fst ++ children.map Element.tag := by
    rw [named, List.map_append, List.map_map, List.map_map]
    rfl
  rw [toValueGathered attributes children some, gatherGroups, names, mappingOf, List.map_map]
  simp only [Function.comp_def, occurrencesOf]
  by_cases blank : Text.trim text = ""
  · rw [if_pos blank, namesOf, if_pos blank, List.append_nil]
    simp [heldFor, blank]
  · rw [if_neg blank, insertName (firstsApart _), namesOf, if_neg blank, firstsSnoc]
    simp only [List.mem_eraseDups, heldFor, ne_eq, blank, not_false_eq_true, and_true]
    split
    · rfl
    next new =>
      have others : ∀ n ∈ (attributes.map Prod.fst ++ children.map Element.tag).eraseDups,
          (Value.text n, gathered (occurrences attributes children n)) = (.text n,
            if n = "_" then .text (Text.trim text)
            else gathered (occurrences attributes children n)) :=
        fun n member => by rw [if_neg (ne_of_mem_of_not_mem (List.mem_eraseDups.mp member) new)]
      rw [List.map_append, List.map_congr_left others, List.map_singleton, if_pos rfl]

end Values

structure Mapped (attributes : List (String × String)) (children : List Element) (text : String)
    (entries : Entries) : Prop where
  names : entries.map Prod.fst = (namesOf attributes children text).eraseDups.map .text
  single : ∀ name value, name ≠ "_" ∨ Text.trim text = "" →
    occurrences attributes children name = [value] → entries.field? name = some value
  several : ∀ name, name ≠ "_" ∨ Text.trim text = "" →
    2 ≤ (occurrences attributes children name).length →
      entries.field? name = some (.list (occurrences attributes children name))
  text : Text.trim text ≠ "" → entries.field? "_" = some (.text (Text.trim text))

section Elements
variable {attributes : List (String × String)} {children : List Element} {text name : String}

theorem occurrencesNamed (some : occurrences attributes children name ≠ []) :
    name ∈ (namesOf attributes children text).eraseDups := by
  rw [List.mem_eraseDups]
  refine List.mem_append_left _ (List.mem_append.mpr ?_)
  obtain ⟨value, member⟩ := List.exists_mem_of_ne_nil _ some
  rcases List.mem_append.mp member with own | own
  · obtain ⟨a, listed, _⟩ := List.mem_map.mp own
    obtain ⟨there, same⟩ := List.mem_filter.mp listed
    exact .inl (List.mem_map.mpr ⟨a, there, of_decide_eq_true same⟩)
  · obtain ⟨child, listed, _⟩ := List.mem_map.mp own
    obtain ⟨there, same⟩ := List.mem_filter.mp listed
    exact .inr (List.mem_map.mpr ⟨child, there, of_decide_eq_true same⟩)

theorem fieldGathered (free : name ≠ "_" ∨ Text.trim text = "")
    (some : occurrences attributes children name ≠ []) :
    Entries.field? ((namesOf attributes children text).eraseDups.map fun name =>
      (.text name, heldFor attributes children text name)) name =
        .some (gathered (occurrences attributes children name)) := by
  have untaken : ¬ (name = "_" ∧ Text.trim text ≠ "") := fun both =>
    free.elim (fun other => other both.1) (fun blank => both.2 blank)
  rw [fieldNames, if_pos (occurrencesNamed some), heldFor, if_neg untaken]

theorem gatheredSeveral {values : List Value} (several : 2 ≤ values.length) :
    gathered values = .list values := by
  match values, several with
  | _ :: _ :: _, _ => rfl

theorem nothingLost (tag text : String) (attributes : List (String × String)) (children : List Element) :
    (attributes = [] → children = [] →
      (Element.mk tag attributes text children).toValue = .text (Text.trim text)) ∧
    (attributes ≠ [] ∨ children ≠ [] → ∃ entries,
      (Element.mk tag attributes text children).toValue = .map entries ∧
        Mapped attributes children text entries) := by
  constructor
  · rintro rfl rfl
    simp [Element.toValue]
  · intro some
    refine ⟨_, toValueNames attributes children (not_and_or.mpr some) tag text, ?_, ?_, ?_, ?_⟩
    · rw [List.map_map]
      rfl
    · intro name value free one
      rw [fieldGathered free (by simp [one]), one]
      rfl
    · intro name free several
      rw [fieldGathered free (List.ne_nil_of_length_pos (by omega)), gatheredSeveral several]
    · intro shown
      have named : "_" ∈ (namesOf attributes children text).eraseDups := by
        rw [List.mem_eraseDups, namesOf, if_neg shown]
        exact List.mem_append_right _ List.mem_cons_self
      rw [fieldNames, if_pos named, heldFor, if_pos ⟨rfl, shown⟩]

def orderAttributes : List (String × String) := [("a", "1"), ("_", "u")]

def orderChildren : List Element :=
  [.mk "b" [] " x " [], .mk "a" [] "2" [], .mk "b" [("c", "3")] "\n" []]

def orderEntries : Entries :=
  [(.text "a", .list [.text "1", .text "2"]), (.text "_", .text "lead"),
    (.text "b", .list [.text "x", .map [(.text "c", .text "3")]])]

theorem orderMapped : orderAttributes ≠ [] ∧
    (Element.mk "e" orderAttributes " lead " orderChildren).toValue = .map orderEntries ∧
      Mapped orderAttributes orderChildren " lead " orderEntries := by
  have some : orderAttributes ≠ [] := List.cons_ne_nil _ _
  obtain ⟨entries, same, mapped⟩ :=
    (nothingLost "e" " lead " orderAttributes orderChildren).2 (.inl some)
  have read : (Element.mk "e" orderAttributes " lead " orderChildren).toValue = .map orderEntries := by
    rfl
  obtain rfl := Value.map.inj (read.symm.trans same)
  exact ⟨some, read, mapped⟩

end Elements

section OnePass
variable {groups : Groups} {name : String} {value : Value}

def joined (value : Value) : Value → Value
  | .list values => .list (values ++ [value])
  | first => .list [first, value]

def absorb (entries : Entries) (name : String) (value : Value) : Entries :=
  match entries.field? name with
  | some held => entries.insert (.text name) (joined value held)
  | none => entries.insert (.text name) value

def absorbAll (named : List (String × Value)) : Entries :=
  named.foldl (fun entries (name, value) => absorb entries name value) []

def Bare (value : Value) : Prop := ∀ items, value ≠ .list items

def Telling (groups : Groups) : Prop := ∀ group ∈ groups, group.2 ≠ [] ∧ ∀ value ∈ group.2, Bare value

theorem toValueBare (e : Element) : Bare e.toValue := by
  obtain ⟨tag, attributes, text, children⟩ := e
  intro items
  rw [Element.toValue]
  dsimp only
  split <;> nofun

theorem absorbCons (n : String) (held : Value) (rest : Entries) :
    absorb ((.text n, held) :: rest) name value =
      if n = name then (.text n, joined value held) :: rest
      else (.text n, held) :: absorb rest name value := by
  unfold absorb Entries.field?
  rw [Entries.getCons, Value.textKey]
  by_cases here : n = name
  · simp [here, Entries.insert, Value.sameKey]
  · rw [if_neg (by simpa using here), if_neg here]
    cases Entries.get? rest (.text name) <;> simp [Entries.insert, Value.textKey, here]

theorem joinedGathered {values : List Value} (some : values ≠ []) (bare : ∀ v ∈ values, Bare v) :
    joined value (gathered values) = gathered (values ++ [value]) := by
  match values, some with
  | [v], _ =>
    have own := bare v List.mem_cons_self
    cases v with
    | list items => exact absurd rfl (own items)
    | _ => rfl
  | _ :: _ :: _, _ => rfl

def shownGroups (groups : Groups) : Entries :=
  groups.map fun (name, values) => (.text name, gathered values)

theorem absorbGroup (telling : Telling groups) :
    absorb (shownGroups groups) name value = shownGroups (Groups.add name value groups) := by
  induction groups with
  | nil => rfl
  | cons group rest ih =>
    obtain ⟨n, values⟩ := group
    obtain ⟨⟨some, bare⟩, later⟩ := List.forall_mem_cons.mp telling
    have parts : shownGroups ((n, values) :: rest) =
        (.text n, gathered values) :: shownGroups rest := rfl
    rw [parts, absorbCons, Groups.add]
    split
    · rw [joinedGathered some bare]
      rfl
    · rw [ih later]
      rfl

theorem addTelling (telling : Telling groups) (bare : Bare value) :
    Telling (Groups.add name value groups) := by
  induction groups with
  | nil => simpa [Telling, Groups.add] using bare
  | cons group rest ih =>
    obtain ⟨here, later⟩ := List.forall_mem_cons.mp telling
    rw [Groups.add]
    split
    · refine List.forall_mem_cons.mpr ⟨⟨by simp, ?_⟩, later⟩
      exact List.forall_mem_append.mpr ⟨here.2, List.forall_mem_cons.mpr ⟨bare, nofun⟩⟩
    · exact List.forall_mem_cons.mpr ⟨here, ih later⟩

theorem absorbGroups {entries : List (String × Value)} (bare : ∀ entry ∈ entries, Bare entry.2)
    (telling : Telling groups) :
    entries.foldl (fun entries (name, value) => absorb entries name value) (shownGroups groups) =
      shownGroups (entries.foldl (fun groups (name, value) => Groups.add name value groups) groups) := by
  induction entries generalizing groups with
  | nil => rfl
  | cons entry rest ih =>
    obtain ⟨here, later⟩ := List.forall_mem_cons.mp bare
    rw [List.foldl_cons, List.foldl_cons, ← ih later (addTelling telling here)]
    exact congrArg (List.foldl _ · rest) (absorbGroup telling)

/- The mapping can be filled in one pass, as no converted value is taken for a list that grows. -/
theorem toValueOnePass {attributes : List (String × String)} {children : List Element}
    (some : ¬ (attributes = [] ∧ children = [])) (tag text : String) :
    (Element.mk tag attributes text children).toValue = .map
      (if Text.trim text = "" then absorbAll (named attributes children)
      else Entries.insert (absorbAll (named attributes children)) (.text "_") (.text (Text.trim text))) := by
  have bare : ∀ entry ∈ named attributes children, Bare entry.2 := by
    refine List.forall_mem_append.mpr ⟨?_, ?_⟩
    · exact List.forall_mem_map.mpr fun a _ => nofun
    · exact List.forall_mem_map.mpr fun child _ => toValueBare child
  have filled : absorbAll (named attributes children) = shownGroups _ :=
    absorbGroups bare (nofun : Telling [])
  rw [toValueGathered attributes children some, filled]
  rfl

end OnePass

end EntityForge.Xml
