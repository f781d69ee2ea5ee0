import EntityForge.Proofs.Columns
import EntityForge.Target.Basic
import Mathlib.Data.List.Flatten

/-! Names of accessors. The accessor name of a column is its name without the underscores, the letter
behind each of them raised. So it has letters and digits only, and without regard to case it is what the
name is without underscores. An entity that nothing is remarked on has accessor names that differ as
they are written. -/
namespace EntityForge

namespace Name

theorem wordUpper {c : Char} (word : isWordChar c = true) (letter : c ≠ '_') :
    c.isAlphanum = true ∧ c.toUpper.isAlphanum = true ∧ c.toUpper.toLower = c.toLower ∧
      c.toUpper.isDigit = c.isDigit := by
  have small := wordSmall word
  have all : ∀ n < 128, isWordChar (Char.ofNat n) = true → Char.ofNat n ≠ '_' →
      (Char.ofNat n).isAlphanum = true ∧ (Char.ofNat n).toUpper.isAlphanum = true ∧
        (Char.ofNat n).toUpper.toLower = (Char.ofNat n).toLower ∧
        (Char.ofNat n).toUpper.isDigit = (Char.ofNat n).isDigit := by decide
  have here := all c.toNat small
  rw [Char.ofNat_toNat] at here
  exact here word letter

theorem wordLetter {c : Char} (letter : c.isAlphanum = true) : isWordChar c = true := by
  rw [isWordChar, letter, Bool.true_or]

theorem wordSeparator {c : Char} (word : isWordChar c = true) : isSeparator c = true ↔ c = '_' := by
  constructor
  · intro cut
    by_contra letter
    simp only [isSeparator, Bool.or_eq_true, beq_iff_eq] at cut
    rcases cut with (same | rfl) | rfl
    · exact letter same
    · cases word
    · cases word
  · rintro rfl
    rfl

/- The text without its underscores. The letter behind each of them is raised, and so is the first one
if the text starts a word. -/
def camel : (starts : Bool) → List Char → List Char
  | _, [] => []
  | starts, c :: rest =>
    if c = '_' then camel true rest else (if starts then c.toUpper else c) :: camel false rest

def raised (pieces : List (List Char)) : List Char :=
  ((pieces.map Text.strip).filter fun w => !w.isEmpty).flatMap capitalize

theorem raisedCons {piece : List Char} (words : ∀ c ∈ piece, isWordChar c = true)
    (pieces : List (List Char)) : raised (piece :: pieces) = capitalize piece ++ raised pieces := by
  have solid : Text.strip piece = piece :=
    Text.stripVisible fun c member => (wordLower (words c member)).2
  unfold raised
  rw [List.map_cons, solid]
  cases piece <;> rfl

theorem camelPieces {key : List Char} (words : ∀ c ∈ key, isWordChar c = true) :
    ∃ piece pieces, Text.splitAt isSeparator key = piece :: pieces ∧
      (∀ c ∈ piece, isWordChar c = true) ∧ camel false key = piece ++ raised pieces ∧
      camel true key = capitalize piece ++ raised pieces := by
  induction key with
  | nil => exact ⟨[], [], rfl, List.forall_mem_nil _, rfl, rfl⟩
  | cons c rest ih =>
    obtain ⟨here, later⟩ := List.forall_mem_cons.mp words
    obtain ⟨piece, pieces, cut, inner, lower, upper⟩ := ih later
    by_cases gap : c = '_'
    · refine ⟨[], piece :: pieces, ?_, List.forall_mem_nil _, ?_, ?_⟩
      · rw [Text.splitAt, if_pos ((wordSeparator here).mpr gap), cut]
      · rw [camel, if_pos gap, upper, raisedCons inner, List.nil_append]
      · rw [camel, if_pos gap, upper, raisedCons inner, capitalize, List.nil_append]
    · have raise : Text.upperChar c = [c.toUpper] := if_pos (wordSmall here)
      refine ⟨c :: piece, pieces, ?_, List.forall_mem_cons.mpr ⟨here, inner⟩, ?_, ?_⟩
      · rw [Text.splitAt, if_neg (mt (wordSeparator here).mp gap), cut]
      · rw [camel, if_neg gap, lower]
        rfl
      · rw [camel, if_neg gap, lower, capitalize, raise]
        rfl

theorem accessorCamel {key : List Char} (words : ∀ c ∈ key, isWordChar c = true) :
    accessor key = camel true key := by
  obtain ⟨piece, pieces, cut, inner, _, upper⟩ := camelPieces words
  rw [upper, ← raisedCons inner, ← cut]
  rfl

section Camel
variable {key : List Char} (words : ∀ c ∈ key, isWordChar c = true) (starts : Bool)
include words

theorem camelLetters : ∀ c ∈ camel starts key, c.isAlphanum = true := by
  induction key generalizing starts with
  | nil => exact List.forall_mem_nil _
  | cons c rest ih =>
    obtain ⟨here, later⟩ := List.forall_mem_cons.mp words
    rw [camel]
    split
    next => exact ih later true
    next letter =>
      obtain ⟨lower, upper, _⟩ := wordUpper here letter
      refine List.forall_mem_cons.mpr ⟨?_, ih later false⟩
      cases starts with
      | false => exact lower
      | true => exact upper

theorem camelLower :
    (camel starts key).map Char.toLower = (key.filter (· != '_')).map Char.toLower := by
  induction key generalizing starts with
  | nil => rfl
  | cons c rest ih =>
    obtain ⟨here, later⟩ := List.forall_mem_cons.mp words
    rw [camel]
    split
    next gap => rw [ih later, List.filter_cons_of_neg (by simp [gap])]
    next letter =>
      rw [List.filter_cons_of_pos (by simp [letter]), List.map_cons, List.map_cons, ih later]
      cases starts with
      | false => rfl
      | true => rw [if_pos rfl, (wordUpper here letter).2.2.1]

theorem camelValid : wellFormed (camel starts key) = true ↔
    ∃ c, key.find? (· != '_') = some c ∧ c.isDigit = false := by
  induction key generalizing starts with
  | nil => simp [camel, wellFormed]
  | cons c rest ih =>
    obtain ⟨here, later⟩ := List.forall_mem_cons.mp words
    rw [camel]
    split
    next gap => rw [ih later, List.find?_cons_of_neg (by simp [gap])]
    next letter =>
      obtain ⟨_, upper, _, digit⟩ := wordUpper here letter
      have tail : (camel false rest).all isWordChar = true :=
        List.all_eq_true.mpr fun d member => wordLetter (camelLetters later false d member)
      rw [List.find?_cons_of_pos (by simp [letter]), wellFormed, tail]
      cases starts with
      | false => simp [here]
      | true => simp [wordLetter upper, digit]

end Camel

section Accessor
variable {name : String} (words : wellFormed name.toList = true)
include words

theorem accessorText : (accessorOf name).toList = camel true name.toList := by
  rw [accessorOf, String.toList_ofList, accessorCamel (wordChars words)]

theorem accessorLetters : ∀ c ∈ (accessorOf name).toList, c.isAlphanum = true := by
  rw [accessorText words]
  exact camelLetters (wordChars words) true

theorem accessorWords : ∀ c ∈ (accessorOf name).toList, isWordChar c = true :=
  fun c member => wordLetter (accessorLetters words c member)

theorem accessorVisible : ∀ c ∈ (accessorOf name).toList, Text.isBlank c = false :=
  fun c member => (wordLower (accessorWords words c member)).2

theorem accessorLower : (accessorOf name).toList.map Char.toLower =
    (name.toList.filter (· != '_')).map Char.toLower := by
  rw [accessorText words]
  exact camelLower (wordChars words) true

theorem accessorValid : (read? (.text (accessorOf name))).isSome = true ↔
    ∃ c, name.toList.find? (· != '_') = some c ∧ c.isDigit = false := by
  have solid : Text.strip (accessorOf name).toList = (accessorOf name).toList :=
    Text.stripVisible (accessorVisible words)
  have plain : Value.plain (.text (accessorOf name)) = accessorOf name := rfl
  rw [← camelValid (wordChars words) true, ← accessorText words, read?, plain, solid]
  split <;> simp [*]

end Accessor

theorem collisionsGoNone {owners methods : List (String × String)} :
    collisions.go owners methods = [] ↔
      (methods.map Prod.snd).Nodup ∧ ∀ suffix ∈ methods.map Prod.snd, owners.lookup suffix = none := by
  induction methods generalizing owners with
  | nil => simp [collisions.go]
  | cons method rest ih =>
    obtain ⟨column, suffix⟩ := method
    rw [collisions.go, List.map_cons, List.nodup_cons, List.forall_mem_cons]
    cases met : owners.lookup suffix with
    | some other => simp
    | none =>
      dsimp only
      rw [ih]
      constructor
      · rintro ⟨apart, fresh⟩
        refine ⟨⟨fun again => ?_, apart⟩, rfl, fun other member => ?_⟩
        · simpa using fresh suffix again
        · have unmet := fresh other member
          rw [List.lookup_cons] at unmet
          split at unmet
          · cases unmet
          · exact unmet
      · rintro ⟨⟨new, apart⟩, _, fresh⟩
        refine ⟨apart, fun other member => ?_⟩
        have differs : (other == suffix) = false := by
          rw [beq_eq_false_iff_ne]
          rintro rfl
          exact new member
        rw [List.lookup_cons, differs]
        exact fresh other member

theorem collisionsNone {methods : List (String × String)} :
    collisions methods = [] ↔ (methods.map Prod.snd).Nodup := by
  rw [collisions, collisionsGoNone]
  simp

end Name

namespace Entity

def accessors (e : Entity) : List String := e.columns.map fun column => Name.accessorOf column.1

theorem methodsPerm (e : Entity) : (e.methods.map Prod.snd).Perm e.accessors := by
  rw [methods, columnNames, List.map_map, List.map_map]
  exact (sortedPerm e).map _

theorem warningsNone (t : Target) (e : Entity) : t.warnings e = [] ↔ e.columns ≠ [] ∧
    "" ∉ e.accessors ∧ e.accessors.Nodup ∧ (t ≠ .doctrine → e.name ∉ e.accessors) := by
  have nameless (s : String) : e.methods.filter (fun m => m.2 = s) = [] ↔ s ∉ e.accessors := by
    rw [← (methodsPerm e).mem_iff, List.filter_eq_nil_iff, List.mem_map, not_exists]
    exact forall_congr' fun m => by rw [decide_eq_true_eq, not_and]
  have shared : e.warnings = [] ↔ e.columns ≠ [] ∧ "" ∉ e.accessors ∧ e.accessors.Nodup := by
    unfold warnings
    rw [List.append_eq_nil_iff, List.append_eq_nil_iff, List.map_eq_nil_iff, List.map_eq_nil_iff,
      nameless, Name.collisionsNone, (methodsPerm e).nodup_iff, and_assoc]
    simp
  have members : e.memberWarnings = [] ↔ e.name ∉ e.accessors := by
    rw [memberWarnings, List.map_eq_nil_iff, nameless]
  cases t <;> simp [Target.warnings, shared, members, and_assoc]

end Entity

namespace Emit.Doctrine

def methodNames (column : String × Column) : List String :=
  ("get" ++ Name.accessorOf column.1) ::
    if column.2.auto then [] else ["set" ++ Name.accessorOf column.1]

section Apart
variable {g : Char → Char} {column : String × Column}

theorem methodShape {text : List Char}
    (member : text ∈ (methodNames column).map fun s => s.toList.map g) : ∃ first,
      text = first :: g 'e' :: g 't' :: (Name.accessorOf column.1).toList.map g := by
  rw [methodNames, List.map_cons, List.mem_cons] at member
  rcases member with getter | later
  · exact ⟨g 'g', by simp [getter]⟩
  · cases auto : column.2.auto with
    | true => simp [auto] at later
    | false => exact ⟨g 's', by simpa [auto] using later⟩

theorem methodsApart (apart : g 'g' ≠ g 's') (columns : List (String × Column)) :
    ((columns.flatMap methodNames).map fun s => s.toList.map g).Nodup ↔
      (columns.map fun column => (Name.accessorOf column.1).toList.map g).Nodup := by
  constructor
  · intro distinct
    have getters : (columns.flatMap fun column => ["get" ++ Name.accessorOf column.1]).Sublist
        (columns.flatMap methodNames) :=
      .flatMap_right columns fun column _ => (List.nil_sublist _).cons_cons _
    have distinct := distinct.sublist (getters.map fun s => s.toList.map g)
    refine List.Nodup.of_map (['g', 'e', 't'].map g ++ ·) ?_
    rw [← List.map_eq_flatMap, List.map_map] at distinct
    rw [List.map_map]
    simpa [Function.comp_def] using distinct
  · intro distinct
    rw [List.map_flatMap, List.nodup_flatMap]
    refine ⟨fun column _ => ?_, (List.pairwise_map.mp distinct).imp fun differ => ?_⟩
    · cases auto : column.2.auto <;> simp [methodNames, auto, apart]
    · intro text first next
      obtain ⟨c, rfl⟩ := methodShape first
      obtain ⟨d, same⟩ := methodShape next
      simp only [List.cons.injEq, true_and] at same
      exact differ same.2

theorem methodsDiffer (columns : List (String × Column)) : (columns.flatMap methodNames).Nodup ↔
    (columns.map fun column => Name.accessorOf column.1).Nodup := by
  have same : Function.Injective fun s : String => s.toList.map id := fun a b same =>
    String.toList_injective (by simpa using same)
  rw [← List.nodup_map_iff same, methodsApart (by decide), ← List.nodup_map_iff same, List.map_map,
    Function.comp_def]

end Apart

end Emit.Doctrine

end EntityForge
