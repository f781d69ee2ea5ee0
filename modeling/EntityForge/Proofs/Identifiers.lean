import EntityForge.Proofs.Blanks
import EntityForge.Proofs.Normalization

/-! Which values are names. Without the blanks around it, a name is an ASCII letter or an underscore and
then ASCII letters, digits and underscores. A pattern for word characters says less, as its end may
stand before a last line break and other scripts have digits of their own; after trimming, the pattern
and a first character that is no digit come to the same names. -/
namespace EntityForge

namespace Name

def Letter (c : Char) : Prop := ('A' ≤ c ∧ c ≤ 'Z') ∨ ('a' ≤ c ∧ c ≤ 'z') ∨ c = '_'

def Digit (c : Char) : Prop := '0' ≤ c ∧ c ≤ '9'

def Word (c : Char) : Prop := Letter c ∨ Digit c

inductive Identifier : List Char → Prop where
  | spelled {first : Char} {rest : List Char} (starts : Letter first)
      (continues : ∀ c ∈ rest, Word c) : Identifier (first :: rest)

def WordLine (s : List Char) : Prop :=
  ∃ word, word ≠ [] ∧ (∀ c ∈ word, Word c) ∧ (s = word ∨ s = word ++ ['\n'])

section Grammar
variable {c : Char} {s : List Char}

theorem digitIff : c.isDigit = true ↔ Digit c := by
  have shape : c.isDigit = (decide (c.val ≥ '0'.val) && decide (c.val ≤ '9'.val)) := rfl
  rw [shape, Bool.and_eq_true, decide_eq_true_eq, decide_eq_true_eq]
  rfl

theorem wordIff : isWordChar c = true ↔ Word c := by
  simp only [wordShape, Bool.or_eq_true, Bool.and_eq_true, decide_eq_true_eq, beq_iff_eq, ge_iff_le,
    Word, Letter, Digit, Char.le_def]
  tauto

theorem letterIff : isWordChar c = true ∧ c.isDigit = false ↔ Letter c := by
  rw [wordIff, ← Bool.not_eq_true, digitIff, Word]
  refine ⟨fun ⟨word, other⟩ => word.resolve_right other, fun letter => ⟨.inl letter, fun digit => ?_⟩⟩
  simp only [Letter, Digit, Char.le_def, UInt32.le_iff_toNat_le] at letter digit
  rcases letter with upper | lower | rfl
  · exact absurd (upper.1.trans digit.2) (by decide)
  · exact absurd (lower.1.trans digit.2) (by decide)
  · exact absurd digit.2 (by decide)

theorem identifierIff : wellFormed s = true ↔ Identifier s := by
  cases s with
  | nil =>
    constructor
    · intro bad
      cases bad
    · intro bad
      cases bad
  | cons first rest =>
    have inner : rest.all isWordChar = true ↔ ∀ c ∈ rest, Word c := by
      simp only [List.all_eq_true, wordIff]
    rw [wellFormed, Bool.and_eq_true, Bool.and_eq_true, Bool.not_eq_true', letterIff, inner]
    constructor
    · rintro ⟨starts, continues⟩
      exact .spelled starts continues
    · intro spelled
      cases spelled with
      | spelled starts continues => exact ⟨starts, continues⟩

theorem wordLineTrimmed : WordLine (Text.strip s) ↔
    Text.strip s ≠ [] ∧ ∀ c ∈ Text.strip s, Word c := by
  refine ⟨?_, fun ⟨filled, words⟩ => ⟨_, filled, words, .inl rfl⟩⟩
  rintro ⟨word, filled, words, same | broken⟩
  · exact same ▸ ⟨filled, words⟩
  · have blank : Text.Blank ['\n'] := by simp [Text.Blank, Text.isBlank]
    have shorter : Text.strip s = Text.strip word := by
      rw [← Text.stripIdem, broken]
      simpa using Text.stripAround .nil blank word
    have inside : '\n' ∈ Text.strip word := by simp [← shorter, broken]
    exact absurd (wordIff.mpr (words _ (Text.stripSubset word inside))) (by decide)

end Grammar

theorem patternExact (s : List Char) {digit : Char → Bool}
    (ascii : ∀ c, c.toNat < 128 → digit c = c.isDigit) : Identifier (Text.strip s) ↔
      WordLine (Text.strip s) ∧ ∀ c ∈ (Text.strip s).head?, digit c = false := by
  rw [wordLineTrimmed]
  cases Text.strip s with
  | nil => exact ⟨nofun, fun checked => absurd rfl checked.1.1⟩
  | cons first rest =>
    have starts (word : Word first) : Letter first ↔ digit first = false := by
      have char := wordIff.mpr word
      rw [← letterIff, ascii first (wordSmall char)]
      exact and_iff_right char
    simp only [List.head?_cons, Option.mem_some_iff, forall_eq', ne_eq, reduceCtorEq, not_false_eq_true,
      true_and, List.forall_mem_cons]
    constructor
    · rintro ⟨letter, continues⟩
      exact ⟨⟨.inl letter, continues⟩, (starts (.inl letter)).mp letter⟩
    · rintro ⟨⟨word, continues⟩, other⟩
      exact .spelled ((starts word).mpr other) continues

theorem wordPlain {c : Char} (word : Word c) : c.toNat < 128 ∧ Text.isBlank c = false ∧
    c ∉ ['.', '/', '\\', '"', '\''] := by
  have char := wordIff.mpr word
  refine ⟨wordSmall char, (wordLower char).2, fun member => ?_⟩
  have none : ['.', '/', '\\', '"', '\''].all (fun d => !isWordChar d) = true := by decide
  simpa [char] using List.all_eq_true.mp none c member

end Name

namespace Entity
variable {raw : Value} {kind name : String}

theorem namedIdentifier : Named raw ↔ Name.Identifier (Text.strip raw.plain.toList) := by
  rw [Named, nameIn, Text.trim, String.toList_ofList, Name.identifierIff]

theorem readNameIff : readName raw kind = .ok name ↔ Named raw ∧ name = nameIn raw := by
  constructor
  · intro ok
    obtain ⟨words, rfl⟩ := readNameOk ok
    exact ⟨words, rfl⟩
  · rintro ⟨named, rfl⟩
    rw [readName, readNamed named]

theorem readNameRefused {failure : Failure} : readName raw kind = .error failure ↔
    ¬ Named raw ∧ failure = .invalidName raw.plain kind := by
  by_cases named : Named raw
  · simp [readName, readNamed named, named]
  · simp [readName, readUnnamed named, named, eq_comm]

theorem readNameAgain (ok : readName raw kind = .ok name) (other : String) :
    readName (.text name) other = .ok name := by
  obtain ⟨named, rfl⟩ := readNameIff.mp ok
  have kept : nameIn (.text (nameIn raw)) = nameIn raw := Text.trimIdem raw.plain
  refine readNameIff.mpr ⟨?_, kept.symm⟩
  rw [Named, kept]
  exact named

/- A value is a name exactly if its text, trimmed, is spelled like one, and then that is the name; every
other value is refused with its text as it stands. What has been read keeps to word characters and is read
as it is. -/
theorem identifiersExact (raw : Value) (kind : String) :
    (raw = .null → raw.plain = "") ∧ (raw ≠ .null → raw.plain = raw.display) ∧
    (∀ name, readName raw kind = .ok name ↔
      Name.Identifier (Text.strip raw.plain.toList) ∧ name = Text.trim raw.plain) ∧
    (∀ failure, readName raw kind = .error failure ↔
      ¬ Name.Identifier (Text.strip raw.plain.toList) ∧ failure = .invalidName raw.plain kind) ∧
    (∀ name, readName raw kind = .ok name →
      (∀ c ∈ name.toList, c.toNat < 128 ∧ Text.isBlank c = false ∧
        c ∉ ['.', '/', '\\', '"', '\'']) ∧
      ∀ other, readName (.text name) other = .ok name) ∧
    ∀ digit : Char → Bool, (∀ c, c.toNat < 128 → digit c = c.isDigit) →
      ((Name.read? raw).isSome = true ↔ Name.WordLine (Text.strip raw.plain.toList) ∧
        ∀ c ∈ (Text.strip raw.plain.toList).head?, digit c = false) := by
  refine ⟨?_, fun other => ?_, fun name => ?_, fun failure => ?_, fun name ok => ⟨fun c member => ?_, ?_⟩,
    fun digit ascii => ?_⟩
  · rintro rfl
    rfl
  · cases raw with
    | null => exact absurd rfl other
    | _ => rfl
  · rw [readNameIff, namedIdentifier]
    rfl
  · rw [readNameRefused, namedIdentifier]
  · exact Name.wordPlain (Name.wordIff.mp (Name.wordChars (readNameOk ok).1 c member))
  · exact readNameAgain ok
  · rw [← Name.patternExact _ ascii, ← namedIdentifier]
    by_cases named : Named raw
    · simp [readNamed named, named]
    · simp [readUnnamed named, named]

end Entity

end EntityForge
