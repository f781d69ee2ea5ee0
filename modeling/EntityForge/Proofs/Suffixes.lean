import EntityForge.Proofs.Accessors
import EntityForge.Proofs.Identifiers

/-! Accessor names piece by piece. A separator ends one word and begins the next, so the accessor name of
a text that is put together with one is put together from those of the parts; blanks around a text belong
to no word, also where they are separators themselves. The accessor name of a name has no separators left
and begins raised, so it is its own. -/
namespace EntityForge

namespace Name

section Words
variable {c : Char} {s front back : List Char}

theorem wordsCut (cut : isSeparator c = true) (x y : List Char) :
    words (x ++ c :: y) = words x ++ words y := by
  simp only [words, Text.splitAtCut cut, List.map_append, List.filter_append]

theorem blankAlone (blank : Text.isBlank c = true) : Text.Blank [c] :=
  List.forall_mem_singleton.mpr blank

theorem wordsBlankFirst (blank : Text.isBlank c = true) (s : List Char) : words (c :: s) = words s := by
  by_cases cut : isSeparator c = true
  · exact wordsCut cut [] s
  · obtain ⟨piece, pieces, same⟩ := List.exists_cons_of_ne_nil (Text.splitAtNonempty isSeparator s)
    have trimmed : Text.strip (c :: piece) = Text.strip piece := by
      simpa using Text.stripAround (blankAlone blank) .nil piece
    simp only [words, Text.splitAt, if_neg cut, same, List.map_cons, trimmed]

theorem wordsBlankLast (blank : Text.isBlank c = true) (s : List Char) : words (s ++ [c]) = words s := by
  by_cases cut : isSeparator c = true
  · exact (wordsCut cut s []).trans (List.append_nil _)
  · obtain ⟨pieces, label, grows⟩ := Text.splitAtAppend isSeparator s
    have bare := grows [] nofun
    have longer := grows [c] (List.forall_mem_singleton.mpr (by simpa using cut))
    have trimmed : Text.strip (label ++ [c]) = Text.strip label := by
      simpa using Text.stripAround .nil (blankAlone blank) label
    rw [List.append_nil, List.append_nil] at bare
    simp only [words, bare, longer, List.map_append, List.map_cons, trimmed]

theorem wordsFront (blank : Text.Blank front) (s : List Char) : words (front ++ s) = words s := by
  induction front with
  | nil => rfl
  | cons c rest ih => rw [List.cons_append, wordsBlankFirst blank.cons.1, ih blank.cons.2]

theorem wordsBack (blank : Text.Blank back) (s : List Char) : words (s ++ back) = words s := by
  induction back generalizing s with
  | nil => rw [List.append_nil]
  | cons c rest ih => rw [List.append_cons, ih blank.cons.2, wordsBlankLast blank.cons.1]

theorem wordsTrimmed (s : List Char) : words (Text.strip s) = words s := by
  obtain ⟨front, back, first, last, cut⟩ := Text.stripCut s
  conv_rhs => rw [cut, wordsBack last, wordsFront first]

end Words

theorem accessorCut {c : Char} (cut : isSeparator c = true) (x y : String) :
    accessorOf (x ++ String.singleton c ++ y) = accessorOf x ++ accessorOf y := by
  simp [accessorOf, accessor, wordsCut cut]

theorem accessorTrimmed (s : String) : accessorOf (Text.trim s) = accessorOf s := by
  simp only [accessorOf, accessor, Text.trim, String.toList_ofList, wordsTrimmed]

section Raised
variable {key : List Char}

theorem camelPlain (free : '_' ∉ key) : camel false key = key := by
  induction key with
  | nil => rfl
  | cons c rest ih =>
    rw [List.mem_cons, not_or] at free
    rw [camel, if_neg (Ne.symm free.1), ih free.2]
    rfl

theorem wordRaised {c : Char} (word : isWordChar c = true) :
    c.toUpper.isLower = false ∧ c.toUpper.toUpper = c.toUpper := by
  have small := wordSmall word
  have all : ∀ n < 128, (Char.ofNat n).toUpper.isLower = false ∧
      (Char.ofNat n).toUpper.toUpper = (Char.ofNat n).toUpper := by decide
  have here := all c.toNat small
  rwa [Char.ofNat_toNat] at here

theorem camelShape (words : ∀ c ∈ key, isWordChar c = true) : camel true key = [] ∨
    ∃ (c : Char) (rest : List Char), c ≠ '_' ∧ c.isLower = false ∧ c.toUpper = c ∧ '_' ∉ rest ∧
      camel true key = c :: rest := by
  induction key with
  | nil => exact .inl rfl
  | cons c rest ih =>
    obtain ⟨here, later⟩ := List.forall_mem_cons.mp words
    rw [camel]
    split
    next => exact ih later
    next letter =>
      obtain ⟨raised, again⟩ := wordRaised here
      refine .inr ⟨c.toUpper, camel false rest, fun gap => ?_, raised, again, fun gap => ?_, rfl⟩
      · have upper := (wordUpper here letter).2.1
        rw [gap] at upper
        cases upper
      · cases camelLetters later false '_' gap

theorem camelAgain (words : ∀ c ∈ key, isWordChar c = true) :
    camel true (camel true key) = camel true key := by
  rcases camelShape words with none | ⟨c, rest, solid, _, again, free, shape⟩
  · rw [none]
    rfl
  · rw [shape, camel, if_neg solid, if_pos rfl, again, camelPlain free]

end Raised

section Accessor
variable {name : String} (words : wellFormed name.toList = true)
include words

theorem accessorRaised : ∀ c ∈ (accessorOf name).toList.head?, c.isLower = false := by
  rw [accessorText words]
  rcases camelShape (wordChars words) with none | ⟨c, rest, _, raised, _, _, shape⟩
  · rw [none]
    nofun
  · rw [shape]
    exact fun d first => Option.mem_some.mp first ▸ raised

theorem accessorCaseless : Text.lowercase (accessorOf name) =
    Text.lowercase (String.ofList (name.toList.filter (· != '_'))) := by
  have kept : ∀ c ∈ name.toList.filter (· != '_'), isWordChar c = true :=
    fun c member => wordChars words c (List.mem_filter.mp member).1
  rw [Text.lowercase, Text.lowercase, Text.lower, Text.lower, String.toList_ofList,
    wordsLower (accessorWords words), wordsLower kept, accessorLower words]

theorem accessorAgain : accessorOf (accessorOf name) = accessorOf name := by
  apply String.toList_injective
  rw [accessorOf, String.toList_ofList, accessorCamel (accessorWords words), accessorText words,
    camelAgain (wordChars words)]

end Accessor

/- A separator between two texts stands between their accessor names, where it leaves nothing behind,
and so do blanks around a text; the accessor name of a name has its letters and digits in their
order, begins raised and stays. -/
theorem accessorsJoined :
    (∀ x y : String, ∀ c ∈ ['_', '-', '\t'],
      accessorOf (x ++ String.singleton c ++ y) = accessorOf x ++ accessorOf y) ∧
    (∀ x, accessorOf (Text.trim x) = accessorOf x) ∧
    ∀ name : String, Identifier name.toList →
      (∀ c ∈ (accessorOf name).toList, c.isAlphanum = true) ∧
      (∀ c ∈ (accessorOf name).toList.head?, c.isLower = false) ∧
      Text.lowercase (accessorOf name) =
        Text.lowercase (String.ofList (name.toList.filter (· != '_'))) ∧
      accessorOf (accessorOf name) = accessorOf name := by
  refine ⟨fun x y c member => ?_, accessorTrimmed, fun name spelled => ?_⟩
  · have cuts : ['_', '-', '\t'].all isSeparator = true := by decide
    exact accessorCut (List.all_eq_true.mp cuts c member) x y
  · have words : wellFormed name.toList = true := identifierIff.mpr spelled
    exact ⟨accessorLetters words, accessorRaised words, accessorCaseless words, accessorAgain words⟩

theorem tabJoined : Identifier "_user__id2X".toList ∧ accessorOf "_user__id2X" = "UserId2X" ∧
    accessorOf "UserId2X" = "UserId2X" ∧
    accessorOf ("\tfirst " ++ String.singleton '\t' ++ "-last name\n") = "FirstLast name" := by
  have spelled : Identifier "_user__id2X".toList := identifierIff.mp (by decide +kernel)
  have made : accessorOf "_user__id2X" = "UserId2X" := by decide +kernel
  obtain ⟨joined, _, named⟩ := accessorsJoined
  refine ⟨spelled, made, ?_, ?_⟩
  · have again := (named "_user__id2X" spelled).2.2.2
    rwa [made] at again
  · rw [joined "\tfirst " "-last name\n" '\t' (by decide)]
    decide +kernel

end Name

end EntityForge
