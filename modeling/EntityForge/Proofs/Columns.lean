import EntityForge.Proofs.Bundles
import Mathlib.Data.List.Sort

/-! Columns of a checked entity: one per entry of the description, under the name its key gives, and
the order in which generators visit them. Where names differ without regard to case, that order does
not depend on the description. -/
namespace EntityForge

theorem lookupApart {α : Type} {pairs : List (String × α)} (apart : (pairs.map Prod.fst).Nodup)
    {key : String} {value : α} (member : (key, value) ∈ pairs) : pairs.lookup key = some value := by
  obtain ⟨before, after, rfl⟩ := List.append_of_mem member
  refine List.lookup_eq_some_iff.mpr ⟨before, after, rfl, fun pair earlier => ?_⟩
  rw [bne_iff_ne]
  rintro rfl
  rw [List.map_append, List.nodup_append] at apart
  exact apart.2.2 _ (List.mem_map_of_mem earlier) _ (by simp) rfl

namespace Entity

def columnOf (entry : Value × Value) : String × Column :=
  ((Name.read? entry.1).getD "", Column.ofValue entry.2)

theorem readColumnsOk {entity : String} {found columns : List (String × Column)} {entries : Entries}
    (apart : (found.map Prod.fst).Nodup) :
    readColumns entity found entries = .ok columns ↔
      (∀ entry ∈ entries, (Name.read? entry.1).isSome = true) ∧
        columns = found ++ entries.map columnOf ∧ (columns.map Prod.fst).Nodup := by
  -- on the entries, with those that were read so far as the invariant
  induction entries generalizing found with
  | nil =>
    simp only [readColumns, Except.ok.injEq, List.map_nil, List.append_nil]
    exact ⟨fun same => ⟨nofun, same.symm, same ▸ apart⟩, fun all => all.2.1.symm⟩
  | cons entry rest ih =>
    obtain ⟨key, raw⟩ := entry
    rw [List.forall_mem_cons]
    unfold readColumns readName
    cases read : Name.read? key with
    | none => simp
    | some name =>
      have column : columnOf (key, raw) = (name, Column.ofValue raw) := by simp [columnOf, read]
      have known : (found.lookup name).isSome = true ↔ name ∈ found.map Prod.fst := by
        simp [List.lookup_isSome_iff]
      rw [List.map_cons, column]
      dsimp only
      split
      next old =>
        refine ⟨nofun, fun ⟨_, same, unique⟩ => absurd unique ?_⟩
        rw [same, List.map_append, List.nodup_append]
        exact fun all => all.2.2 name (known.mp old) name (by simp) rfl
      next new =>
        have fresh : ((found ++ [(name, Column.ofValue raw)]).map Prod.fst).Nodup := by
          rw [List.map_append, List.nodup_append]
          refine ⟨apart, by simp, ?_⟩
          rintro _ member _ last rfl
          obtain rfl : _ = name := by simpa using last
          exact new (known.mpr member)
        rw [ih fresh]
        simp

theorem ofDescriptionOk {key : Value} {description : Description} {segments : List String}
    {outDir : Path} {e : Entity} :
    ofDescription key description segments outDir = .ok e ↔
      ∃ name entries, readName key "class" = .ok name ∧ description.columns.opened = .map entries ∧
        (∀ entry ∈ entries, (Name.read? entry.1).isSome = true) ∧
        ((entries.map columnOf).map Prod.fst).Nodup ∧
        e = ⟨name, segments, tableName description.table name, entries.map columnOf, outDir⟩ := by
  constructor
  · intro ok
    obtain ⟨name, read, ok⟩ := exceptBindOk ok
    split at ok
    next entries given =>
      obtain ⟨columns, listed, made⟩ := exceptBindOk ok
      obtain ⟨valid, same, unique⟩ := (readColumnsOk (by simp)).mp listed
      rw [List.nil_append] at same
      subst same
      cases made
      exact ⟨name, entries, read, given, valid, unique, rfl⟩
    next => cases ok
  · rintro ⟨name, entries, read, given, valid, unique, rfl⟩
    have listed : readColumns name [] entries = .ok ([] ++ entries.map columnOf) :=
      (readColumnsOk (by simp)).mpr ⟨valid, rfl, by simpa using unique⟩
    simp only [ofDescription, read, given, bind, Except.bind, listed, List.nil_append]

theorem normalizeIff {cwd : Location} {key : Value} {description : Description}
    {segments : List String} {outDir : Path} {e : Entity} :
    normalize cwd key description segments outDir = .ok e ↔
      ofDescription key description segments (outDir.resolve cwd) = .ok e ∧ outDir.hasNul = false := by
  unfold normalize
  cases ofDescription key description segments (outDir.resolve cwd) with
  | error failure => simp [bind, Except.bind]
  | ok e => cases outDir.hasNul <;> simp [bind, Except.bind]

theorem normalizeApart {cwd : Location} {key : Value} {description : Description}
    {segments : List String} {outDir : Path} {e : Entity}
    (ok : normalize cwd key description segments outDir = .ok e) :
    (e.columns.map Prod.fst).Nodup := by
  obtain ⟨_, _, _, _, _, unique, rfl⟩ := ofDescriptionOk.mp (normalizeIff.mp ok).1
  exact unique

theorem normalizeWords {cwd : Location} {key : Value} {description : Description}
    {segments : List String} {outDir : Path} {e : Entity}
    (ok : normalize cwd key description segments outDir = .ok e) :
    ∀ column ∈ e.columns, Name.wellFormed column.1.toList = true := by
  obtain ⟨_, _, _, _, valid, _, rfl⟩ := ofDescriptionOk.mp (normalizeIff.mp ok).1
  intro column member
  obtain ⟨entry, there, rfl⟩ := List.mem_map.mp member
  obtain ⟨name, read⟩ := Option.isSome_iff_exists.mp (valid entry there)
  rw [columnOf, read]
  exact (readOk read).1

section Order
variable {e : Entity}

theorem nameBeforeIff {a b : String} :
    nameBefore a b = true ↔ Value.folded (.text a) ≤ Value.folded (.text b) := by
  rw [nameBefore, Bool.not_eq_true', decide_eq_false_iff_not, String.not_lt]

theorem nameBeforeTrans (a b c : String × Column) (first : nameBefore a.1 b.1 = true)
    (next : nameBefore b.1 c.1 = true) : nameBefore a.1 c.1 = true :=
  nameBeforeIff.mpr (String.le_trans (nameBeforeIff.mp first) (nameBeforeIff.mp next))

theorem nameBeforeTotal (a b : String × Column) :
    (nameBefore a.1 b.1 || nameBefore b.1 a.1) = true := by
  rw [Bool.or_eq_true, nameBeforeIff, nameBeforeIff]
  exact String.le_total _ _

theorem sortedPerm (e : Entity) : e.sorted.Perm e.columns := List.mergeSort_perm _ _

theorem memberSorted {column : String × Column} : column ∈ e.sorted ↔ column ∈ e.columns :=
  (sortedPerm e).mem_iff

theorem sortedPairwise (e : Entity) : e.sorted.Pairwise fun a b => nameBefore a.1 b.1 = true :=
  List.pairwise_mergeSort nameBeforeTrans nameBeforeTotal e.columns

theorem sortedOf {columns : List (String × Column)} (perm : columns.Perm e.columns)
    (order : columns.Pairwise fun a b => nameBefore a.1 b.1 = true)
    (apart : (columns.map fun column => Value.folded (.text column.1)).Nodup) : e.sorted = columns := by
  have perm' : columns.Perm e.sorted := perm.trans (sortedPerm e).symm
  refine (perm'.eq_of_pairwise (fun a b here there before after => ?_) order (sortedPairwise e)).symm
  exact List.inj_on_of_nodup_map apart here (perm'.mem_iff.mpr there)
    (String.le_antisymm (nameBeforeIff.mp before) (nameBeforeIff.mp after))

theorem sortedSame {e e' : Entity} (perm : e.columns.Perm e'.columns)
    (apart : (e'.columns.map fun column => Value.folded (.text column.1)).Nodup) :
    e.sorted = e'.sorted :=
  sortedOf ((sortedPerm e').trans perm.symm) (sortedPairwise e')
    (((sortedPerm e').map _).nodup_iff.mpr apart)

end Order

end Entity

theorem Text.lowerSmall {s : List Char} (small : ∀ c ∈ s, c.toNat < 128) (before : List Char) :
    lowerAfter before s = s.map Char.toLower := by
  induction s generalizing before with
  | nil => rfl
  | cons c rest ih =>
    obtain ⟨here, later⟩ := List.forall_mem_cons.mp small
    have notSigma : (c.toNat == 0x3A3) = false := by rw [beq_eq_false_iff_ne]; omega
    rw [lowerAfter, ih later, lowerChar, if_pos here]
    simp [notSigma]

namespace Name

theorem wordChars {s : List Char} (words : wellFormed s = true) : ∀ c ∈ s, isWordChar c = true := by
  intro c member
  by_contra other
  exact wordFree words (Bool.eq_false_iff.mpr other) member

theorem wordShape (c : Char) : isWordChar c = (decide (c.val ≥ 'A'.val ∧ c.val ≤ 'Z'.val) ||
    (decide (c.val ≥ 'a'.val) && decide (c.val ≤ 'z'.val)) ||
    (decide (c.val ≥ '0'.val) && decide (c.val ≤ '9'.val)) || c == '_') := rfl

theorem wordSmall {c : Char} (word : isWordChar c = true) : c.toNat < 128 := by
  simp only [wordShape, Bool.or_eq_true, Bool.and_eq_true, decide_eq_true_eq, beq_iff_eq,
    UInt32.le_iff_toNat_le] at word
  rcases word with ((⟨_, upper⟩ | ⟨_, upper⟩) | ⟨_, upper⟩) | rfl
  · exact Nat.lt_of_le_of_lt upper (by decide)
  · exact Nat.lt_of_le_of_lt upper (by decide)
  · exact Nat.lt_of_le_of_lt upper (by decide)
  · decide

theorem wordLower {c : Char} (word : isWordChar c = true) :
    isWordChar c.toLower = true ∧ Text.isBlank c = false := by
  have small := wordSmall word
  have all : ∀ n < 128, isWordChar (Char.ofNat n) = true →
      isWordChar (Char.ofNat n).toLower = true ∧ Text.isBlank (Char.ofNat n) = false := by decide
  simpa using all c.toNat small (by simpa using word)

theorem wordsLower {s : List Char} (words : ∀ c ∈ s, isWordChar c = true) (before : List Char) :
    Text.lowerAfter before s = s.map Char.toLower :=
  Text.lowerSmall (fun c member => wordSmall (words c member)) before

end Name

namespace Text

theorem stripEndVisible {s : List Char} (visible : ∀ c ∈ s, isBlank c = false) : stripEnd s = s := by
  induction s with
  | nil => rfl
  | cons c rest ih =>
    obtain ⟨here, later⟩ := List.forall_mem_cons.mp visible
    rw [stripEnd, ih later]
    cases rest <;> simp [here]

theorem stripVisible {s : List Char} (visible : ∀ c ∈ s, isBlank c = false) : strip s = s := by
  cases s with
  | nil => rfl
  | cons c rest =>
    rw [strip, stripStart, List.dropWhile_cons_of_neg (by simp [visible c List.mem_cons_self]),
      stripEndVisible visible]

end Text

theorem foldedName {name : String} (words : Name.wellFormed name.toList = true) :
    Value.folded (.text name) = Text.lowercase name := by
  have all := Name.wordChars words
  have lower : Text.lower name.toList = name.toList.map Char.toLower := Name.wordsLower all []
  have kept : Text.strip (name.toList.map Char.toLower) = name.toList.map Char.toLower := by
    refine Text.stripVisible fun c member => ?_
    obtain ⟨d, there, rfl⟩ := List.mem_map.mp member
    exact (Name.wordLower (Name.wordLower (all d there)).1).2
  simp only [Value.folded, Value.plain, Value.textOr, Text.trim, Text.lowercase, String.toList_ofList,
    lower, kept]

end EntityForge
