import EntityForge.Proofs.Slashes
import Mathlib.Data.List.Pairwise
import Mathlib.Data.Prod.Lex
import Mathlib.Data.String.Basic

/-! The order of input files. The length of the directory's text counts first, and only a directory
inside another one has to have the longer text: elsewhere length is not depth. A directory in front of
all files does not change their order. -/
namespace EntityForge

namespace Path
open Text
variable {l d : Location}

theorem slashedAppend (l d : Location) : slashed (l ++ d) = slashed l ++ slashed d :=
  List.flatMap_append

theorem slashesSlashed (named : ∀ name ∈ l, PathName name) : (slashed l).count '/' = l.length := by
  induction l with
  | nil => rfl
  | cons name rest ih =>
    obtain ⟨own, others⟩ := List.forall_mem_cons.mp named
    have free : name.toList.count '/' = 0 := List.count_eq_zero.mpr own.whole
    have inner := ih others
    rw [slashed] at inner ⊢
    simp [free, inner]

theorem textLonger (named : ∀ name ∈ d, PathName name) (more : d ≠ []) :
    (ofLocation l).text.length < (ofLocation (l ++ d)).text.length := by
  obtain ⟨name, rest, rfl⟩ := List.exists_cons_of_ne_nil more
  have some : 0 < name.toList.length :=
    List.length_pos_of_ne_nil (by simpa using (named name List.mem_cons_self).some)
  have deeper : l ++ name :: rest ≠ [] := by simp
  rw [← String.length_toList, ← String.length_toList, textSlashed deeper, slashedAppend,
    List.length_append]
  have tail : name.toList.length < (slashed (name :: rest)).length := by
    simp only [slashed, List.flatMap_cons, List.length_append, List.length_cons]
    omega
  by_cases root : l = []
  · subst root
    simp only [textRoot, List.length_singleton]
    omega
  · rw [textSlashed root]
    omega

theorem lowerSlashed (l : Location) (more : d ≠ []) :
    lower (slashed (l ++ d)) = lower (slashed l) ++ lower (slashed d) := by
  obtain ⟨rest, shape⟩ := slashedHead more
  rw [slashedAppend, shape, lowerSlash]
  exact congrArg (lower (slashed l) ++ ·) (lowerSlash [] rest).symm

end Path

namespace InputFiles
open EntityForge.Path Text
variable {p q : Path} {l : Location}

def byLength (p : Path) : ℕ ×ₗ String ×ₗ String :=
  toLex (p.parent.text.length, toLex (lowercase p.parent.text, lowercase p.name))

def byDepth (p : Path) : ℕ ×ₗ String ×ₗ String :=
  toLex (p.parent.parts.length, toLex (lowercase p.parent.text, lowercase p.name))

theorem beforeIff : before p q = true ↔ byLength p ≤ byLength q := by
  unfold before byLength
  simp only [Prod.Lex.toLex_le_toLex]
  split
  next longer => simp [longer]
  next same =>
    split
    next other => simp [not_not.mp same, other, lt_iff_le_and_ne]
    next both =>
      rw [Bool.not_eq_true', decide_eq_false_iff_not, not_lt]
      simp [not_not.mp same, not_not.mp both]

theorem beforeTrans (p q r : Path) (first : before p q = true) (later : before q r = true) :
    before p r = true :=
  beforeIff.mpr ((beforeIff.mp first).trans (beforeIff.mp later))

theorem beforeTotal (p q : Path) : (before p q || before q p) = true := by
  rw [Bool.or_eq_true, beforeIff, beforeIff]
  exact le_total _ _

theorem sortedLength (files : List Path) :
    (files.mergeSort before).Pairwise fun p q => byLength p ≤ byLength q :=
  (List.pairwise_mergeSort beforeTrans beforeTotal files).imp beforeIff.mp

theorem rootShortest {d : Location} (named : ∀ name ∈ d, PathName name)
    (long : (ofLocation []).text.length = (ofLocation d).text.length) : d = [] := by
  by_contra more
  exact absurd long (@textLonger [] d named more).ne

theorem depthTie {m : Location} (first : ∀ name ∈ l, PathName name) (next : ∀ name ∈ m, PathName name)
    (long : (ofLocation l).text.length = (ofLocation m).text.length)
    (folded : lowercase (ofLocation l).text = lowercase (ofLocation m).text) : l.length = m.length := by
  by_cases top : l = []
  · subst top
    rw [rootShortest next long]
  by_cases other : m = []
  · subst other
    exact absurd (rootShortest first long.symm) top
  have slashes := congrArg (fun text => text.toList.count '/') folded
  simpa only [lowercase, String.toList_ofList, lower, slashesLower, textSlashed top, textSlashed other,
    slashesSlashed first, slashesSlashed next] using slashes

theorem byDepthTie {m : Location} (first : ∀ name ∈ l, PathName name)
    (next : ∀ name ∈ m, PathName name) (tied : byLength (ofLocation l) = byLength (ofLocation m)) :
    byDepth (ofLocation l) = byDepth (ofLocation m) := by
  obtain ⟨long, names⟩ := Prod.mk.inj tied
  have folded := (Prod.mk.inj names).1
  have depth := depthTie (fun name there => first name (List.dropLast_subset l there))
    (fun name there => next name (List.dropLast_subset m there)) long folded
  exact congrArg₂ (fun depth names => toLex (depth, names)) depth names

/- Neighbours are in the documented order exactly if the length of the text never gives another one. -/
theorem depthIff {files : List Path}
    (tied : ∀ p ∈ files, ∀ q ∈ files, byLength p = byLength q → byDepth p = byDepth q)
    (sorted : files.Pairwise fun p q => byLength p ≤ byLength q) :
    (files.IsChain fun p q => byDepth p ≤ byDepth q) ↔
      ∀ p ∈ files, ∀ q ∈ files, byLength p ≤ byLength q → byDepth p ≤ byDepth q := by
  have through : Trans (fun p q => byDepth p ≤ byDepth q) (fun p q => byDepth p ≤ byDepth q)
      fun p q => byDepth p ≤ byDepth q := ⟨le_trans⟩
  constructor
  · intro chain p here q there shorter
    have sides : Std.Symm fun p q => byDepth p ≤ byDepth q ∧ byLength p ≤ byLength q ∨
        byDepth q ≤ byDepth p ∧ byLength q ≤ byLength p := ⟨fun _ _ => Or.symm⟩
    have both := (List.isChain_iff_pairwise.mp chain).and sorted
    have either : files.Pairwise fun p q => byDepth p ≤ byDepth q ∧ byLength p ≤ byLength q ∨
        byDepth q ≤ byDepth p ∧ byLength q ≤ byLength p := both.imp Or.inl
    -- of two files one comes first, and if that is the other one they are tied
    rcases either.forall_of_forall (fun _ _ => .inl ⟨le_rfl, le_rfl⟩) here there with
      ordered | ordered
    · exact ordered.1
    · exact (tied p here q there (le_antisymm shorter ordered.2)).le
  · intro agree
    exact (sorted.imp_of_mem fun here there shorter => agree _ here _ there shorter).isChain

def rank (d : Location) : ℕ ×ₗ String :=
  toLex ((ofLocation d).text.length, lowercase (ofLocation d).text)

theorem rankBelow (l : Location) {d : Location} (more : d ≠ []) : rank (l ++ d) =
    toLex ((slashed l).length + (slashed d).length,
      String.ofList (lower (slashed l) ++ lower (slashed d))) := by
  have deeper : l ++ d ≠ [] := by simp [more]
  rw [rank, lowercase, ← String.length_toList, textSlashed deeper, lowerSlashed l more, slashedAppend,
    List.length_append]

theorem rankShorter (l : Location) {d : Location} (named : ∀ name ∈ d, PathName name) (more : d ≠ []) :
    rank l < rank (l ++ d) :=
  Prod.Lex.toLex_lt_toLex.mpr (.inl (textLonger named more))

theorem rankLess {d d' : Location} (first : ∀ name ∈ d, PathName name)
    (next : ∀ name ∈ d', PathName name) (less : rank d < rank d') : rank (l ++ d) < rank (l ++ d') := by
  by_cases top : d = []
  · subst top
    have more : d' ≠ [] := by
      rintro rfl
      exact lt_irrefl _ less
    rw [List.append_nil]
    exact rankShorter l next more
  by_cases other : d' = []
  · subst other
    exact absurd (rankShorter [] first top) less.not_gt
  have front (l d : List Char) (d' : List Char) : l ++ d < l ++ d' ↔ d < d' := by
    induction l with
    | nil => rfl
    | cons c rest ih => simp [ih]
  rw [← List.nil_append d, ← List.nil_append d', rankBelow [] top, rankBelow [] other,
    Prod.Lex.toLex_lt_toLex] at less
  rw [rankBelow l top, rankBelow l other, Prod.Lex.toLex_lt_toLex]
  simpa only [String.lt_iff_toList_lt, String.toList_ofList, front, Nat.add_lt_add_iff_left,
    Nat.add_left_cancel_iff] using less

theorem rankSame {d d' : Location} (first : ∀ name ∈ d, PathName name)
    (next : ∀ name ∈ d', PathName name) (same : rank d = rank d') : rank (l ++ d) = rank (l ++ d') := by
  by_cases top : d = []
  · subst top
    rw [rootShortest next (Prod.mk.inj same).1]
  by_cases other : d' = []
  · subst other
    exact absurd (rootShortest first (Prod.mk.inj same).1.symm) top
  rw [← List.nil_append d, ← List.nil_append d', rankBelow [] top, rankBelow [] other] at same
  obtain ⟨long, folded⟩ := Prod.mk.inj same
  rw [rankBelow l top, rankBelow l other, Nat.add_left_cancel long,
    List.append_cancel_left (String.ofList_injective folded)]

theorem byLengthIff {a b : Location} : byLength (ofLocation a) ≤ byLength (ofLocation b) ↔
    rank a.dropLast < rank b.dropLast ∨ rank a.dropLast = rank b.dropLast ∧
      lowercase (a.getLastD "") ≤ lowercase (b.getLastD "") := by
  have parent (c : Location) : (ofLocation c).parent = ofLocation c.dropLast := rfl
  have name (c : Location) : (ofLocation c).name = c.getLastD "" := rfl
  simp only [byLength, rank, parent, name, Prod.Lex.toLex_le_toLex, Prod.Lex.toLex_lt_toLex,
    toLex_inj, Prod.mk.injEq]
  rw [or_assoc, and_assoc, ← and_or_left]

theorem byLengthBelow (l : Location) {a b : Location} (first : ∀ name ∈ a, PathName name)
    (next : ∀ name ∈ b, PathName name) (some : a ≠ []) (other : b ≠ []) :
    byLength (ofLocation (l ++ a)) ≤ byLength (ofLocation (l ++ b)) ↔
      byLength (ofLocation a) ≤ byLength (ofLocation b) := by
  have inner : ∀ name ∈ a.dropLast, PathName name :=
    fun name there => first name (List.dropLast_subset a there)
  have inner' : ∀ name ∈ b.dropLast, PathName name :=
    fun name there => next name (List.dropLast_subset b there)
  have name (c : Location) (more : c ≠ []) : (l ++ c).getLastD "" = c.getLastD "" := by
    rw [List.getLastD_eq_getLast?, List.getLastD_eq_getLast?, List.getLast?_append_of_ne_nil _ more]
  rw [byLengthIff, byLengthIff, List.dropLast_append_of_ne_nil some,
    List.dropLast_append_of_ne_nil other, name a some, name b other]
  rcases lt_trichotomy (rank a.dropLast) (rank b.dropLast) with less | same | more
  · simp [less, rankLess inner inner' less]
  · simp [same, rankSame inner inner' same]
  · simp [more.not_gt, more.ne', (rankLess inner' inner more).not_gt, (rankLess inner' inner more).ne']

end InputFiles

end EntityForge
