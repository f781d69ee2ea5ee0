import EntityForge.Proofs.Confinement
import EntityForge.Proofs.Places

/-! Texts of places. A slash stands between the names of a text and belongs to none of them: it is the
image of no other character under a change of case, a word ends before it, and a text falls into the
names it was put together from. -/
namespace EntityForge

namespace Text
variable {c d : Char}

def High (run : Nat × Nat × Nat × Int) : Prop :=
  48 ≤ (run.1 : Int) + run.2.2.2 ∧
    ((run.2.1 : Int) + run.2.2.2 < 0xD800 ∨
      0xDFFF < (run.1 : Int) + run.2.2.2 ∧ (run.2.1 : Int) + run.2.2.2 < 0x110000)

instance (run : Nat × Nat × Nat × Int) : Decidable (High run) :=
  inferInstanceAs (Decidable (_ ∧ _))

theorem runsHigh : ∀ run ∈ lowerRuns ++ upperRuns, High run := by decide +kernel

theorem expansionsHigh : ∀ expansion ∈ upperExpansions, ∀ n ∈ expansion.2, n.isValidChar ∧ 48 ≤ n := by
  decide +kernel

theorem ofNatValid {n : Nat} (valid : n.isValidChar) : (Char.ofNat n).toNat = n := by
  rw [Char.ofNat, dif_pos valid]
  rfl

theorem ofNatHigh {n : Nat} (valid : n.isValidChar) (high : 48 ≤ n) : 48 ≤ (Char.ofNat n).toNat := by
  rwa [ofNatValid valid]

theorem shiftWithin {runs : List (Nat × Nat × Nat × Int)} (high : ∀ run ∈ runs, High run)
    (c : Char) : shiftBy runs c = c ∨ ∃ run ∈ runs,
      (run.1 : Int) + run.2.2.2 ≤ (shiftBy runs c).toNat ∧
        ((shiftBy runs c).toNat : Int) ≤ run.2.1 + run.2.2.2 := by
  unfold shiftBy
  dsimp only
  split
  next first last step shift chosen =>
    have within := List.find?_some chosen
    simp only [Bool.and_eq_true, decide_eq_true_eq] at within
    obtain ⟨low, valid⟩ := high _ (List.mem_of_find?_eq_some chosen)
    dsimp only at low valid
    refine .inr ⟨_, List.mem_of_find?_eq_some chosen, ?_⟩
    rw [ofNatValid (by unfold Nat.isValidChar; omega)]
    constructor <;> dsimp only <;> omega
  next => exact .inl rfl

theorem shiftHigh {runs : List (Nat × Nat × Nat × Int)} (high : ∀ run ∈ runs, High run)
    (large : 48 ≤ c.toNat) : 48 ≤ (shiftBy runs c).toNat := by
  rcases shiftWithin high c with same | ⟨run, there, low, _⟩
  · rwa [same]
  · have least := (high run there).1
    omega

theorem imageHigh (large : ¬ c.toNat < 128) : ∀ d ∈ lowerChar c ++ upperChar c, 48 ≤ d.toNat := by
  have lowers : ∀ run ∈ lowerRuns, High run := fun run there => runsHigh run (by simp [there])
  have uppers : ∀ run ∈ upperRuns, High run := fun run there => runsHigh run (by simp [there])
  intro d member
  rw [lowerChar, upperChar, if_neg large, if_neg large] at member
  rcases List.mem_append.mp member with low | up
  · split at low
    · simp only [List.mem_cons, List.not_mem_nil, or_false] at low
      rcases low with rfl | rfl <;> decide
    · obtain rfl := List.mem_singleton.mp low
      exact shiftHigh lowers (by omega)
  · split at up
    next n parts chosen =>
      obtain ⟨n, listed, rfl⟩ := List.mem_map.mp up
      obtain ⟨valid, high⟩ := expansionsHigh _ (List.mem_of_find?_eq_some chosen) n listed
      exact ofNatHigh valid high
    next =>
      obtain rfl := List.mem_singleton.mp up
      exact shiftHigh uppers (by omega)

theorem lowerSingle (c : Char) : lower [c] = lowerChar c := by
  simp [lower, lowerAfter, startsCased]

theorem upperSingle (c : Char) : upper [c] = upperChar c := by simp [upper]

theorem bareIff : d ∈ ['/', '\x00'] ↔ d = '/' ∨ d = '\x00' := by simp

theorem imageOf (bare : d ∈ ['/', '\x00']) (image : d ∈ lowerChar c ++ upperChar c) : c = d := by
  by_cases small : c.toNat < 128
  · have images (n : Nat) : n < 128 →
        ('/' ∈ lowerChar (Char.ofNat n) ++ upperChar (Char.ofNat n) → Char.ofNat n = '/') ∧
        ('\x00' ∈ lowerChar (Char.ofNat n) ++ upperChar (Char.ofNat n) → Char.ofNat n = '\x00') := by
      revert n
      decide +kernel
    obtain ⟨slash, zero⟩ := images c.toNat small
    rw [Char.ofNat_toNat] at slash zero
    rcases bareIff.mp bare with rfl | rfl
    · exact slash image
    · exact zero image
  · have low : d.toNat < 48 := by rcases bareIff.mp bare with rfl | rfl <;> decide
    exact absurd (imageHigh small d image) low.not_ge

theorem startsCasedSlash (s rest : List Char) : startsCased (s ++ '/' :: rest) = startsCased s := by
  unfold startsCased
  rw [List.find?_append]
  cases s.find? fun c => !inBlocks caseIgnorable c with
  | some c => rfl
  | none =>
    have ends : inBlocks caseIgnorable '/' = false ∧ inBlocks cased '/' = false := by decide +kernel
    simp [ends]

theorem lowerBehind (before front s : List Char) :
    lowerAfter (before ++ '/' :: front) s = lowerAfter before s := by
  induction s generalizing before with
  | nil => rfl
  | cons c rest ih =>
    rw [lowerAfter, lowerAfter, startsCasedSlash, ← ih (c :: before)]
    rfl

theorem lowerSlashAfter (before front rest : List Char) :
    lowerAfter before (front ++ '/' :: rest) = lowerAfter before front ++ '/' :: lower rest := by
  induction front generalizing before with
  | nil => exact congrArg ('/' :: ·) (lowerBehind [] before rest)
  | cons c tail ih =>
    rw [List.cons_append, lowerAfter, lowerAfter, ih, startsCasedSlash, List.append_assoc]

theorem lowerSlash (front rest : List Char) :
    lower (front ++ '/' :: rest) = lower front ++ '/' :: lower rest := lowerSlashAfter [] front rest

theorem slashesChar (c : Char) : (lowerChar c).count '/' = [c].count '/' := by
  by_cases slash : c = '/'
  · subst slash
    decide
  · have free : '/' ∉ lowerChar c := fun member =>
      slash (imageOf (by decide) (List.mem_append_left _ member))
    rw [List.count_eq_zero.mpr free, List.count_singleton, if_neg (by simp [slash])]

theorem slashesLower (before s : List Char) : (lowerAfter before s).count '/' = s.count '/' := by
  induction s generalizing before with
  | nil => rfl
  | cons c rest ih =>
    have image : (if (c.toNat == 0x3A3 && startsCased before && !startsCased rest) = true then
        [Char.ofNat 0x3C2] else lowerChar c).count '/' = [c].count '/' := by
      split
      next final =>
        simp only [Bool.and_eq_true, beq_iff_eq] at final
        have other : '/' ∉ [c] := by
          intro member
          obtain rfl := List.mem_singleton.mp member
          exact absurd final.1.1 (by decide)
        rw [List.count_eq_zero.mpr other]
        decide
      next => exact slashesChar c
    rw [lowerAfter, List.count_append, ih, image, ← List.count_append, List.singleton_append]

def pieces (s : List Char) : List (List Char) :=
  (splitAt (· == '/') s).filter fun piece => !piece.isEmpty

theorem piecesSlash (front rest : List Char) :
    pieces (front ++ '/' :: rest) = pieces front ++ pieces rest := by
  rw [pieces, splitAtCut (d := '/') rfl, List.filter_append]
  rfl

theorem piecesWhole {s : List Char} (some : s ≠ []) (whole : '/' ∉ s) : pieces s = [s] := by
  have free : ∀ c ∈ s, (c == '/') = false := by
    intro c member
    rw [beq_eq_false_iff_ne]
    rintro rfl
    exact whole member
  simp [pieces, splitAtFree free, some]

end Text

structure PathName (s : String) : Prop where
  some : s ≠ ""
  whole : '/' ∉ s.toList

theorem ProperName.pathName {s : String} (proper : ProperName s) : PathName s :=
  ⟨proper.some, proper.whole⟩

namespace Path
open Text
variable {l m : Location}

def slashed (l : Location) : List Char := l.flatMap fun name => '/' :: name.toList

theorem slashedSnoc (l : Location) (name : String) :
    slashed (l ++ [name]) = slashed l ++ '/' :: name.toList := by
  simp [slashed]

theorem slashedHead (some : l ≠ []) : ∃ rest, slashed l = '/' :: rest := by
  obtain ⟨name, others, rfl⟩ := List.exists_cons_of_ne_nil some
  exact ⟨name.toList ++ slashed others, rfl⟩

theorem textSlashed (some : l ≠ []) : (ofLocation l).text.toList = slashed l := by
  have joined : '/' :: (String.intercalate "/" l).toList = slashed l := by
    induction l with
    | nil => exact absurd rfl some
    | cons name rest ih =>
      by_cases last : rest = []
      · simp [last, slashed]
      · have slash : "/".toList = ['/'] := rfl
        rw [String.intercalate_cons_of_ne_nil last, String.toList_append, String.toList_append,
          slash, List.append_assoc, List.singleton_append, ih last]
        rfl
  rw [← joined]
  exact String.toList_append

theorem textRoot : (ofLocation []).text.toList = ['/'] := by decide

theorem piecesSlashed (named : ∀ name ∈ l, PathName name) :
    pieces (slashed l) = l.map String.toList := by
  induction l using List.reverseRecOn with
  | nil => rfl
  | append_singleton front last ih =>
    obtain ⟨fronts, own⟩ := List.forall_mem_append.mp named
    have own := own last List.mem_cons_self
    rw [slashedSnoc, piecesSlash, ih fronts, piecesWhole (by simpa using own.some) own.whole,
      List.map_append]
    rfl

theorem piecesText (named : ∀ name ∈ l, PathName name) :
    pieces (ofLocation l).text.toList = l.map String.toList := by
  by_cases root : l = []
  · subst root
    rw [textRoot]
    rfl
  · rw [textSlashed root, piecesSlashed named]

theorem textApart (first : ∀ name ∈ l, PathName name) (next : ∀ name ∈ m, PathName name)
    (same : (ofLocation l).text = (ofLocation m).text) : l = m := by
  have names := congrArg (fun text => pieces text.toList) same
  rw [piecesText first, piecesText next] at names
  exact List.map_injective_iff.mpr (fun _ _ => String.toList_inj.mp) names

end Path

end EntityForge
