import EntityForge.Proofs.Formatting

/-! Blanks at the ends of a text. No rule for names, flags and tags sees them: lower case neither
makes nor takes blanks and does not look past them, and dots are no blanks. -/
namespace EntityForge.Text

def Blank (s : List Char) : Prop := ∀ c ∈ s, isBlank c = true

namespace Blank
variable {s t : List Char}

theorem nil : Blank [] := fun _ there => nomatch there

theorem cons {c : Char} (blank : Blank (c :: s)) : isBlank c = true ∧ Blank s :=
  List.forall_mem_cons.mp blank

theorem reverse (blank : Blank s) : Blank s.reverse :=
  fun c there => blank c (List.mem_reverse.mp there)

theorem free (blank : Blank s) {d : Char} (other : isBlank d = false) :
    ∀ c ∈ s, (c == d) = false := by
  intro c there
  rw [beq_eq_false_iff_ne]
  rintro rfl
  simp [blank c there] at other

end Blank

theorem stripEndCut (s : List Char) : ∃ back, Blank back ∧ s = stripEnd s ++ back := by
  induction s with
  | nil => exact ⟨[], nofun, rfl⟩
  | cons c rest ih =>
    obtain ⟨back, blank, cut⟩ := ih
    rw [stripEnd]
    cases kept : stripEnd rest with
    | nil =>
      rw [kept, List.nil_append] at cut
      by_cases here : isBlank c = true
      · exact ⟨c :: rest, List.forall_mem_cons.mpr ⟨here, cut ▸ blank⟩, by simp [here]⟩
      · exact ⟨rest, cut ▸ blank, by simp [here]⟩
    | cons d more => exact ⟨back, blank, by rw [List.cons_append, ← kept, ← cut]⟩

theorem stripCut (s : List Char) :
    ∃ front back, Blank front ∧ Blank back ∧ s = front ++ strip s ++ back := by
  obtain ⟨back, blank, cut⟩ := stripEndCut (stripStart s)
  refine ⟨s.takeWhile isBlank, back, List.all_eq_true.mp List.all_takeWhile, blank, ?_⟩
  rw [List.append_assoc, strip, ← cut]
  exact List.takeWhile_append_dropWhile.symm

theorem stripEndBlank {back : List Char} (blank : Blank back) (s : List Char) :
    stripEnd (s ++ back) = stripEnd s := by
  induction s with
  | nil => exact stripEndNil.mpr blank
  | cons c rest ih => rw [List.cons_append, stripEnd, stripEnd, ih]

theorem stripAround {front back : List Char} (first : Blank front) (last : Blank back)
    (s : List Char) : strip (front ++ s ++ back) = strip s := by
  have behind : stripEnd (stripStart (s ++ back)) = stripEnd (stripStart s) := by
    induction s with
    | nil =>
      exact stripEndNil.mpr fun c there => last c ((List.dropWhile_suffix _).subset there)
    | cons c rest ih =>
      by_cases here : isBlank c = true
      · rwa [List.cons_append, stripStart, stripStart, List.dropWhile_cons_of_pos here,
          List.dropWhile_cons_of_pos here]
      · rw [List.cons_append, stripStart, stripStart, List.dropWhile_cons_of_neg here,
          List.dropWhile_cons_of_neg here]
        exact stripEndBlank last (c :: rest)
  rw [strip, stripStart, List.append_assoc, List.dropWhile_append_of_pos first]
  exact behind

theorem stripIdem (s : List Char) : strip (strip s) = strip s := by
  obtain ⟨front, back, first, last, cut⟩ := stripCut s
  conv_rhs => rw [cut, stripAround first last]

theorem trimIdem (s : String) : trim (trim s) = trim s := by
  simp only [trim, String.toList_ofList, stripIdem]

section Case

def blanks : List Nat :=
  List.range' 0x09 5 ++ List.range' 0x1C 5 ++ [0x85, 0xA0, 0x1680] ++ List.range' 0x2000 11 ++
    [0x2028, 0x2029, 0x202F, 0x205F, 0x3000]

theorem blankListed {c : Char} (blank : isBlank c = true) : c.toNat ∈ blanks := by
  simp only [isBlank, Bool.or_eq_true, Bool.and_eq_true, decide_eq_true_eq, beq_iff_eq] at blank
  simp only [blanks, List.mem_append, List.mem_range'_1, List.mem_cons, List.not_mem_nil, or_false]
  grind

theorem blankCase {c : Char} (blank : isBlank c = true) :
    c.toNat ≠ 0x3A3 ∧ lowerChar c = [c] ∧ inBlocks caseIgnorable c = false ∧
      inBlocks cased c = false := by
  have all : ∀ n ∈ blanks, n ≠ 0x3A3 ∧ lowerChar (Char.ofNat n) = [Char.ofNat n] ∧
      inBlocks caseIgnorable (Char.ofNat n) = false ∧ inBlocks cased (Char.ofNat n) = false := by
    decide +kernel
  simpa using all c.toNat (blankListed blank)

theorem startsCasedBlank {back : List Char} (blank : Blank back) (s : List Char) :
    startsCased (s ++ back) = startsCased s := by
  unfold startsCased
  rw [List.find?_append]
  cases s.find? fun c => !inBlocks caseIgnorable c with
  | some c => rfl
  | none =>
    cases back with
    | nil => rfl
    | cons c rest =>
      obtain ⟨_, _, seen, plain⟩ := blankCase blank.cons.1
      simp [seen, plain]

theorem lowerBlank {s : List Char} (blank : Blank s) (before : List Char) :
    lowerAfter before s = s := by
  induction s generalizing before with
  | nil => rfl
  | cons c rest ih =>
    obtain ⟨other, same, _⟩ := blankCase blank.cons.1
    rw [lowerAfter, ih blank.cons.2, same]
    simp [other]

theorem lowerFront {front : List Char} (blank : Blank front) (before s : List Char) :
    lowerAfter before (front ++ s) = front ++ lowerAfter (front.reverse ++ before) s := by
  induction front generalizing before with
  | nil => rfl
  | cons c rest ih =>
    obtain ⟨other, same, _⟩ := blankCase blank.cons.1
    rw [List.cons_append, lowerAfter, ih blank.cons.2, same]
    simp [other]

theorem lowerBetween {front back : List Char} (first : Blank front) (last : Blank back)
    (before s : List Char) :
    lowerAfter (before ++ front) (s ++ back) = lowerAfter before s ++ back := by
  induction s generalizing before with
  | nil => exact lowerBlank last _
  | cons c rest ih =>
    have inner := ih (c :: before)
    rw [List.cons_append] at inner
    rw [List.cons_append, lowerAfter, lowerAfter, inner, startsCasedBlank first,
      startsCasedBlank last, List.append_assoc]

theorem lowerAround {front back : List Char} (first : Blank front) (last : Blank back)
    (s : List Char) : lower (front ++ s ++ back) = front ++ lower s ++ back := by
  have inner := lowerBetween first.reverse last [] s
  rw [List.nil_append] at inner
  rw [lower, lower, List.append_assoc, lowerFront first, List.append_nil, inner, List.append_assoc]

theorem lowercaseTrim (s : String) : trim (lowercase (trim s)) = trim (lowercase s) := by
  obtain ⟨front, back, first, last, cut⟩ := stripCut s.toList
  have whole : strip (lower s.toList) = strip (lower (strip s.toList)) := by
    conv_lhs => rw [cut, lowerAround first last, stripAround first last]
  simp only [trim, lowercase, String.toList_ofList, whole]

end Case

theorem splitStrip {d : Char} (other : isBlank d = false) (s : List Char) :
    (splitAt (· == d) (strip s)).map strip = (splitAt (· == d) s).map strip := by
  obtain ⟨front, back, first, last, cut⟩ := stripCut s
  obtain ⟨pieces, label, grows⟩ := splitAtAppend (· == d) (strip s)
  have bare := grows [] nofun
  have longer := grows back (last.free other)
  rw [List.append_nil, List.append_nil] at bare
  conv_rhs => rw [cut, List.append_assoc]
  cases pieces with
  | nil =>
    rw [splitAtAfter (first.free other) longer, bare]
    simp only [List.nil_append, List.map_cons, List.map_nil]
    rw [← List.append_assoc, stripAround first last]
  | cons piece more =>
    have start : strip (front ++ piece) = strip piece := by
      simpa using stripAround first .nil piece
    have final : strip (label ++ back) = strip label := by
      simpa using stripAround .nil last label
    rw [List.cons_append] at longer bare
    rw [splitAtAfter (first.free other) longer, bare]
    simp only [List.map_cons, List.map_append, List.map_nil, start, final]

end EntityForge.Text
