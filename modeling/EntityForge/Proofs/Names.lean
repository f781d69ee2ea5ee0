import EntityForge.Emit
import EntityForge.Proofs.Settling

/-! Names of generated files. A path takes a name without a slash that does not end in a dot as it
is; a text in front of it moves the file, and that place does not depend on the name. -/
namespace EntityForge

namespace Text

theorem splitAtFree {p : Char → Bool} {s : List Char} (free : ∀ c ∈ s, p c = false) :
    splitAt p s = [s] := by
  induction s with
  | nil => rfl
  | cons c rest ih =>
    obtain ⟨first, others⟩ := List.forall_mem_cons.mp free
    simp [splitAt, first, ih others]

theorem splitAtAfter {p : Char → Bool} {front : List Char} (free : ∀ c ∈ front, p c = false)
    {rest first : List Char} {others : List (List Char)} (cut : splitAt p rest = first :: others) :
    splitAt p (front ++ rest) = (front ++ first) :: others := by
  induction front with
  | nil => exact cut
  | cons c tail ih =>
    obtain ⟨here, later⟩ := List.forall_mem_cons.mp free
    rw [List.cons_append, splitAt, if_neg (by simp [here]), ih later]
    rfl

theorem splitAtAppend (p : Char → Bool) (head : List Char) :
    ∃ front label, ∀ tail, (∀ c ∈ tail, p c = false) →
      splitAt p (head ++ tail) = front ++ [label ++ tail] := by
  induction head with
  | nil => exact ⟨[], [], fun tail free => splitAtFree free⟩
  | cons c rest ih =>
    obtain ⟨front, label, cut⟩ := ih
    by_cases here : p c = true
    · exact ⟨[] :: front, label, fun tail free => by simp [splitAt, here, cut tail free]⟩
    · cases front with
      | nil => exact ⟨[], c :: label, fun tail free => by simp [splitAt, here, cut tail free]⟩
      | cons piece pieces =>
        exact ⟨(c :: piece) :: pieces, label, fun tail free => by
          simp [splitAt, here, cut tail free]⟩

theorem piecesInfix {p : Char → Bool} {s piece : List Char} (member : piece ∈ splitAt p s) :
    piece <:+: s := by
  -- the first piece has to be followed as a prefix, it grows from the front
  have parts : ∃ first others, splitAt p s = first :: others ∧ first <+: s ∧
      ∀ other ∈ others, other <:+: s := by
    clear member
    induction s with
    | nil => exact ⟨[], [], rfl, List.nil_prefix, nofun⟩
    | cons c rest ih =>
      obtain ⟨first, others, cut, front, inner⟩ := ih
      have wider : ∀ other ∈ first :: others, other <:+: c :: rest :=
        List.forall_mem_cons.mpr ⟨front.isInfix.trans (List.suffix_cons c rest).isInfix,
          fun other there => (inner other there).trans (List.suffix_cons c rest).isInfix⟩
      rw [splitAt, cut]
      by_cases here : p c = true
      · exact ⟨[], first :: others, if_pos here, List.nil_prefix, wider⟩
      · exact ⟨c :: first, others, if_neg here, List.cons_prefix_cons.mpr ⟨rfl, front⟩,
          fun other there => wider other (List.mem_cons_of_mem _ there)⟩
  obtain ⟨first, others, cut, front, inner⟩ := parts
  rw [cut] at member
  rcases List.mem_cons.mp member with rfl | there
  · exact front.isInfix
  · exact inner piece there

end Text

structure FileName (s : String) : Prop where
  whole : '/' ∉ s.toList
  ends : ∃ c, s.toList.getLast? = some c ∧ c ≠ '.'

namespace FileName

theorem append {tail : String} (name : FileName tail) (head : String) (whole : '/' ∉ head.toList) :
    FileName (head ++ tail) := by
  obtain ⟨c, last, solid⟩ := name.ends
  refine ⟨?_, c, ?_, solid⟩
  · simp [whole, name.whole]
  · simp [List.getLast?_append, last]

theorem label {tail : String} (name : FileName tail) (head : String) :
    head ++ tail ≠ "" ∧ head ++ tail ≠ "." ∧ head ++ tail ≠ ".." := by
  obtain ⟨c, last, solid⟩ := name.ends
  have ending : (head ++ tail).toList.getLast? = some c := by
    simp [List.getLast?_append, last]
  refine ⟨fun same => ?_, fun same => ?_, fun same => ?_⟩ <;> rw [same] at ending
  · cases ending
  · exact solid (Option.some.inj ending).symm
  · exact solid (Option.some.inj ending).symm

theorem plain {s : String} (name : FileName s) : s ≠ "" ∧ s ≠ "." ∧ s ≠ ".." := by
  simpa using name.label ""

end FileName

namespace Path

theorem anchorRelative {s : String} :
    (ofText s).anchor = .relative ↔ s.toList.head? ≠ some '/' := by
  unfold ofText
  dsimp only
  split
  next shape => simp [shape]
  next shape => simp [shape]
  next shape => simp [shape]
  next deeper twice once =>
    refine ⟨fun _ first => ?_, fun _ => rfl⟩
    obtain ⟨rest, shape⟩ := List.head?_eq_some_iff.mp first
    exact once rest shape

theorem anchorAppend (head : String) : ∃ anchor, ∀ tail, FileName tail →
    (ofText (head ++ tail)).anchor = anchor := by
  refine ⟨(ofText (head ++ "x")).anchor, fun tail name => ?_⟩
  obtain ⟨c, rest, shape⟩ : ∃ c rest, tail.toList = c :: rest := by
    obtain ⟨last, ends, _⟩ := name.ends
    cases chars : tail.toList with
    | nil => simp [chars] at ends
    | cons c rest => exact ⟨c, rest, rfl⟩
  have solid : c ≠ '/' := fun same => name.whole (by rw [shape, same]; exact List.mem_cons_self)
  have letter : "x".toList = ['x'] := rfl
  simp only [ofText, String.toList_append, shape, letter]
  match head.toList with
  | [] => simp [solid]
  | [a] => by_cases ha : a = '/' <;> simp [ha, solid]
  | [a, b] => by_cases ha : a = '/' <;> by_cases hb : b = '/' <;> simp [ha, hb, solid]
  | a :: b :: d :: more =>
    by_cases ha : a = '/' <;> by_cases hb : b = '/' <;> by_cases hd : d = '/' <;> simp [ha, hb, hd]

theorem namesAppend (head : String) : ∃ front label, ∀ tail, FileName tail →
    names (head ++ tail).toList = front ++ [label ++ tail] := by
  obtain ⟨front, label, cut⟩ := Text.splitAtAppend (· == '/') head.toList
  refine ⟨(front.map String.ofList).filter fun part => part ≠ "" && part ≠ ".",
    String.ofList label, fun tail name => ?_⟩
  have free : ∀ c ∈ tail.toList, (c == '/') = false := by
    intro c member
    simp only [beq_eq_false_iff_ne]
    rintro rfl
    exact name.whole member
  have joined : String.ofList (label ++ tail.toList) = String.ofList label ++ tail := by
    simp
  have solid := name.label (String.ofList label)
  simp [names, cut tail.toList free, joined, solid]

theorem childShelf {p : Path} (absolute : p.anchor ≠ .relative) (head : String) :
    ∃ shelf : Path, ∃ label : String, shelf.anchor ≠ .relative ∧
      ∀ tail, FileName tail → p.child (head ++ tail) = ⟨shelf.anchor, shelf.parts ++ [label ++ tail]⟩ := by
  obtain ⟨anchor, anchored⟩ := anchorAppend head
  obtain ⟨front, label, named⟩ := namesAppend head
  refine ⟨p.join ⟨anchor, front⟩, label, ?_, fun tail name => ?_⟩
  · unfold join
    cases anchor <;> simp [absolute]
  · have text : ofText (head ++ tail) = ⟨anchor, front ++ [label ++ tail]⟩ := by
      rw [← anchored tail name, ← named tail name]
      rfl
    rw [child, text]
    cases anchor <;> simp [join]

theorem childFileName (p : Path) {s : String} (name : FileName s) :
    p.child s = ⟨p.anchor, p.parts ++ [s]⟩ := by
  have free : ∀ c ∈ s.toList, (c == '/') = false := by
    intro c member
    simp only [beq_eq_false_iff_ne]
    rintro rfl
    exact name.whole member
  have pieces : names s.toList = [s] := by
    simp [names, Text.splitAtFree free, name.plain]
  have anchored : (ofText s).anchor = .relative :=
    anchorRelative.mpr fun first => name.whole (List.mem_of_head? first)
  have text : ofText s = ⟨.relative, [s]⟩ := by
    rw [← anchored, ← pieces]
    rfl
  rw [child, text]
  rfl

theorem childAbsolute {p : Path} (absolute : p.anchor ≠ .relative) (s : String) :
    (p.child s).anchor ≠ .relative := by
  unfold child join
  split
  · exact absolute
  next relative => exact fun same => relative same

end Path

end EntityForge
