import EntityForge.Proofs.Formatting
import EntityForge.Proofs.Templates

/-! Source texts that are laid out alike. Attributes, the head of a class and the banner are marked by
how their lines begin or what they say; two texts are laid out alike if they differ in marked lines
only, as far as formatting does not tell them apart. -/
namespace EntityForge

namespace Text

theorem containsInfix {needle s : List Char} : contains needle s = true ↔ needle <:+: s := by
  unfold contains
  induction s with
  | nil => cases needle <;> simp [cutAt]
  | cons c rest ih =>
    rw [cutAt, List.infix_cons_iff, ← ih]
    by_cases here : needle <+: c :: rest
    · simp [here]
    · simp [here]

theorem stripEndExtends (s tail : List Char) : stripEnd s <+: stripEnd (s ++ tail) := by
  induction s with
  | nil => exact List.nil_prefix
  | cons c rest ih =>
    rw [List.cons_append, stripEnd, stripEnd]
    cases kept : stripEnd rest with
    | nil =>
      by_cases blank : isBlank c = true
      · simp [blank]
      · cases stripEnd (rest ++ tail) <;> simp [blank]
    | cons d more =>
      rw [kept] at ih
      obtain ⟨behind, more'⟩ := ih
      rw [← more']
      exact ⟨behind, by simp⟩

end Text

namespace Layout

def isMark (line : List Char) : Bool :=
  (Text.stripStart line).head? == some '[' ||
    "public partial class".toList.isPrefixOf (line.dropWhile (· == ' ')) ||
    Text.contains "AUTO GENERATED FILE".toList line

theorem markAppend {line : List Char} (mark : isMark line = true) (tail : List Char) :
    isMark (line ++ tail) = true := by
  have kept {p : Char → Bool} (left : line.dropWhile p ≠ []) :
      (line ++ tail).dropWhile p = line.dropWhile p ++ tail := by
    rw [List.dropWhile_append, if_neg (by simpa using left)]
  simp only [isMark, Bool.or_eq_true, Text.containsInfix, List.isPrefixOf_iff_prefix] at mark ⊢
  rcases mark with (bracket | head) | banner
  · refine .inl (.inl ?_)
    obtain ⟨c, rest, start⟩ : ∃ c rest, Text.stripStart line = c :: rest :=
      List.exists_cons_of_ne_nil fun none => by simp [none] at bracket
    rw [start] at bracket
    have left : line.dropWhile Text.isBlank ≠ [] := List.ne_nil_of_mem (start ▸ List.mem_cons_self)
    rw [Text.stripStart, kept left, ← Text.stripStart, start]
    exact bracket
  · refine .inl (.inr ?_)
    rw [kept fun none => by simp [none] at head]
    exact head.trans (List.prefix_append _ _)
  · exact .inr (banner.trans (List.prefix_append _ _).isInfix)

theorem markIndent {line : List Char} (mark : isMark line = true) (width : Nat) :
    isMark (List.replicate width ' ' ++ line) = true := by
  simp only [isMark, Bool.or_eq_true, Text.containsInfix] at mark ⊢
  rcases mark with (bracket | head) | banner
  · refine .inl (.inl ?_)
    rwa [Text.stripStart, List.dropWhile_append_of_pos (by simp [Text.isBlank])]
  · refine .inl (.inr ?_)
    rwa [List.dropWhile_append_of_pos (by simp)]
  · exact .inr (banner.trans (List.suffix_append _ _).isInfix)

def Marked (line : List Char) : Prop := isMark (Text.stripEnd line) = true

def Visible (line : List Char) : Prop := Text.stripEnd line ≠ []

instance (line : List Char) : Decidable (Visible line) :=
  inferInstanceAs (Decidable (Text.stripEnd line ≠ []))

theorem markedVisible {line : List Char} (marked : Marked line) : Visible line := by
  intro blank
  rw [Marked, blank] at marked
  exact absurd marked (by decide)

theorem markedAppend {line : List Char} (marked : Marked line) (tail : List Char) :
    Marked (line ++ tail) := by
  obtain ⟨more, kept⟩ := Text.stripEndExtends line tail
  rw [Marked, ← kept]
  exact markAppend marked more

/- The same lines up to marked ones, and up to blanks at their ends. A marked line stands for another
one, or it has no counterpart and follows a visible line on both sides (`true`); so it does not matter
for the blank lines that are left out. -/
inductive Alike : Bool → List (List Char) → List (List Char) → Prop where
  | nil {seen} : Alike seen [] []
  | same {seen line line' a b} (kept : Text.stripEnd line = Text.stripEnd line')
      (rest : Alike (!(Text.stripEnd line).isEmpty) a b) : Alike seen (line :: a) (line' :: b)
  | swap {seen line line' a b} (here : Marked line) (there : Marked line') (rest : Alike true a b) :
      Alike seen (line :: a) (line' :: b)
  | left {line a b} (here : Marked line) (rest : Alike true a b) : Alike true (line :: a) b
  | right {line a b} (there : Marked line) (rest : Alike true a b) : Alike true a (line :: b)

namespace Alike
open Format
variable {seen : Bool} {a b c d : List (List Char)} {line line' : List Char}

theorem refl (seen : Bool) (lines : List (List Char)) : Alike seen lines lines := by
  induction lines generalizing seen with
  | nil => exact .nil
  | cons line rest ih => exact .same rfl (ih _)

theorem weaken (alike : Alike false a b) (seen : Bool) : Alike seen a b := by
  cases alike with
  | nil => exact .nil
  | same kept rest => exact .same kept rest
  | swap here there rest => exact .swap here there rest

theorem append (first : Alike seen a b) (next : Alike false c d) : Alike seen (a ++ c) (b ++ d) := by
  induction first with
  | nil => exact next.weaken _
  | same kept _ ih => exact .same kept ih
  | swap here there _ ih => exact .swap here there ih
  | left here _ ih => exact .left here ih
  | right there _ ih => exact .right there ih

theorem gather {g h : List (List Char)} (marked : ∀ l ∈ g, Marked l) (marked' : ∀ l ∈ h, Marked l)
    (rest : Alike true a b) : Alike true (g ++ a) (h ++ b) := by
  induction g with
  | nil =>
    induction h with
    | nil => exact rest
    | cons l h ih =>
      obtain ⟨here, later⟩ := List.forall_mem_cons.mp marked'
      exact .right here (ih later)
  | cons l g ih =>
    obtain ⟨here, later⟩ := List.forall_mem_cons.mp marked
    exact .left here (ih later)

theorem group {g h : List (List Char)} (some : g ≠ []) (some' : h ≠ []) (marked : ∀ l ∈ g, Marked l)
    (marked' : ∀ l ∈ h, Marked l) (rest : Alike true a b) : Alike seen (g ++ a) (h ++ b) := by
  obtain ⟨l, g, rfl⟩ := List.exists_cons_of_ne_nil some
  obtain ⟨m, h, rfl⟩ := List.exists_cons_of_ne_nil some'
  obtain ⟨here, later⟩ := List.forall_mem_cons.mp marked
  obtain ⟨there, later'⟩ := List.forall_mem_cons.mp marked'
  exact .swap here there (gather later later' rest)

theorem behind (front : List (List Char)) (visible : Visible line) (rest : Alike true a b) :
    Alike seen (front ++ line :: a) (front ++ line :: b) := by
  induction front generalizing seen with
  | nil =>
    refine .same rfl ?_
    rw [List.isEmpty_eq_false_iff.mpr visible]
    exact rest
  | cons l front ih => exact .same rfl ih

theorem unmarked (alike : Alike seen a b) {blanks : Nat} (start : seen = true → blanks = 0) :
    (squeeze blanks a).filter (!isMark ·) = (squeeze blanks b).filter (!isMark ·) := by
  have skip {line : List Char} (marked : Marked line) (blanks : Nat) (rest : List (List Char)) :
      (squeeze blanks (line :: rest)).filter (!isMark ·) = (squeeze 0 rest).filter (!isMark ·) := by
    rw [squeezeVisible (markedVisible marked)]
    exact List.filter_cons_of_neg (by simpa [Marked] using marked)
  induction alike generalizing blanks with
  | nil => rfl
  | @same _ line line' a b kept _ ih =>
    by_cases blank : Text.stripEnd line = []
    · have next : (squeeze (blanks + 1) a).filter (!isMark ·) =
          (squeeze (blanks + 1) b).filter (!isMark ·) := ih (by simp [blank])
      rw [squeezeBlank blank, squeezeBlank (kept ▸ blank)]
      split
      · rw [List.filter_cons, List.filter_cons, next]
      · exact next
    · rw [squeezeVisible blank, squeezeVisible (kept ▸ blank), kept, List.filter_cons, List.filter_cons,
        ih fun _ => rfl]
  | swap here there _ ih => rw [skip here, skip there, ih fun _ => rfl]
  | left here _ ih =>
    obtain rfl := start rfl
    rw [skip here, ih fun _ => rfl]
  | right there _ ih =>
    obtain rfl := start rfl
    rw [skip there, ih fun _ => rfl]

theorem trimVisible (visible : Visible line) (rest : List (List Char)) :
    ∃ kept, Text.stripEnd kept = Text.stripEnd line ∧
      trimEnd (line :: rest) = kept :: trimEnd rest := by
  by_cases tail : trimEnd rest = []
  · exact ⟨_, Text.stripEndIdem line, by rw [trimConsBlank tail, if_neg visible, tail]⟩
  · exact ⟨line, rfl, trimConsVisible tail line⟩

theorem trim (alike : Alike seen a b) :
    Alike seen (trimEnd a) (trimEnd b) ∧ (seen = false → (trimEnd a = [] ↔ trimEnd b = [])) := by
  have markedTrim {line : List Char} (marked : Marked line) (rest : List (List Char)) :
      ∃ kept, Marked kept ∧ trimEnd (line :: rest) = kept :: trimEnd rest := by
    obtain ⟨kept, same, trimmed⟩ := trimVisible (markedVisible marked) rest
    exact ⟨kept, by rwa [Marked, same], trimmed⟩
  induction alike with
  | nil => exact ⟨.nil, fun _ => Iff.rfl⟩
  | @same seen line line' a b same _ ih =>
    -- a blank line goes only if nothing visible follows it, on either side
    by_cases blank : Text.stripEnd line = []
    · obtain ⟨rest, none⟩ := ih
      have none := none (by simp [blank])
      by_cases tail : trimEnd a = []
      · rw [trimConsBlank tail, trimConsBlank (none.mp tail), if_pos blank, if_pos (same ▸ blank)]
        exact ⟨.nil, fun _ => Iff.rfl⟩
      · rw [trimConsVisible tail, trimConsVisible (mt none.mpr tail)]
        exact ⟨.same same rest, fun _ => by simp⟩
    · obtain ⟨kept, first, trimmed⟩ := trimVisible blank a
      have blank' : Visible line' := fun none => blank (same.trans none)
      obtain ⟨kept', second, trimmed'⟩ := trimVisible blank' b
      rw [trimmed, trimmed']
      exact ⟨.same (first.trans (same.trans second.symm)) (first ▸ ih.1), fun _ => by simp⟩
  | @swap _ _ _ a b here there _ ih =>
    obtain ⟨kept, marked, trimmed⟩ := markedTrim here a
    obtain ⟨kept', marked', trimmed'⟩ := markedTrim there b
    rw [trimmed, trimmed']
    exact ⟨.swap marked marked' ih.1, fun _ => by simp⟩
  | @left _ a b here _ ih =>
    obtain ⟨kept, marked, trimmed⟩ := markedTrim here a
    rw [trimmed]
    exact ⟨.left marked ih.1, nofun⟩
  | @right _ a b there _ ih =>
    obtain ⟨kept, marked, trimmed⟩ := markedTrim there b
    rw [trimmed]
    exact ⟨.right marked ih.1, nofun⟩

theorem stripIndent (width : Nat) (line : List Char) : Text.stripEnd (Text.indentLine width line) =
    if Text.stripEnd line = [] then [] else List.replicate width ' ' ++ Text.stripEnd line := by
  unfold Text.indentLine
  by_cases blank : Text.stripEnd line = []
  · rw [if_pos (Text.allBlankIff.mpr blank), if_pos blank, blank]
  · rw [if_neg (mt Text.allBlankIff.mp blank), if_neg blank, Text.stripEndSolid blank]

theorem indent (alike : Alike seen a b) (width : Nat) :
    Alike seen (a.map (Text.indentLine width)) (b.map (Text.indentLine width)) := by
  have markedIndent {line : List Char} (marked : Marked line) :
      Marked (Text.indentLine width line) := by
    rw [Marked, stripIndent, if_neg (markedVisible marked)]
    exact markIndent marked width
  induction alike with
  | nil => exact .nil
  | @same _ line line' a b same _ ih =>
    refine .same (by rw [stripIndent, stripIndent, same]) ?_
    have visible : (Text.stripEnd (Text.indentLine width line)).isEmpty =
        (Text.stripEnd line).isEmpty := by
      rw [stripIndent]
      split
      next blank => rw [blank]
      next solid =>
        rw [Bool.eq_iff_iff, List.isEmpty_iff, List.isEmpty_iff, List.append_eq_nil_iff]
        exact ⟨fun both => both.2, fun none => absurd none solid⟩
    rw [visible]
    exact ih
  | swap here there _ ih => exact .swap (markedIndent here) (markedIndent there) ih
  | left here _ ih => exact .left (markedIndent here) ih
  | right there _ ih => exact .right (markedIndent there) ih

theorem body (alike : Alike false a b) :
    Alike false (Text.someLine (trimEnd a)) (Text.someLine (trimEnd b)) := by
  obtain ⟨trimmed, none⟩ := trim alike
  cases left : trimEnd a with
  | nil =>
    rw [(none rfl).mp left]
    exact refl _ _
  | cons line rest =>
    obtain ⟨line', rest', right⟩ := List.exists_cons_of_ne_nil
      (mt (none rfl).mpr (left ▸ List.cons_ne_nil line rest))
    rw [left, right] at trimmed
    rw [right]
    exact trimmed

theorem wrap (name : String) {l m : List String}
    (alike : Alike false (Template.linesOf l) (Template.linesOf m)) :
    Alike false (Template.linesOf (Template.wrap name l))
      (Template.linesOf (Template.wrap name m)) := by
  rw [Template.linesWrap, Template.linesWrap]
  exact ((refl _ _).append (alike.body.indent 4)).append (refl _ _)

end Alike

def unmarkedLines (content : String) : List (List Char) :=
  (Text.lines content.toList).filter (!isMark ·)

theorem unmarkedFormat {l m : List String}
    (alike : Alike false (Template.linesOf l) (Template.linesOf m)) :
    unmarkedLines (String.ofList (Format.format ['\n'] (Template.textOf l).toList)) =
      unmarkedLines (String.ofList (Format.format ['\n'] (Template.textOf m).toList)) := by
  unfold unmarkedLines
  rw [String.toList_ofList, String.toList_ofList, Template.linesFormat, Template.linesFormat,
    List.filter_append, List.filter_append, alike.body.unmarked fun _ => rfl]

end Layout

end EntityForge
