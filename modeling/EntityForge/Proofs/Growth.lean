import EntityForge.Proofs.Formatting
import EntityForge.Proofs.Templates

/-! Texts that say more. Formatting takes away what is not seen, so a text whose lines have more visible
characters than those of another, blank lines apart, is not the same when both are formatted. -/
namespace EntityForge
open Template
open List (Forall₂)

namespace Text

def ink (s : List Char) : Nat := s.countP fun c => !isBlank c

theorem inkAppend (s t : List Char) : ink (s ++ t) = ink s + ink t := List.countP_append

theorem inkZero {s : List Char} : stripEnd s = [] ↔ ink s = 0 := by
  rw [stripEndNil, ink, List.countP_eq_zero]
  simp

theorem inkStrip (s : List Char) : ink (stripEnd s) = ink s := by
  induction s with
  | nil => rfl
  | cons c rest ih =>
    rw [stripEnd]
    split
    next none =>
      have rests := inkZero.mp none
      by_cases blank : isBlank c = true <;> simp_all [ink]
    next => simp only [ink, List.countP_cons] at ih ⊢; rw [ih]

theorem inkJoin (separator : List Char) (pieces : List (List Char)) :
    ink (join separator pieces) = ink pieces.flatten + (pieces.length - 1) * ink separator := by
  induction pieces with
  | nil => simp [join, ink]
  | cons piece rest ih =>
    cases rest with
    | nil => simp [join]
    | cons next others =>
      have first : join separator (piece :: next :: others) =
          piece ++ separator ++ join separator (next :: others) := rfl
      have count : (piece :: next :: others).length - 1 = (next :: others).length - 1 + 1 := rfl
      have inks : ink (piece :: next :: others).flatten = ink piece + ink (next :: others).flatten :=
        inkAppend piece _
      rw [first, inkAppend, inkAppend, ih, inks, count, Nat.add_mul, Nat.one_mul]
      omega

end Text

namespace Format
open Text (ink inkAppend)

theorem inkSqueeze (blanks : Nat) (lines : List (List Char)) :
    ink (squeeze blanks lines).flatten = ink lines.flatten := by
  induction lines generalizing blanks with
  | nil => rfl
  | cons line rest ih =>
    rw [List.flatten_cons, inkAppend]
    by_cases blank : Text.stripEnd line = []
    · rw [squeezeBlank blank, Text.inkZero.mp blank, Nat.zero_add]
      split
      · exact ih _
      · exact ih _
    · rw [squeezeVisible blank, List.flatten_cons, inkAppend, Text.inkStrip, ih]

theorem inkTrim (lines : List (List Char)) : ink (trimEnd lines).flatten = ink lines.flatten := by
  induction lines with
  | nil => rfl
  | cons line rest ih =>
    rw [List.flatten_cons, inkAppend]
    by_cases tail : trimEnd rest = []
    · rw [tail] at ih
      have rests : ink rest.flatten = 0 := ih.symm
      rw [trimConsBlank tail, rests]
      split
      next blank => exact (Text.inkZero.mp blank).symm
      next => simp [Text.inkStrip]
    · rw [trimConsVisible tail, List.flatten_cons, inkAppend, ih]

theorem inkFormat (ending : List Char) (texts : List String) :
    ink (format ending (textOf texts).toList) = ink (linesOf texts).flatten +
      ((squeeze 0 (trimEnd (linesOf texts))).length - 1) * ink ending + ink ending := by
  rw [format, inkAppend, Text.inkJoin, normalTrim, linesText, trimBlankEnd, inkSqueeze, inkTrim]

end Format

structure Grown (line line' : List Char) : Prop where
  blank : Text.stripEnd line = [] ↔ Text.stripEnd line' = []
  ink : Text.ink line ≤ Text.ink line'

namespace Grown
open Format

theorem refl (line : List Char) : Grown line line := ⟨Iff.rfl, Nat.le_refl _⟩

variable {a b : List (List Char)}

theorem total (grown : Forall₂ Grown a b) : Text.ink a.flatten ≤ Text.ink b.flatten := by
  induction grown with
  | nil => exact Nat.le_refl _
  | cons here _ ih =>
    rw [List.flatten_cons, List.flatten_cons, Text.inkAppend, Text.inkAppend]
    exact Nat.add_le_add here.ink ih

theorem trim (grown : Forall₂ Grown a b) : Forall₂ Grown (trimEnd a) (trimEnd b) := by
  induction grown with
  | nil => exact .nil
  | @cons line line' rest rest' here _ ih =>
    by_cases tail : trimEnd rest = []
    · rw [tail] at ih
      have tail' : trimEnd rest' = [] := List.forall₂_nil_left_iff.mp ih
      rw [trimConsBlank tail, trimConsBlank tail']
      by_cases blank : Text.stripEnd line = []
      · rw [if_pos blank, if_pos (here.blank.mp blank)]
        exact .nil
      · rw [if_neg blank, if_neg (mt here.blank.mpr blank)]
        refine .cons ⟨?_, ?_⟩ .nil
        · rw [Text.stripEndIdem, Text.stripEndIdem]
          exact here.blank
        · rw [Text.inkStrip, Text.inkStrip]
          exact here.ink
    · have tail' : trimEnd rest' ≠ [] := fun none => tail (by
        rw [none] at ih
        exact List.forall₂_nil_right_iff.mp ih)
      rw [trimConsVisible tail, trimConsVisible tail']
      exact .cons here ih

theorem squeezeLength (grown : Forall₂ Grown a b) (blanks : Nat) :
    (squeeze blanks a).length = (squeeze blanks b).length := by
  induction grown generalizing blanks with
  | nil => rfl
  | @cons line line' _ _ here _ ih =>
    by_cases blank : Text.stripEnd line = []
    · rw [squeezeBlank blank, squeezeBlank (here.blank.mp blank)]
      split
      · rw [List.length_cons, List.length_cons, ih]
      · exact ih _
    · rw [squeezeVisible blank, squeezeVisible (mt here.blank.mpr blank), List.length_cons,
        List.length_cons, ih]

/- Both texts have the same number of lines, so what is more is seen. -/
theorem formatDiffers {l m : List String} (grown : Forall₂ Grown (linesOf l) (linesOf m))
    (more : Text.ink (linesOf l).flatten < Text.ink (linesOf m).flatten) (ending : List Char) :
    format ending (textOf l).toList ≠ format ending (textOf m).toList := by
  intro same
  have inks := congrArg Text.ink same
  rw [inkFormat, inkFormat, squeezeLength (trim grown)] at inks
  omega

end Grown

namespace Growth
open Text (Short ink)

def TypesGrow (v w : Value) : Prop :=
  ∃ s t : String, v = .text s ∧ w = .text t ∧ Short s ∧ Short t ∧ ink s.toList ≤ ink t.toList

theorem grownLine {s a b : String} (short : Short s) (visible : 0 < ink s.toList) (first : Short a)
    (second : Short b) (rest : String) :
    (ink a.toList ≤ ink b.toList →
      Forall₂ Grown (linesOf [s ++ (a ++ rest)]) (linesOf [s ++ (b ++ rest)])) ∧
    (ink a.toList < ink b.toList →
      ink (linesOf [s ++ (a ++ rest)]).flatten < ink (linesOf [s ++ (b ++ rest)]).flatten) := by
  obtain ⟨head, others, cut⟩ := List.exists_cons_of_ne_nil (Text.splitAtNonempty (· == '\n') rest.toList)
  have lines {x : String} (fine : Short x) :
      linesOf [s ++ (x ++ rest)] = ((s ++ x).toList ++ head) :: others := by
    have text : (s ++ (x ++ rest)).toList = (s ++ x).toList ++ rest.toList := by simp
    rw [linesOf, List.flatMap_singleton, text]
    exact Text.linesAfter (Text.shortAppend short fine) cut
  have inks (x : String) :
      ink ((s ++ x).toList ++ head) = ink s.toList + ink x.toList + ink head := by
    rw [Text.inkAppend, String.toList_append, Text.inkAppend]
  rw [lines first, lines second]
  refine ⟨fun more => .cons ⟨?_, ?_⟩ (List.forall₂_same.mpr fun line _ => .refl line), fun more => ?_⟩
  · rw [Text.inkZero, Text.inkZero, inks, inks]
    omega
  · rw [inks, inks]
    omega
  · have sums (x : String) : ink (((s ++ x).toList ++ head) :: others).flatten =
        ink s.toList + ink x.toList + ink head + ink others.flatten := by
      rw [List.flatten_cons, Text.inkAppend, inks]
    rw [sums, sums]
    omega

def Lines (l m : List String) : Prop := Forall₂ Grown (linesOf l) (linesOf m)

def base : Likeness Bool where
  alike known v w := if known then v = w else TypesGrow v w
  same := id
  lines := Lines
  sameEq {known} _ _ same alike := by simpa [show known = true from same] using alike
  refl _ := List.forall₂_same.mpr fun line _ => .refl line
  append first next := by
    rw [Lines, linesAppend, linesAppend]
    exact List.rel_append first next
  wrap _ wraps := absurd wraps Bool.false_ne_true
  specialFilled _ impossible := absurd impossible Bool.false_ne_true

def typeLine (Γ : Context Bool) : Block → Bool
  | .line (.text s :: .hole source .plain :: rest) =>
    decide (Short s) && decide (0 < ink s.toList) &&
      (match source.shape? Γ with
        | some (.one false) => true
        | _ => false) && rest.all (base.fixedPiece Γ)
  | _ => false

section Filling
variable {Γ : Context Bool} {σ τ : Scope}

theorem typeLineFill {s : String} {source : Source} {rest : List Piece}
    (holds : ScopesHold base.alike Γ σ τ)
    (typed : typeLine Γ (.line (.text s :: .hole source .plain :: rest)) = true) :
    ∃ v w l m, source.read σ = .ok v ∧ source.read τ = .ok w ∧ TypesGrow v w ∧
      Block.fill σ (.line (.text s :: .hole source .plain :: rest)) = .ok l ∧
      Block.fill τ (.line (.text s :: .hole source .plain :: rest)) = .ok m ∧ Lines l m ∧
      (ink v.display.toList < ink w.display.toList →
        ink (linesOf l).flatten < ink (linesOf m).flatten) := by
  simp only [typeLine, Bool.and_eq_true, decide_eq_true_eq] at typed
  obtain ⟨⟨⟨short, visible⟩, shape⟩, fixed⟩ := typed
  split at shape
  next known =>
    obtain ⟨v, w, left, right, a, b, rfl, rfl, first, second, more⟩ := readHolds holds known
    obtain ⟨tail, behind, behind'⟩ := base.fixedLine holds fixed
    obtain ⟨grown, strict⟩ := grownLine short visible first second tail
    refine ⟨_, _, [s ++ (a ++ tail)], [s ++ (b ++ tail)], left, right,
      ⟨a, b, rfl, rfl, first, second, more⟩, ?_, ?_, grown more, strict⟩
    · rw [Block.fill, fillLine, fillLine, Piece.fill, Piece.fill, left, behind]
      rfl
    · rw [Block.fill, fillLine, fillLine, Piece.fill, Piece.fill, right, behind']
      rfl
  next => cases shape

end Filling

def likeness : Likeness Bool :=
  { base with
    special := typeLine
    specialFilled := fun {Γ σ τ b} holds typed => by
      unfold typeLine at typed
      split at typed
      next =>
        obtain ⟨_, _, l, m, _, _, _, left, right, lines, _⟩ := typeLineFill holds typed
        exact ⟨l, m, left, right, lines⟩
      next => cases typed }

def More (l m : List String) : Prop := ink (linesOf l).flatten < ink (linesOf m).flatten

theorem inkLines (a b : List String) :
    ink (linesOf (a ++ b)).flatten = ink (linesOf a).flatten + ink (linesOf b).flatten := by
  rw [linesAppend, List.flatten_append, Text.inkAppend]

theorem moreAbsorbs : likeness.Absorbs More where
  front {a b c d} grown more := by
    have total := Grown.total grown
    rw [More, inkLines, inkLines]
    exact Nat.add_lt_add_of_le_of_lt total more
  back {a b c d} more grown := by
    have total := Grown.total grown
    rw [More, inkLines, inkLines]
    exact Nat.add_lt_add_of_lt_of_le more total

inductive Role where
  | same
  | off
  | unread

def offBlock (Γ : Context Role) : Block → Bool
  | .when source _ =>
    match source.shape? Γ with
    | some (.one .off) => true
    | _ => false
  | _ => false

def Role.alike : Role → Value → Value → Prop
  | .same, v, w => v = w
  | .off, v, w => v = .bool false ∧ w = .bool false
  | .unread, _, _ => True

def Role.isSame : Role → Bool
  | .same => true
  | _ => false

theorem Role.sameEq {role : Role} {v w : Value} (same : role.isSame = true)
    (alike : role.alike v w) : v = w := by
  cases role with
  | same => exact alike
  | off => cases same
  | unread => cases same

theorem offFilled {Γ : Context Role} {σ τ : Scope} {b : Block} (holds : ScopesHold Role.alike Γ σ τ)
    (off : offBlock Γ b = true) : Filled Eq (b.fill σ) (b.fill τ) := by
  unfold offBlock at off
  split at off
  next source body =>
    split at off
    next known =>
      obtain ⟨_, _, left, right, rfl, rfl⟩ := readHolds holds known
      refine ⟨[], [], ?_, ?_, rfl⟩
      · rw [Block.fill, left]; rfl
      · rw [Block.fill, right]; rfl
    next => cases off
  next => cases off

def quiet : Likeness Role := .exact Role.alike Role.isSame Role.sameEq offBlock offFilled

end Growth

end EntityForge
