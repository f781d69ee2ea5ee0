import EntityForge.Proofs.Layout

/-! Lines around one text. A generated file has fixed lines and places where a text goes, each of them
in a line of its own. Formatting and indenting keep that shape, so files for two texts without line
breaks differ in those lines only, and a line break makes a file longer. -/
namespace EntityForge

namespace Format

theorem trimNil {lines : List (List Char)} :
    trimEnd lines = [] ↔ ∀ line ∈ lines, Text.stripEnd line = [] := by
  induction lines with
  | nil => simp [trimEnd]
  | cons line rest ih =>
    rw [List.forall_mem_cons, ← ih]
    by_cases tail : trimEnd rest = []
    · simp [trimConsBlank tail, tail]
    · simp [trimConsVisible tail, tail]

theorem trimAppend {back : List (List Char)} (visible : trimEnd back ≠ []) (front : List (List Char)) :
    trimEnd (front ++ back) = front ++ trimEnd back := by
  induction front with
  | nil => rfl
  | cons line rest ih =>
    have more : trimEnd (rest ++ back) ≠ [] := by
      rw [ih]
      exact List.append_ne_nil_of_right_ne_nil _ visible
    rw [List.cons_append, trimConsVisible more, ih, List.cons_append]

theorem squeezeFront (blanks : Nat) (front : List (List Char)) :
    ∃ after, ∀ rest, squeeze blanks (front ++ rest) = squeeze blanks front ++ squeeze after rest := by
  induction front generalizing blanks with
  | nil => exact ⟨blanks, fun rest => rfl⟩
  | cons line more ih =>
    by_cases blank : Text.stripEnd line = []
    · obtain ⟨after, tail⟩ := ih (blanks + 1)
      refine ⟨after, fun rest => ?_⟩
      rw [List.cons_append, squeezeBlank blank, squeezeBlank blank, tail]
      split <;> rfl
    · obtain ⟨after, tail⟩ := ih 0
      refine ⟨after, fun rest => ?_⟩
      rw [List.cons_append, squeezeVisible blank, squeezeVisible blank, tail, List.cons_append]

theorem squeezeLast {line : List Char} (visible : Text.stripEnd line ≠ []) (blanks : Nat)
    (front rest : List (List Char)) :
    squeeze blanks (front ++ line :: rest) = squeeze blanks (front ++ [line]) ++ squeeze 0 rest := by
  obtain ⟨after, cut⟩ := squeezeFront blanks front
  rw [cut, cut, squeezeVisible visible, squeezeVisible visible, squeeze, List.append_assoc]
  rfl

end Format

namespace Layout

theorem visibleIndent {line : List Char} (visible : Visible line) (width : Nat) :
    Visible (Text.indentLine width line) := by
  rw [Visible, Alike.stripIndent, if_neg visible]
  exact List.append_ne_nil_of_right_ne_nil _ visible

theorem visibleAppend {front : List Char} (visible : Visible front) (tail : List Char) :
    Visible (front ++ tail) := by
  obtain ⟨more, kept⟩ := Text.stripEndExtends front tail
  rw [Visible, ← kept]
  exact List.append_ne_nil_of_left_ne_nil visible _

theorem visibleBehind {tail : List Char} (visible : Visible tail) (front : List Char) :
    Visible (front ++ tail) := by
  rw [Visible, Text.stripEndSolid visible]
  exact List.append_ne_nil_of_right_ne_nil _ visible

def Ends (text : String → String) : Prop :=
  ∃ last, Text.isBlank last = false ∧ ∀ s, ∃ front, (text s).toList = front ++ [last]

theorem Ends.solid {text : String → String} (ends : Ends text) (s : String) (pad : List Char) :
    Text.stripEnd (pad ++ (text s).toList) = pad ++ (text s).toList := by
  obtain ⟨last, solid, shape⟩ := ends
  obtain ⟨front, same⟩ := shape s
  have single : Text.stripEnd [last] = [last] := by simp [Text.stripEnd, solid]
  have visible : Text.stripEnd [last] ≠ [] := by simp [single]
  rw [same, ← List.append_assoc, Text.stripEndSolid visible, single]

theorem Ends.visible {text : String → String} (ends : Ends text) (s : String) (pad : List Char) :
    Visible (pad ++ (text s).toList) := by
  rw [Visible, ends.solid]
  obtain ⟨last, _, shape⟩ := ends
  obtain ⟨front, same⟩ := shape s
  simp [same]

/- A place in a file where a text goes. Without line breaks that is one line, else it is several; what
stands before and behind them does not get mixed up with it. -/
structure Place (text : String → String) (lines : String → List (List Char)) : Prop where
  ends : Ends text
  first s : ∃ line rest, lines s = line :: rest ∧ Visible line
  last s : ∃ front line, lines s = front ++ [line] ∧ Visible line
  single : ∃ pad, ∀ s, Text.Short s → lines s = [pad ++ (text s).toList]
  several s : ¬ Text.Short s → 1 < (lines s).length

namespace Place
variable {text : String → String} {lines : String → List (List Char)}

theorem indent (place : Place text lines) (width : Nat) :
    Place text fun s => (lines s).map (Text.indentLine width) where
  ends := place.ends
  first s := by
    obtain ⟨line, rest, cut, visible⟩ := place.first s
    exact ⟨_, _, by rw [cut, List.map_cons], visibleIndent visible width⟩
  last s := by
    obtain ⟨front, line, cut, visible⟩ := place.last s
    exact ⟨_, _, by rw [cut, List.map_append]; rfl, visibleIndent visible width⟩
  single := by
    obtain ⟨pad, alone⟩ := place.single
    refine ⟨List.replicate width ' ' ++ pad, fun s short => ?_⟩
    have shown : ¬ Text.allBlank (pad ++ (text s).toList) = true :=
      mt Text.allBlankIff.mp (place.ends.visible s pad)
    rw [alone s short, List.map_singleton, Text.indentLine, if_neg shown, List.append_assoc]
  several s long := by
    rw [List.length_map]
    exact place.several s long

theorem squeeze (place : Place text lines) : Place text fun s => Format.squeeze 0 (lines s) where
  ends := place.ends
  first s := by
    obtain ⟨line, rest, cut, visible⟩ := place.first s
    refine ⟨_, _, by rw [cut, Format.squeezeVisible visible], ?_⟩
    rwa [Visible, Text.stripEndIdem]
  last s := by
    obtain ⟨front, line, cut, visible⟩ := place.last s
    obtain ⟨after, shown⟩ := Format.squeezeFront 0 front
    refine ⟨Format.squeeze 0 front, Text.stripEnd line, ?_, by rwa [Visible, Text.stripEndIdem]⟩
    rw [cut, shown, Format.squeezeVisible visible, Format.squeeze]
  single := by
    obtain ⟨pad, alone⟩ := place.single
    refine ⟨pad, fun s short => ?_⟩
    rw [alone s short, Format.squeezeVisible (place.ends.visible s pad), place.ends.solid,
      Format.squeeze]
  several s long := by
    have more := place.several s long
    obtain ⟨line, rest, cut, visible⟩ := place.first s
    obtain ⟨front, final, cut', visible'⟩ := place.last s
    rw [cut'] at cut more
    cases front with
    | nil => exact absurd more (by simp)
    | cons head between =>
      obtain ⟨rfl, _⟩ := List.cons.inj cut
      obtain ⟨after, shown⟩ := Format.squeezeFront 0 between
      rw [cut', List.cons_append, Format.squeezeVisible visible, shown,
        Format.squeezeVisible visible', List.length_cons, List.length_append, List.length_cons]
      omega

theorem linesSeveral {s : List Char} (long : '\n' ∈ s) : 1 < (Text.lines s).length := by
  obtain ⟨front, back, rfl⟩ := List.append_of_mem long
  have before := List.length_pos_of_ne_nil (Text.splitAtNonempty (· == '\n') front)
  have behind := List.length_pos_of_ne_nil (Text.splitAtNonempty (· == '\n') back)
  rw [Text.lines, Text.splitAtCut rfl, List.length_append]
  omega

theorem between {opening closing : String} {write : String → String}
    (keeps : ∀ s, Text.Short (write s) ↔ Text.Short s)
    (opens : Text.Short opening ∧ Visible opening.toList) (closes : Text.Short closing)
    (final : ∃ last, closing.toList.getLast? = some last ∧ Text.isBlank last = false) :
    Place (fun s => opening ++ write s ++ closing)
      fun s => Text.lines (opening ++ write s ++ closing).toList := by
  obtain ⟨last, given, solid⟩ := final
  obtain ⟨inner, shape⟩ := List.getLast?_eq_some_iff.mp given
  constructor
  case ends => exact ⟨last, solid, fun s => ⟨(opening ++ write s).toList ++ inner, by simp [shape]⟩⟩
  case first =>
    intro s
    obtain ⟨first, others, cut⟩ : ∃ first others,
        Text.lines ((write s).toList ++ closing.toList) = first :: others :=
      List.exists_cons_of_ne_nil (Text.splitAtNonempty _ _)
    refine ⟨opening.toList ++ first, others, ?_, visibleAppend opens.2 first⟩
    rw [String.toList_append, String.toList_append, List.append_assoc, Text.linesAfter opens.1 cut]
  case last =>
    intro s
    obtain ⟨front, label, cut⟩ := Text.splitAtAppend (· == '\n') (opening ++ write s).toList
    have free : ∀ c ∈ closing.toList, (c == '\n') = false := by
      intro c member
      rw [beq_eq_false_iff_ne]
      rintro rfl
      exact closes member
    have visible : Visible closing.toList := by
      rw [shape]
      exact visibleBehind (by simp [Visible, Text.stripEnd, solid]) inner
    refine ⟨front, label ++ closing.toList, ?_, visibleBehind visible label⟩
    rw [String.toList_append]
    exact cut _ free
  case single =>
    refine ⟨[], fun s short => ?_⟩
    exact Text.shortLines (Text.shortAppend (Text.shortAppend opens.1 ((keeps s).mpr short)) closes)
  -- a line break inside of the text is one of the whole
  case several =>
    intro s long
    have inside : '\n' ∈ (write s).toList := not_not.mp (mt (keeps s).mp long)
    exact linesSeveral (by simp [inside])

end Place

inductive Framed : List (String → String) → (String → List (List Char)) → Prop where
  | fixed (lines : List (List Char)) : Framed [] fun _ => lines
  | place {text lines} (here : Place text lines) : Framed [text] lines
  | append {texts texts' f g} (first : Framed texts f) (next : Framed texts' g) :
      Framed (texts ++ texts') fun s => f s ++ g s

/- The same lines, but for one line for each of the texts: it is that text of `a` on one side and that
text of `b` on the other. -/
inductive SameBut (a b : String) :
    List (String → String) → List (List Char) → List (List Char) → Prop where
  | nil : SameBut a b [] [] []
  | same {texts l m} (line : List Char) (rest : SameBut a b texts l m) :
      SameBut a b texts (line :: l) (line :: m)
  | text {texts l m} (text : String → String) (pad : List Char) (rest : SameBut a b texts l m) :
      SameBut a b (text :: texts) ((pad ++ (text a).toList) :: l) ((pad ++ (text b).toList) :: m)

namespace SameBut
variable {a b : String} {texts texts' : List (String → String)} {l m l' m' : List (List Char)}

theorem length (same : SameBut a b texts l m) : l.length = m.length := by
  induction same with
  | nil => rfl
  | same _ _ ih => rw [List.length_cons, List.length_cons, ih]
  | text _ _ _ ih => rw [List.length_cons, List.length_cons, ih]

theorem refl (lines : List (List Char)) : SameBut a b [] lines lines := by
  induction lines with
  | nil => exact .nil
  | cons line _ ih => exact .same line ih

theorem append (first : SameBut a b texts l m) (next : SameBut a b texts' l' m') :
    SameBut a b (texts ++ texts') (l ++ l') (m ++ m') := by
  induction first with
  | nil => exact next
  | same line _ ih => exact .same line ih
  | text text pad _ ih => exact .text text pad ih

end SameBut

namespace Framed
variable {texts : List (String → String)} {f : String → List (List Char)} {a b : String}

theorem behind (framed : Framed texts f) (front : List (List Char)) : Framed texts fun s => front ++ f s :=
  .append (.fixed front) framed

theorem indent (framed : Framed texts f) (width : Nat) :
    Framed texts fun s => (f s).map (Text.indentLine width) := by
  induction framed with
  | fixed lines => exact .fixed _
  | place here => exact .place (here.indent width)
  | append _ _ first next =>
    simp only [List.map_append]
    exact .append first next

theorem squeeze (framed : Framed texts f) (blanks : Nat) : ∃ g after, Framed texts g ∧
    ∀ s rest, Format.squeeze blanks (f s ++ rest) = g s ++ Format.squeeze after rest := by
  induction framed generalizing blanks with
  | fixed lines =>
    obtain ⟨after, shown⟩ := Format.squeezeFront blanks lines
    exact ⟨_, after, .fixed _, fun s rest => shown rest⟩
  | @place text lines here =>
    refine ⟨_, 0, .place here.squeeze, fun s rest => ?_⟩
    obtain ⟨line, more, cut, visible⟩ := here.first s
    obtain ⟨front, final, cut', visible'⟩ := here.last s
    have fresh : Format.squeeze blanks (lines s) = Format.squeeze 0 (lines s) := by
      rw [cut, Format.squeezeVisible visible, Format.squeezeVisible visible]
    rw [← fresh, cut', List.append_assoc, List.singleton_append, Format.squeezeLast visible']
  | append _ _ first next =>
    obtain ⟨g, between, framed, shown⟩ := first blanks
    obtain ⟨g', after, framed', shown'⟩ := next between
    refine ⟨_, after, .append framed framed', fun s rest => ?_⟩
    rw [List.append_assoc, shown, shown', List.append_assoc]

theorem same (framed : Framed texts f) (first : Text.Short a) (next : Text.Short b) :
    SameBut a b texts (f a) (f b) := by
  induction framed with
  | fixed lines => exact .refl lines
  | place here =>
    obtain ⟨pad, alone⟩ := here.single
    rw [alone a first, alone b next]
    exact .text _ pad .nil
  | append _ _ left right => exact left.append right

theorem longer (framed : Framed texts f) (short : Text.Short a) (long : ¬ Text.Short b) :
    (f a).length + texts.length ≤ (f b).length := by
  induction framed with
  | fixed lines => simp
  | place here =>
    obtain ⟨pad, alone⟩ := here.single
    rw [alone a short]
    exact here.several b long
  | append _ _ left right =>
    simp only [List.length_append]
    omega

theorem sameIff (framed : Framed texts f) (some : texts ≠ []) (short : Text.Short a) :
    SameBut a b texts (f a) (f b) ↔ Text.Short b := by
  refine ⟨fun same => ?_, framed.same short⟩
  by_contra long
  have more := framed.longer short long
  have places := List.length_pos_of_ne_nil some
  have equal := same.length
  omega

end Framed

end Layout

namespace Template
open Layout

theorem framedFormat {texts : List (String → String)} {f : String → List (List Char)}
    (framed : Framed texts f) {back : List (List Char)} (visible : Format.trimEnd back ≠ []) :
    ∃ g, Framed texts g ∧ ∀ s lines, linesOf lines = f s ++ back →
      Text.lines (Format.format ['\n'] (textOf lines).toList) = g s := by
  obtain ⟨g, after, framed, shown⟩ := framed.squeeze 0
  refine ⟨fun s => g s ++ (Format.squeeze after (Format.trimEnd back) ++ [[]]), ?_, ?_⟩
  · rw [← List.append_nil texts]
    exact .append framed (.fixed _)
  · intro s lines cut
    have some : Text.someLine (f s ++ Format.trimEnd back) = f s ++ Format.trimEnd back :=
      Text.someLineOf (List.append_ne_nil_of_right_ne_nil _ visible)
    rw [linesFormat, cut, Format.trimAppend visible, some, shown, List.append_assoc]

theorem framedWrap {texts : List (String → String)} {f : String → List (List Char)}
    (framed : Framed texts f) {back : List (List Char)} (visible : Format.trimEnd back ≠ [])
    (name : String) : ∃ g back', Framed texts g ∧ Format.trimEnd back' ≠ [] ∧
      ∀ s body, linesOf body = f s ++ back → linesOf (wrap name body) = g s ++ back' := by
  refine ⟨fun s => linesOf ["namespace " ++ name, "\x7b"] ++ (f s).map (Text.indentLine 4),
    (Format.trimEnd back).map (Text.indentLine 4) ++ [['\x7d']], ?_, ?_, ?_⟩
  · exact (framed.indent 4).behind _
  · rw [Format.trimAppend (by decide)]
    exact List.append_ne_nil_of_right_ne_nil _ (by decide)
  · intro s body cut
    have some : Text.someLine (f s ++ Format.trimEnd back) = f s ++ Format.trimEnd back :=
      Text.someLineOf (List.append_ne_nil_of_right_ne_nil _ visible)
    rw [linesWrap, cut, Format.trimAppend visible, some, List.map_append, List.append_assoc,
      List.append_assoc, List.append_assoc]

end Template

end EntityForge
