import EntityForge.Proofs.Blanks

/-! The normal form of source texts. Lines are in normal form if none of them ends in a blank and no
three blank ones follow each other. Formatting gives such lines and leaves them as they are, and it
loses nothing of a text but blanks: its lines that are not blank stay in their order. -/
namespace EntityForge

namespace Text

theorem solidEnd {s : List Char} (solid : stripEnd s = s) {last : Char}
    (ends : s.getLast? = some last) : isBlank last = false := by
  obtain ⟨front, rfl⟩ := List.getLast?_eq_some_iff.mp ends
  by_contra blank
  have gap : Blank [last] := by simpa [Blank] using blank
  have shorter := (stripEndPrefix front).length_le
  rw [stripEndBlank gap] at solid
  rw [solid, List.length_append, List.length_singleton] at shorter
  omega

theorem allBlankPad {pad : List Char} (blank : Blank pad) (s : List Char) :
    allBlank (s ++ pad) = allBlank s := by
  rw [Bool.eq_iff_iff, allBlankIff, allBlankIff, stripEndBlank blank]

theorem joinLast (separator line tail : List Char) (front : List (List Char)) :
    join separator (front ++ [line ++ tail]) = join separator (front ++ [line]) ++ tail := by
  induction front with
  | nil => rfl
  | cons piece rest ih =>
    cases rest with
    | nil => simp [join]
    | cons next others =>
      simp only [List.cons_append] at ih
      simp only [List.cons_append, joinCons, ih, List.append_assoc]

theorem joinPadded (pad separator : List Char) (pieces : List (List Char)) :
    join (pad ++ separator) pieces ++ pad = join separator ((someLine pieces).map (· ++ pad)) := by
  induction pieces with
  | nil => rfl
  | cons piece rest ih =>
    cases rest with
    | nil => rfl
    | cons next others =>
      have some : someLine (piece :: next :: others) = piece :: someLine (next :: others) := rfl
      rw [joinCons, some, List.append_assoc, ih]
      simp [someLine, joinCons]

theorem joinReplaced {pieces : List (List Char)} (free : ∀ piece ∈ pieces, '\n' ∉ piece)
    (ending : List Char) : (join ['\n'] pieces).flatMap (fun c => if c = '\n' then ending else [c]) =
      join ending pieces := by
  have same {piece : List Char} (free : '\n' ∉ piece) :
      piece.flatMap (fun c => if c = '\n' then ending else [c]) = piece := by
    induction piece with
    | nil => rfl
    | cons c rest ih =>
      obtain ⟨other, free⟩ := List.ne_and_not_mem_of_not_mem_cons free
      rw [List.flatMap_cons, if_neg other.symm, ih free, List.singleton_append]
  induction pieces with
  | nil => rfl
  | cons piece rest ih =>
    obtain ⟨here, later⟩ := List.forall_mem_cons.mp free
    cases rest with
    | nil => exact same here
    | cons next others =>
      rw [joinCons, joinCons, List.flatMap_append, List.flatMap_append, same here, ih later]
      simp

end Text

namespace Format

inductive Normal : Nat → List (List Char) → Prop where
  | nil {blanks} : Normal blanks []
  | blank {blanks rest} (room : blanks < 2) (later : Normal (blanks + 1) rest) :
      Normal blanks ([] :: rest)
  | visible {blanks line rest} (solid : Text.stripEnd line = line) (shown : line ≠ [])
      (later : Normal 0 rest) : Normal blanks (line :: rest)

namespace Normal
variable {blanks : Nat} {lines front rest : List (List Char)} {line : List Char}

theorem fewer (normal : Normal (blanks + 1) lines) : Normal blanks lines := by
  generalize more : blanks + 1 = after at normal
  induction normal generalizing blanks with
  | nil => exact .nil
  | blank room _ ih =>
    subst more
    exact .blank (by omega) (ih rfl)
  | visible solid shown later _ => exact .visible solid shown later

theorem ofSqueeze (blanks : Nat) (lines : List (List Char)) : Normal blanks (squeeze blanks lines) := by
  induction lines generalizing blanks with
  | nil => exact .nil
  | cons line rest ih =>
    by_cases gap : Text.stripEnd line = []
    · rw [squeezeBlank gap]
      split
      next room => exact .blank room (ih _)
      next => exact (ih _).fewer
    · rw [squeezeVisible gap]
      exact .visible (Text.stripEndIdem line) gap (ih 0)

theorem squeezed (normal : Normal blanks lines) : squeeze blanks lines = lines := by
  induction normal with
  | nil => rfl
  | blank room _ ih => rw [squeezeBlank rfl, if_pos room, ih]
  | visible solid shown _ ih => rw [squeezeVisible (solid.symm ▸ shown), solid, ih]

theorem dropTail (normal : Normal blanks lines) : Normal blanks (Format.dropTail lines) := by
  induction normal with
  | nil => exact .nil
  | @blank _ rest room _ ih =>
    by_cases tail : Format.dropTail rest = []
    · rw [dropTailLast tail, if_pos rfl]
      exact .nil
    · rw [dropTailKept tail]
      exact .blank room ih
  | @visible _ line rest solid shown _ ih =>
    by_cases tail : Format.dropTail rest = []
    · rw [dropTailLast tail, if_neg shown]
      exact .visible solid shown .nil
    · rw [dropTailKept tail]
      exact .visible solid shown ih

theorem solid (normal : Normal blanks lines) : ∀ line ∈ lines, Text.stripEnd line = line := by
  induction normal with
  | nil => exact List.forall_mem_nil _
  | blank _ _ ih => exact List.forall_mem_cons.mpr ⟨rfl, ih⟩
  | visible solid _ _ ih => exact List.forall_mem_cons.mpr ⟨solid, ih⟩

theorem behind (normal : Normal blanks (front ++ [line])) (shown : line ≠ []) (later : Normal 0 rest) :
    Normal blanks (front ++ line :: rest) := by
  induction front generalizing blanks with
  | nil =>
    cases normal with
    | blank => exact absurd rfl shown
    | visible solid => exact .visible solid shown later
  | cons first more ih =>
    cases normal with
    | blank room next => exact .blank room (ih next)
    | visible solid shown next => exact .visible solid shown (ih next)

theorem noThree (normal : Normal blanks lines) : ¬ [[], [], []] <:+: lines := by
  induction normal with
  | nil => simp
  | @blank before rest room later ih =>
    rw [List.infix_cons_iff, not_or]
    refine ⟨fun first => ?_, ih⟩
    obtain ⟨tail, cut⟩ := (List.cons_prefix_cons.mp first).2
    rw [← cut] at later
    cases later with
    | blank _ later =>
      cases later with
      | blank third _ => omega
      | visible _ shown => exact shown rfl
    | visible _ shown => exact shown rfl
  | visible _ shown _ ih =>
    rw [List.infix_cons_iff, not_or]
    exact ⟨fun first => shown (List.cons_prefix_cons.mp first).1.symm, ih⟩

end Normal

theorem dropTailEnds (lines : List (List Char)) :
    dropTail lines = [] ∨ ∃ front last, dropTail lines = front ++ [last] ∧ last ≠ [] := by
  induction lines with
  | nil => exact .inl rfl
  | cons line rest ih =>
    rcases ih with none | ⟨front, last, cut, shown⟩
    · rw [dropTailLast none]
      by_cases gap : line = []
      · exact .inl (if_pos gap)
      · exact .inr ⟨[], line, if_neg gap, gap⟩
    · have some : dropTail rest ≠ [] := by simp [cut]
      exact .inr ⟨line :: front, last, by rw [dropTailKept some, cut, List.cons_append], shown⟩

theorem dropTailIdem (lines : List (List Char)) : dropTail (dropTail lines) = dropTail lines := by
  induction lines with
  | nil => rfl
  | cons line rest ih =>
    by_cases tail : dropTail rest = []
    · rw [dropTailLast tail]
      split
      next => rfl
      next shown => rw [dropTailLast rfl, if_neg shown]
    · rw [dropTailKept tail, dropTailKept (ih.symm ▸ tail), ih]

theorem squeezeStripped (blanks : Nat) (lines : List (List Char)) :
    squeeze blanks (lines.map Text.stripEnd) = squeeze blanks lines := by
  induction lines generalizing blanks with
  | nil => rfl
  | cons line rest ih =>
    by_cases gap : Text.stripEnd line = []
    · rw [List.map_cons, gap, squeezeBlank rfl, squeezeBlank gap, ih]
    · rw [List.map_cons, squeezeVisible (by rwa [Text.stripEndIdem]), squeezeVisible gap,
        Text.stripEndIdem, ih]

def shown (line : List Char) : Bool := !Text.allBlank line

theorem shownIff {line : List Char} : shown line = true ↔ Text.stripEnd line ≠ [] := by
  rw [shown, Bool.not_eq_true', ← Bool.not_eq_true, Text.allBlankIff]

def shownLines (lines : List (List Char)) : List (List Char) := (lines.map Text.stripEnd).filter shown

def visibleLines (code : List Char) : List (List Char) := shownLines (Text.lines code)

theorem squeezeShown (blanks : Nat) (lines : List (List Char)) :
    (squeeze blanks lines).filter shown = shownLines lines := by
  unfold shownLines
  have hidden : ¬ shown [] = true := by decide
  induction lines generalizing blanks with
  | nil => rfl
  | cons line rest ih =>
    by_cases gap : Text.stripEnd line = []
    · rw [List.map_cons, gap, List.filter_cons_of_neg hidden, squeezeBlank gap]
      split
      next => rw [List.filter_cons_of_neg hidden, ih]
      next => exact ih _
    · rw [List.map_cons, squeezeVisible gap, List.filter_cons, List.filter_cons, ih]

theorem dropTailShown (lines : List (List Char)) :
    (dropTail lines).filter shown = lines.filter shown := by
  induction lines with
  | nil => rfl
  | cons line rest ih =>
    rw [List.filter_cons, ← ih]
    by_cases tail : dropTail rest = []
    · rw [dropTailLast tail, tail]
      by_cases gap : line = []
      · rw [if_pos gap, gap]
        rfl
      · rw [if_neg gap, List.filter_cons]
    · rw [dropTailKept tail, List.filter_cons]

section Lines
variable (code : List Char)

theorem normalLinesNormal : Normal 0 (normalLines code) := (Normal.ofSqueeze 0 _).dropTail

theorem normalLinesShown : (normalLines code).filter shown = visibleLines code := by
  rw [normalLines, dropTailShown, squeezeShown, visibleLines]

theorem normalLinesEnd : normalLines code = [] ∧ visibleLines code = [] ∨
    ∃ front line last, normalLines code = front ++ [line ++ [last]] ∧ Text.isBlank last = false ∧
      visibleLines code ≠ [] := by
  rcases dropTailEnds (squeeze 0 (Text.lines code)) with none | ⟨front, final, cut, some⟩
  · refine .inl ⟨none, ?_⟩
    rw [← normalLinesShown, normalLines, none]
    rfl
  · have cut : normalLines code = front ++ [final] := cut
    have solid : Text.stripEnd final = final :=
      (normalLinesNormal code).solid final (by simp [cut])
    obtain ⟨last, ends⟩ := Option.isSome_iff_exists.mp (List.getLast?_isSome.mpr some)
    obtain ⟨line, rfl⟩ := List.getLast?_eq_some_iff.mp ends
    refine .inr ⟨front, line, last, cut, Text.solidEnd solid ends, ?_⟩
    rw [← normalLinesShown, cut, List.filter_append]
    have seen : shown (line ++ [last]) = true := shownIff.mpr (solid.symm ▸ some)
    simp [seen]

end Lines

section Endings
variable {pad : List Char} (free : '\n' ∉ pad) (code : List Char)
include free

theorem formatPieces : Text.lines (format (pad ++ ['\n']) code) =
    (Text.someLine (normalLines code)).map (· ++ pad) ++ [[]] := by
  let padded := (Text.someLine (normalLines code)).map (· ++ pad)
  have solid : ∀ piece ∈ padded, '\n' ∉ piece := by
    intro _ member
    obtain ⟨line, there, rfl⟩ := List.mem_map.mp member
    have short : '\n' ∉ line := by
      rcases Text.someLineMember there with rfl | there
      · exact List.not_mem_nil
      · exact normalFree there
    simp [short, free]
  have some : padded ≠ [] := fun none => Text.someLineSome _ (List.map_eq_nil_iff.mp none)
  have joined : format (pad ++ ['\n']) code = Text.join ['\n'] padded ++ '\n' :: [] := by
    rw [format, ← List.append_assoc, Text.joinPadded]
  have lines : Text.lines (Text.join ['\n'] padded) = padded :=
    (Text.linesJoin solid).trans (Text.someLineOf some)
  rw [joined]
  exact (Text.splitAtCut rfl _ []).trans (congrArg (· ++ [[]]) lines)

variable (blank : Text.Blank pad)
include blank

theorem normalAgain : normalLines (format (pad ++ ['\n']) code) = normalLines code := by
  have stripped : ((Text.someLine (normalLines code)).map (· ++ pad) ++ [[]]).map Text.stripEnd =
      (Text.someLine (normalLines code) ++ [[]]).map Text.stripEnd := by
    simp [Function.comp_def, Text.stripEndBlank blank]
  rw [normalLines, formatPieces free, ← squeezeStripped, stripped, squeezeStripped, ← squeezeTrim,
    trimBlankEnd, squeezeTrim]
  by_cases none : normalLines code = []
  · rw [none]
    rfl
  · rw [Text.someLineOf none, (normalLinesNormal code).squeezed, normalLines, dropTailIdem]

theorem formatAgain : format (pad ++ ['\n']) (format (pad ++ ['\n']) code) =
    format (pad ++ ['\n']) code := by
  rw [format, normalAgain free code blank, ← format]

theorem formatShown : (Text.lines (format (pad ++ ['\n']) code)).filter shown =
    (visibleLines code).map (· ++ pad) := by
  have hidden : [[]].filter shown = [] := by decide
  have some : (Text.someLine (normalLines code)).filter shown = (normalLines code).filter shown := by
    cases normalLines code <;> rfl
  have pads : shown ∘ (· ++ pad) = shown :=
    funext fun line => congrArg not (Text.allBlankPad blank line)
  rw [formatPieces free, List.filter_append, hidden, List.append_nil, List.filter_map, pads, some,
    normalLinesShown]

end Endings

theorem formatNormal (code : List Char) : Normal 0 (Text.lines (format ['\n'] code)) := by
  rw [formatLines]
  have lone : Normal 0 [[]] := .blank (by decide) .nil
  rcases normalLinesEnd code with ⟨none, _⟩ | ⟨front, line, last, cut, _⟩
  · rw [none]
    exact .blank (by decide) (.blank (by decide) .nil)
  · have some : Text.someLine (normalLines code) = normalLines code := by
      rw [cut, Text.someLine]
      simp
    have normal := normalLinesNormal code
    rw [cut] at normal
    rw [some, cut, List.append_assoc]
    exact normal.behind (by simp) lone

theorem formatEnd (code : List Char) :
    (visibleLines code = [] → format ['\n'] code = ['\n']) ∧
      (visibleLines code ≠ [] → ∃ front last, format ['\n'] code = front ++ [last, '\n'] ∧
        Text.isBlank last = false) := by
  rcases normalLinesEnd code with ⟨none, all⟩ | ⟨front, line, last, cut, solid, some⟩
  · refine ⟨fun _ => ?_, fun some => absurd all some⟩
    rw [format, none]
    rfl
  · refine ⟨fun none => absurd none some, fun _ => ⟨Text.join ['\n'] (front ++ [line]), last, ?_, solid⟩⟩
    rw [format, cut, Text.joinLast, List.append_assoc]
    rfl

/- Formatting again changes nothing. The lines that are not blank stay, those that are come in twos at
most and not at the end, and another line ending stands where the line break would. -/
theorem normalForm (code : List Char) :
    (∀ pad ∈ [[], ['\r']],
      format (pad ++ ['\n']) (format (pad ++ ['\n']) code) = format (pad ++ ['\n']) code ∧
      (Text.lines (format (pad ++ ['\n']) code)).filter shown = (visibleLines code).map (· ++ pad)) ∧
    (∀ line ∈ Text.lines (format ['\n'] code), ∀ last, line.getLast? = some last →
      Text.isBlank last = false) ∧
    ¬ [[], [], []] <:+: Text.lines (format ['\n'] code) ∧
    (visibleLines code = [] → format ['\n'] code = ['\n']) ∧
    (visibleLines code ≠ [] → ∃ front last, format ['\n'] code = front ++ [last, '\n'] ∧
      Text.isBlank last = false) ∧
    ∀ ending, format ending code =
      (format ['\n'] code).flatMap fun c => if c = '\n' then ending else [c] := by
  refine ⟨?_, ?_, (formatNormal code).noThree, (formatEnd code).1, (formatEnd code).2, ?_⟩
  · intro pad member
    have kinds : pad = [] ∨ pad = ['\r'] := by simpa using member
    have free : '\n' ∉ pad := by rcases kinds with rfl | rfl <;> decide
    have blank : Text.Blank pad := by
      rcases kinds with rfl | rfl
      · exact List.forall_mem_nil _
      · exact List.forall_mem_singleton.mpr rfl
    exact ⟨formatAgain free code blank, formatShown free code blank⟩
  · intro line member last ends
    exact Text.solidEnd ((formatNormal code).solid line member) ends
  · intro ending
    rw [format, format, List.flatMap_append, Text.joinReplaced fun line member => normalFree member]
    simp

def mixedText : List Char := "a \r\n\n \t\n\n\n\tb\n\n ".toList

theorem mixedNormal : visibleLines mixedText = [['a'], ['\t', 'b']] ∧ ['\r'] ∈ [[], ['\r']] ∧
    format ['\r', '\n'] (format ['\r', '\n'] mixedText) = format ['\r', '\n'] mixedText ∧
    (Text.lines (format ['\r', '\n'] mixedText)).filter shown = [['a', '\r'], ['\t', 'b', '\r']] ∧
    ∃ front last, format ['\n'] mixedText = front ++ [last, '\n'] ∧ Text.isBlank last = false := by
  have visible : visibleLines mixedText = [['a'], ['\t', 'b']] := by decide
  have ending : ['\r'] ∈ [[], ['\r']] := by decide
  obtain ⟨forms, _, _, _, some, _⟩ := normalForm mixedText
  obtain ⟨again, lines⟩ := forms _ ending
  rw [visible] at lines
  exact ⟨visible, ending, again, lines, some (by simp [visible])⟩

end Format

end EntityForge
