import EntityForge.Emit
import EntityForge.Proofs.Names

/-! Generated texts as lists of lines. Formatting takes blank lines off the end, blanks off the end of
every line and lines out of long runs of blank lines; a namespace indents the lines of its body. Both
are told here by the lines of a template, before they are put together to one text. -/
namespace EntityForge

namespace Text

theorem splitAtCut {p : Char → Bool} {d : Char} (cuts : p d = true) (a b : List Char) :
    splitAt p (a ++ d :: b) = splitAt p a ++ splitAt p b := by
  induction a with
  | nil => simp [splitAt, cuts]
  | cons c rest ih =>
    obtain ⟨piece, pieces, cut⟩ := List.exists_cons_of_ne_nil (splitAtNonempty p rest)
    rw [List.cons_append, splitAt, splitAt, ih, cut]
    by_cases here : p c = true <;> simp [here]

theorem piecesFree {p : Char → Bool} {s piece : List Char} (member : piece ∈ splitAt p s) :
    ∀ c ∈ piece, p c = false := by
  induction s generalizing piece with
  | nil => simp_all [splitAt]
  | cons c rest ih =>
    obtain ⟨first, others, cut⟩ := List.exists_cons_of_ne_nil (splitAtNonempty p rest)
    rw [cut] at ih
    rw [splitAt, cut] at member
    have free : ∀ piece ∈ first :: others, ∀ c ∈ piece, p c = false := fun _ there => ih there
    obtain ⟨here, later⟩ := List.forall_mem_cons.mp free
    by_cases cuts : p c = true
    · simp only [cuts, if_true, List.mem_cons] at member
      rcases member with rfl | rfl | there
      · exact fun _ there => absurd there List.not_mem_nil
      · exact here
      · exact later _ there
    · simp only [cuts, Bool.false_eq_true, if_false, List.mem_cons] at member
      rcases member with rfl | there
      · exact List.forall_mem_cons.mpr ⟨by simpa using cuts, here⟩
      · exact later _ there

theorem shortFree {s : List Char} (short : '\n' ∉ s) : ∀ c ∈ s, (c == '\n') = false := by
  intro c member
  rw [beq_eq_false_iff_ne]
  rintro rfl
  exact short member

theorem shortLines {s : List Char} (short : '\n' ∉ s) : lines s = [s] :=
  splitAtFree (shortFree short)

def someLine : List (List Char) → List (List Char)
  | [] => [[]]
  | lines => lines

theorem someLineOf {pieces : List (List Char)} (some : pieces ≠ []) : someLine pieces = pieces := by
  cases pieces with
  | nil => exact absurd rfl some
  | cons => rfl

theorem someLineSome (pieces : List (List Char)) : someLine pieces ≠ [] := by
  cases pieces <;> exact List.cons_ne_nil _ _

theorem someLineMember {pieces : List (List Char)} {piece : List Char}
    (member : piece ∈ someLine pieces) : piece = [] ∨ piece ∈ pieces := by
  cases pieces with
  | nil => exact .inl (List.mem_singleton.mp member)
  | cons => exact .inr member

theorem joinCons (separator piece next : List Char) (others : List (List Char)) :
    join separator (piece :: next :: others) = piece ++ separator ++ join separator (next :: others) := rfl

theorem linesJoin {pieces : List (List Char)} (free : ∀ piece ∈ pieces, '\n' ∉ piece) :
    lines (join ['\n'] pieces) = someLine pieces := by
  induction pieces with
  | nil => rfl
  | cons piece rest ih =>
    obtain ⟨here, later⟩ := List.forall_mem_cons.mp free
    cases rest with
    | nil => exact shortLines here
    | cons next others =>
      rw [joinCons, List.append_assoc, List.singleton_append]
      exact (splitAtCut rfl _ _).trans (congrArg₂ (· ++ ·) (shortLines here) (ih later))

def indentLine (width : Nat) (line : List Char) : List Char :=
  if allBlank line then line else List.replicate width ' ' ++ line

theorem linesIndent (width : Nat) (s : List Char) :
    lines (indent width s) = (lines s).map (indentLine width) := by
  have some : (lines s).map (indentLine width) ≠ [] :=
    fun none => splitAtNonempty _ s (List.map_eq_nil_iff.mp none)
  have free : ∀ line ∈ (lines s).map (indentLine width), '\n' ∉ line := by
    intro _ member
    obtain ⟨line, there, rfl⟩ := List.mem_map.mp member
    have solid : '\n' ∉ line := fun newline => by simpa using piecesFree there _ newline
    unfold indentLine
    split <;> simp [solid]
  exact (linesJoin free).trans (someLineOf some)

theorem stripEndSolid {s : List Char} (visible : stripEnd s ≠ []) (front : List Char) :
    stripEnd (front ++ s) = front ++ stripEnd s := by
  induction front with
  | nil => rfl
  | cons c rest ih =>
    obtain ⟨d, kept, strip⟩ := List.exists_cons_of_ne_nil visible
    rw [List.cons_append, stripEnd, ih, strip]
    cases rest <;> simp

theorem stripEndIdem (s : List Char) : stripEnd (stripEnd s) = stripEnd s := by
  induction s with
  | nil => rfl
  | cons c rest ih =>
    cases strip : stripEnd rest with
    | nil => by_cases blank : isBlank c = true <;> simp [stripEnd, strip, blank]
    | cons d kept =>
      rw [strip] at ih
      simp [stripEnd, strip] at ih ⊢
      simp [ih]

theorem allBlankIff {s : List Char} : allBlank s = true ↔ stripEnd s = [] := by
  rw [stripEndNil, allBlank, List.all_eq_true]

theorem allBlankStrip (s : List Char) : allBlank (stripEnd s) = allBlank s := by
  rw [Bool.eq_iff_iff, allBlankIff, allBlankIff, stripEndIdem]

theorem stripEndPrefix (s : List Char) : stripEnd s <+: s := by
  induction s with
  | nil => exact List.nil_prefix
  | cons c rest ih =>
    rw [stripEnd]
    split
    · split
      · exact List.nil_prefix
      · exact List.cons_prefix_cons.mpr ⟨rfl, List.nil_prefix⟩
    · exact List.cons_prefix_cons.mpr ⟨rfl, ih⟩

theorem stripSubset (s : List Char) : strip s ⊆ s :=
  fun _ member => (List.dropWhile_suffix _).subset ((stripEndPrefix _).subset member)

def Short (s : String) : Prop := '\n' ∉ s.toList

instance (s : String) : Decidable (Short s) := inferInstanceAs (Decidable ('\n' ∉ s.toList))

theorem shortAppend {s t : String} (first : Short s) (next : Short t) : Short (s ++ t) := by
  simp only [Short, String.toList_append, List.mem_append, not_or]
  exact ⟨first, next⟩

theorem shortJoined {separator : String} (single : Short separator) {items : List String}
    (short : ∀ item ∈ items, Short item) : Short (String.intercalate separator items) := by
  induction items with
  | nil => exact List.not_mem_nil
  | cons item rest ih =>
    obtain ⟨here, later⟩ := List.forall_mem_cons.mp short
    cases rest with
    | nil => simpa using here
    | cons next others =>
      rw [String.intercalate_cons_cons]
      exact shortAppend (shortAppend here single) (ih later)

theorem linesAfter {front : List Char} (short : '\n' ∉ front) {rest first : List Char}
    {others : List (List Char)} (cut : lines rest = first :: others) :
    lines (front ++ rest) = (front ++ first) :: others :=
  splitAtAfter (shortFree short) cut

end Text

namespace Format

def trimEnd : List (List Char) → List (List Char)
  | [] => []
  | line :: rest =>
    match trimEnd rest with
    | [] =>
      match Text.stripEnd line with
      | [] => []
      | kept => [kept]
    | more => line :: more

theorem trimConsVisible {rest : List (List Char)} (visible : trimEnd rest ≠ []) (line : List Char) :
    trimEnd (line :: rest) = line :: trimEnd rest := by
  obtain ⟨next, more, trim⟩ := List.exists_cons_of_ne_nil visible
  rw [trimEnd, trim]

theorem trimConsBlank {rest : List (List Char)} (blank : trimEnd rest = []) (line : List Char) :
    trimEnd (line :: rest) = if Text.stripEnd line = [] then [] else [Text.stripEnd line] := by
  rw [trimEnd, blank]
  cases Text.stripEnd line <;> rfl

theorem trimBreak {rest : List Char} (trimmed : trimEnd (Text.lines rest) =
      if Text.stripEnd rest = [] then [] else Text.lines (Text.stripEnd rest)) :
    trimEnd (Text.lines ('\n' :: rest)) = if Text.stripEnd ('\n' :: rest) = [] then []
      else Text.lines (Text.stripEnd ('\n' :: rest)) := by
  have lines (s : List Char) : Text.lines ('\n' :: s) = [] :: Text.lines s := rfl
  by_cases blank : Text.stripEnd rest = []
  · rw [if_pos blank] at trimmed
    rw [lines, trimConsBlank trimmed]
    simp [Text.stripEnd, blank, show Text.isBlank '\n' = true from rfl]
  · have solid : Text.stripEnd ('\n' :: rest) = '\n' :: Text.stripEnd rest :=
      Text.stripEndSolid blank ['\n']
    rw [if_neg blank] at trimmed
    rw [solid, if_neg (List.cons_ne_nil _ _), lines, lines, ← trimmed]
    exact trimConsVisible (trimmed ▸ Text.splitAtNonempty _ _) []

theorem trimCharacter {c : Char} (other : c ≠ '\n') {rest : List Char}
    (trimmed : trimEnd (Text.lines rest) =
      if Text.stripEnd rest = [] then [] else Text.lines (Text.stripEnd rest)) :
    trimEnd (Text.lines (c :: rest)) = if Text.stripEnd (c :: rest) = [] then []
      else Text.lines (Text.stripEnd (c :: rest)) := by
  have short : '\n' ∉ [c] := by simpa using Ne.symm other
  have lines {s first : List Char} {others : List (List Char)}
      (cut : Text.lines s = first :: others) : Text.lines (c :: s) = (c :: first) :: others :=
    Text.linesAfter short cut
  obtain ⟨piece, pieces, cut⟩ : ∃ piece pieces, Text.lines rest = piece :: pieces :=
    List.exists_cons_of_ne_nil (Text.splitAtNonempty _ rest)
  rw [cut] at trimmed
  rw [lines cut]
  -- the character may be the last one that is not blank
  by_cases blank : Text.stripEnd rest = []
  · rw [if_pos blank] at trimmed
    have tail : trimEnd pieces = [] := by
      by_contra more
      simp [trimConsVisible more] at trimmed
    have first : Text.stripEnd piece = [] := by simpa [trimConsBlank tail] using trimmed
    rw [trimConsBlank tail]
    by_cases gap : Text.isBlank c = true
    · simp [Text.stripEnd, blank, first, gap]
    · simp [Text.stripEnd, blank, first, gap, lines (s := []) rfl]
  · have solid : Text.stripEnd (c :: rest) = c :: Text.stripEnd rest :=
      Text.stripEndSolid blank [c]
    rw [if_neg blank] at trimmed
    rw [solid, if_neg (List.cons_ne_nil _ _)]
    by_cases tail : trimEnd pieces = []
    · rw [trimConsBlank tail] at trimmed ⊢
      have first : Text.stripEnd piece ≠ [] := by
        intro none
        rw [if_pos none] at trimmed
        exact Text.splitAtNonempty _ _ trimmed.symm
      have longer : Text.stripEnd (c :: piece) = c :: Text.stripEnd piece :=
        Text.stripEndSolid first [c]
      rw [if_neg first] at trimmed
      rw [longer, if_neg (List.cons_ne_nil _ _), lines trimmed.symm]
    · rw [trimConsVisible tail] at trimmed ⊢
      rw [lines trimmed.symm]

theorem trimLines (s : List Char) :
    trimEnd (Text.lines s) = if Text.stripEnd s = [] then [] else Text.lines (Text.stripEnd s) := by
  induction s with
  | nil => rfl
  | cons c rest ih =>
    by_cases newline : c = '\n'
    · exact newline ▸ trimBreak ih
    · exact trimCharacter newline ih

theorem trimBlankEnd (lines : List (List Char)) : trimEnd (lines ++ [[]]) = trimEnd lines := by
  induction lines with
  | nil => rfl
  | cons line rest ih => rw [List.cons_append, trimEnd, trimEnd, ih]

theorem squeezeBlank {line : List Char} (blank : Text.stripEnd line = []) (blanks : Nat)
    (rest : List (List Char)) : squeeze blanks (line :: rest) =
      if blanks < 2 then [] :: squeeze (blanks + 1) rest else squeeze (blanks + 1) rest := by
  rw [squeeze, blank]

theorem squeezeVisible {line : List Char} (visible : Text.stripEnd line ≠ []) (blanks : Nat)
    (rest : List (List Char)) :
    squeeze blanks (line :: rest) = Text.stripEnd line :: squeeze 0 rest := by
  obtain ⟨c, kept, strip⟩ := List.exists_cons_of_ne_nil visible
  rw [squeeze, strip]

theorem squeezeTrimNil {blanks : Nat} {lines : List (List Char)}
    (none : squeeze blanks (trimEnd lines) = []) : trimEnd lines = [] := by
  induction lines generalizing blanks with
  | nil => rfl
  | cons line rest ih =>
    by_cases tail : trimEnd rest = []
    · by_cases blank : Text.stripEnd line = []
      · rw [trimConsBlank tail, if_pos blank]
      · rw [trimConsBlank tail, if_neg blank, squeezeVisible (by rwa [Text.stripEndIdem])] at none
        cases none
    · rw [trimConsVisible tail] at none
      by_cases blank : Text.stripEnd line = []
      · rw [squeezeBlank blank] at none
        split at none
        · cases none
        · exact absurd (ih none) tail
      · rw [squeezeVisible blank] at none
        cases none

theorem dropTailLast {line : List Char} {rest : List (List Char)} (none : dropTail rest = []) :
    dropTail (line :: rest) = if line = [] then [] else [line] := by
  rw [dropTail, none]
  cases line <;> rfl

theorem dropTailKept {line : List Char} {rest : List (List Char)} (some : dropTail rest ≠ []) :
    dropTail (line :: rest) = line :: dropTail rest := by
  obtain ⟨next, more, kept⟩ := List.exists_cons_of_ne_nil some
  rw [dropTail, kept]

theorem squeezeTrim (blanks : Nat) (lines : List (List Char)) :
    squeeze blanks (trimEnd lines) = dropTail (squeeze blanks lines) := by
  induction lines generalizing blanks with
  | nil => rfl
  | cons line rest ih =>
    by_cases tail : trimEnd rest = []
    · have none (blanks : Nat) : dropTail (squeeze blanks rest) = [] := by rw [← ih, tail, squeeze]
      rw [trimConsBlank tail]
      by_cases blank : Text.stripEnd line = []
      · rw [if_pos blank, squeezeBlank blank, squeeze]
        split
        · rw [dropTailLast (none _), if_pos rfl]
        · exact (none _).symm
      · rw [if_neg blank, squeezeVisible blank, squeezeVisible (by rwa [Text.stripEndIdem]),
          dropTailLast (none _), if_neg blank, Text.stripEndIdem, squeeze]
    · have some (blanks : Nat) : dropTail (squeeze blanks rest) ≠ [] :=
        fun none => tail (squeezeTrimNil ((ih blanks).trans none))
      rw [trimConsVisible tail]
      by_cases blank : Text.stripEnd line = []
      · rw [squeezeBlank blank, squeezeBlank blank]
        split
        · rw [dropTailKept (some _), ih]
        · exact ih _
      · rw [squeezeVisible blank, squeezeVisible blank, dropTailKept (some _), ih]

theorem normalTrim (code : List Char) : normalLines code = squeeze 0 (trimEnd (Text.lines code)) :=
  (squeezeTrim 0 _).symm

theorem squeezeFree {lines : List (List Char)} (free : ∀ line ∈ lines, '\n' ∉ line) (blanks : Nat) :
    ∀ line ∈ squeeze blanks lines, '\n' ∉ line := by
  induction lines generalizing blanks with
  | nil => nofun
  | cons line rest ih =>
    obtain ⟨here, later⟩ := List.forall_mem_cons.mp free
    by_cases blank : Text.stripEnd line = []
    · rw [squeezeBlank blank]
      split
      · exact List.forall_mem_cons.mpr ⟨List.not_mem_nil, ih later _⟩
      · exact ih later _
    · rw [squeezeVisible blank]
      have kept : '\n' ∉ Text.stripEnd line :=
        fun newline => here ((Text.stripEndPrefix line).subset newline)
      exact List.forall_mem_cons.mpr ⟨kept, ih later _⟩

theorem normalFree {code line : List Char} (member : line ∈ normalLines code) : '\n' ∉ line := by
  rw [normalTrim, trimLines] at member
  split at member
  · cases member
  · have free : ∀ line ∈ Text.lines (Text.stripEnd code), '\n' ∉ line :=
      fun line there newline => by simpa using Text.piecesFree there _ newline
    exact squeezeFree free 0 line member

theorem formatLines (code : List Char) :
    Text.lines (format ['\n'] code) = Text.someLine (normalLines code) ++ [[]] := by
  refine (Text.splitAtCut (d := '\n') rfl _ []).trans ?_
  exact congrArg (· ++ [[]]) (Text.linesJoin fun line member => normalFree member)

end Format

namespace Template

def linesOf (texts : List String) : List (List Char) := texts.flatMap fun s => Text.lines s.toList

theorem linesAppend (a b : List String) : linesOf (a ++ b) = linesOf a ++ linesOf b :=
  List.flatMap_append

theorem linesText (texts : List String) :
    Text.lines (textOf texts).toList = linesOf texts ++ [[]] := by
  induction texts with
  | nil => rfl
  | cons s rest ih =>
    have text : (textOf (s :: rest)).toList = s.toList ++ '\n' :: (textOf rest).toList := by
      simp [textOf, String.toList_join]
    rw [text, linesOf, List.flatMap_cons, List.append_assoc]
    exact (Text.splitAtCut rfl _ _).trans (congrArg (Text.lines s.toList ++ ·) ih)

theorem linesWrap (name : String) (body : List String) :
    linesOf (wrap name body) = linesOf ["namespace " ++ name, "\x7b"] ++
      (Text.someLine (Format.trimEnd (linesOf body))).map (Text.indentLine 4) ++ [['\x7d']] := by
  have inner : Text.lines (Text.stripEnd (textOf body).toList) =
      Text.someLine (Format.trimEnd (linesOf body)) := by
    rw [← Format.trimBlankEnd, ← linesText, Format.trimLines]
    split
    next blank => rw [blank]; rfl
    next => exact (Text.someLineOf (Text.splitAtNonempty _ _)).symm
  rw [← inner, ← Text.linesIndent]
  simp [linesOf, wrap]
  rfl

theorem linesFormat (texts : List String) :
    Text.lines (Format.format ['\n'] (textOf texts).toList) =
      Format.squeeze 0 (Text.someLine (Format.trimEnd (linesOf texts))) ++ [[]] := by
  rw [Format.formatLines, Format.normalTrim, linesText, Format.trimBlankEnd]
  congr 1
  by_cases none : Format.trimEnd (linesOf texts) = []
  · rw [none]
    rfl
  · have some : Format.squeeze 0 (Format.trimEnd (linesOf texts)) ≠ [] :=
      fun all => none (Format.squeezeTrimNil all)
    rw [Text.someLineOf some, Text.someLineOf none]

end Template

end EntityForge
