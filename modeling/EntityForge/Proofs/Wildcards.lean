import EntityForge.Proofs.Searches
import EntityForge.Proofs.Slashes
import Mathlib.Data.Char

/-! Patterns that are put together. An escaped text accepts itself and nothing else; a pattern made
blind to case has the slashes it had, and no name of it turns into a step upwards. -/
namespace EntityForge

theorem Text.splitAtImage {f : Char → List Char} (slash : f '/' = ['/'])
    (other : ∀ c, '/' ∈ f c → c = '/') (s : List Char) :
    splitAt (· == '/') (s.flatMap f) = (splitAt (· == '/') s).map (List.flatMap f) := by
  induction s with
  | nil => rfl
  | cons c rest ih =>
    by_cases cut : c = '/'
    · subst cut
      rw [List.flatMap_cons, slash, List.singleton_append]
      exact congrArg ([] :: ·) ih
    · have free : ∀ d ∈ f c, (d == '/') = false := fun d member => by
        rw [beq_eq_false_iff_ne]
        rintro rfl
        exact cut (other c member)
      obtain ⟨first, others, pieces⟩ := List.exists_cons_of_ne_nil (splitAtNonempty (· == '/') rest)
      rw [pieces] at ih
      rw [List.flatMap_cons, splitAtAfter free ih, splitAt, if_neg (by simpa using cut), pieces]
      rfl

namespace Pattern
open Text
variable {c d : Char} {s name : List Char}

def verbatim (c : Char) : Piece := if isMagic c then .oneOf ⟨false, [(c, c)]⟩ else .char c

theorem piecesEscape {fuel : Nat} (enough : (escape s).length ≤ fuel) :
    pieces.go fuel (escape s) = s.map verbatim := by
  induction s generalizing fuel with
  | nil => cases fuel <;> rfl
  | cons c rest ih =>
    by_cases magic : isMagic c = true
    · have shape : escape (c :: rest) = '[' :: c :: ']' :: escape rest := by simp [escape, magic]
      rw [shape] at enough ⊢
      simp only [List.length_cons] at enough
      obtain ⟨fuel, rfl⟩ := Nat.exists_eq_add_of_le' (show 1 ≤ fuel by omega)
      have cut : cutClass (c :: ']' :: escape rest) = some ([c], escape rest) := by
        simp only [isMagic, Bool.or_eq_true, decide_eq_true_eq] at magic
        rcases magic with (rfl | rfl) | rfl <;> simp [cutClass]
      have single : classOf [c] = ⟨false, [(c, c)]⟩ := by
        simp only [isMagic, Bool.or_eq_true, decide_eq_true_eq] at magic
        rcases magic with (rfl | rfl) | rfl <;> rfl
      simp [pieces.go, cut, single, @ih fuel (by omega), verbatim, magic]
    · have shape : escape (c :: rest) = c :: escape rest := by simp [escape, magic]
      rw [shape] at enough ⊢
      rw [List.length_cons] at enough
      obtain ⟨fuel, rfl⟩ := Nat.exists_eq_add_of_le' (show 1 ≤ fuel by omega)
      have plain := magic
      simp only [isMagic, Bool.or_eq_true, decide_eq_true_eq, not_or] at plain
      simp [pieces.go, plain, @ih fuel (by omega), verbatim, magic]

theorem matchVerbatimCons {rest : List Piece} {tail : List Char} :
    matchPieces (verbatim c :: rest) (d :: tail) = true ↔ d = c ∧ matchPieces rest tail = true := by
  unfold verbatim
  split
  · rw [matchPieces, Bool.and_eq_true]
    simp only [Class.contains, List.any_cons, List.any_nil, Bool.or_false, bne_iff_ne, ne_eq,
      Bool.not_eq_false, Bool.and_eq_true, decide_eq_true_eq]
    rw [and_comm (a := c ≤ d), ← le_antisymm_iff]
  · rw [matchPieces, Bool.and_eq_true, decide_eq_true_eq]

theorem matchVerbatim : matchPieces (s.map verbatim) name = true ↔ name = s := by
  induction s generalizing name with
  | nil => simp [matchPieces]
  | cons c rest ih =>
    cases name with
    | nil =>
      have none : matchPieces ((c :: rest).map verbatim) [] = false := by
        rw [List.map_cons, verbatim]
        split <;> rfl
      exact ⟨fun matched => (Bool.false_ne_true (none.symm.trans matched)).elim, nofun⟩
    | cons d tail => rw [List.map_cons, matchVerbatimCons, ih, List.cons.injEq]

theorem acceptsEscape : accepts (escape s) name = true ↔ name = s := by
  rw [accepts, pieces, piecesEscape le_rfl]
  exact matchVerbatim

theorem escapeHead (s : List Char) : InputFiles.isHidden (escape s) = InputFiles.isHidden s := by
  cases s with
  | nil => rfl
  | cons c rest =>
    by_cases magic : isMagic c = true
    · simp only [isMagic, Bool.or_eq_true, decide_eq_true_eq] at magic
      rcases magic with (rfl | rfl) | rfl <;> rfl
    · simp [escape, magic, InputFiles.isHidden]

theorem escapePlain (plain : s.any isMagic = false) : escape s = s := by
  induction s with
  | nil => rfl
  | cons c rest ih =>
    rw [List.any_cons, Bool.or_eq_false_iff] at plain
    have others := ih plain.2
    unfold escape at others ⊢
    simp [plain.1, others]

theorem escapeBracket (magic : s.any isMagic = true) : '[' ∈ escape s := by
  obtain ⟨c, member, own⟩ := List.any_eq_true.mp magic
  exact List.mem_flatMap.mpr ⟨c, member, by simp [own]⟩

theorem bareOther (bare : d ∈ ['/', '\x00']) : d ≠ '[' ∧ d ≠ ']' := by
  rcases Text.bareIff.mp bare with rfl | rfl <;> decide

theorem escapeOf (bare : d ∈ ['/', '\x00']) (member : d ∈ escape s) : d ∈ s := by
  obtain ⟨c, there, image⟩ := List.mem_flatMap.mp member
  split at image
  · obtain rfl : d = c := by simpa [bareOther bare] using image
    exact there
  · obtain rfl := List.mem_singleton.mp image
    exact there

theorem escapePieces (s : List Char) : Text.pieces (escape s) = (Text.pieces s).map escape := by
  have slash (c : Char) (member : '/' ∈ if isMagic c then ['[', c, ']'] else [c]) : c = '/' := by
    have inner : '/' ∈ [c] := @escapeOf '/' [c] (by decide) (by simpa [escape] using member)
    exact (List.mem_singleton.mp inner).symm
  have some (c : List Char) : (escape c).isEmpty = c.isEmpty := by
    cases c with
    | nil => rfl
    | cons c rest =>
      by_cases magic : isMagic c = true <;> simp [escape, magic]
  have cut : splitAt (· == '/') (escape s) = (splitAt (· == '/') s).map escape :=
    splitAtImage (by decide) slash s
  rw [Text.pieces, cut, List.filter_map]
  refine congrArg (List.map escape) (List.filter_congr fun piece _ => ?_)
  simp [some]

theorem foldStep (inside : Bool) (c : Char) : ∃ image next,
    (∀ rest, ignoringCase.go inside (c :: rest) = image ++ ignoringCase.go next rest) ∧
      (image = [c] ∨ '[' ∈ image ∧ isLetter c = true) ∧ ∀ d ∈ ['/', '\x00'], d ∈ image → d = c := by
  have stays (d : Char) (_ : d ∈ ['/', '\x00']) (member : d ∈ [c]) : d = c :=
    List.mem_singleton.mp member
  cases inside with
  | true =>
    refine ⟨[c], c != ']', fun rest => ?_, .inl rfl, stays⟩
    rw [ignoringCase.go, if_pos rfl]
    rfl
  | false =>
    by_cases opens : c = '['
    · refine ⟨[c], true, fun rest => ?_, .inl rfl, stays⟩
      rw [ignoringCase.go, if_neg (by decide), if_pos opens]
      rfl
    · by_cases letter : isLetter c = true
      · refine ⟨'[' :: (Text.lower [c] ++ Text.upper [c] ++ [']']), false, fun rest => ?_,
          .inr ⟨List.mem_cons_self, letter⟩, fun d bare member => ?_⟩
        · rw [ignoringCase.go, if_neg (by decide), if_neg opens, if_pos letter]
          simp
        · rw [lowerSingle, upperSingle] at member
          refine (imageOf bare ?_).symm
          simpa [bareOther bare] using member
      · refine ⟨[c], false, fun rest => ?_, .inl rfl, stays⟩
        rw [ignoringCase.go, if_neg (by decide), if_neg opens, if_neg letter]
        rfl

theorem foldOf (bare : d ∈ ['/', '\x00']) {inside : Bool} (member : d ∈ ignoringCase.go inside s) :
    d ∈ s := by
  induction s generalizing inside with
  | nil => exact absurd member List.not_mem_nil
  | cons c rest ih =>
    obtain ⟨image, next, step, _, kept⟩ := foldStep inside c
    rw [step] at member
    rcases List.mem_append.mp member with own | later
    · rw [kept d bare own]
      exact List.mem_cons_self
    · exact List.mem_cons_of_mem _ (ih later)

theorem foldPieces (inside : Bool) (s : List Char) :
    List.Forall₂ (fun folded piece => '[' ∈ folded ∨ folded = piece)
      (splitAt (· == '/') (ignoringCase.go inside s)) (splitAt (· == '/') s) := by
  induction s generalizing inside with
  | nil => exact .cons (.inr rfl) .nil
  | cons c rest ih =>
    obtain ⟨image, next, step, stays, kept⟩ := foldStep inside c
    have inner := ih next
    rw [step]
    by_cases cut : c = '/'
    · have plain : isLetter '/' = false := by decide +kernel
      obtain rfl : image = [c] := stays.resolve_right fun both => by simp [cut, plain] at both
      simp only [cut, List.singleton_append, splitAt, beq_self_eq_true, if_true]
      exact .cons (.inr rfl) inner
    · obtain ⟨first, others, pieces⟩ := List.exists_cons_of_ne_nil (splitAtNonempty (· == '/') rest)
      obtain ⟨first', others', pieces'⟩ := List.exists_cons_of_ne_nil
        (splitAtNonempty (· == '/') (ignoringCase.go next rest))
      have free : ∀ d ∈ image, (d == '/') = false := fun d member => by
        rw [beq_eq_false_iff_ne]
        rintro rfl
        exact cut (kept '/' (by decide) member).symm
      rw [pieces, pieces'] at inner
      rw [splitAtAfter free pieces', splitAt, if_neg (by simpa using cut), pieces]
      cases inner with
      | cons own later =>
        refine .cons ?_ later
        rcases stays with rfl | ⟨bracket, _⟩
        · exact own.imp (List.mem_append_right [c]) (congrArg (c :: ·))
        · exact .inl (List.mem_append_left _ bracket)

theorem partnerOf {α β : Type} {related : α → β → Prop} {xs : List α} {ys : List β}
    (all : List.Forall₂ related xs ys) {x : α} (member : x ∈ xs) : ∃ y ∈ ys, related x y := by
  induction all with
  | nil => cases member
  | cons own _ ih =>
    rcases List.mem_cons.mp member with rfl | later
    · exact ⟨_, List.mem_cons_self, own⟩
    · obtain ⟨y, there, partner⟩ := ih later
      exact ⟨y, List.mem_cons_of_mem _ there, partner⟩

theorem foldUp (up : ['.', '.'] ∈ Text.pieces (ignoringCase s)) : ['.', '.'] ∈ Text.pieces s := by
  obtain ⟨piece, there, kept⟩ := partnerOf (foldPieces false s) (List.mem_filter.mp up).1
  obtain rfl := kept.resolve_left (by decide)
  exact List.mem_filter.mpr ⟨there, rfl⟩

end Pattern

namespace Text

theorem piecesSome {s : List Char} {c : Char} (member : c ∈ s) (other : c ≠ '/') : pieces s ≠ [] := by
  induction s with
  | nil => cases member
  | cons d rest ih =>
    by_cases cut : d = '/'
    · subst cut
      rw [← List.nil_append ('/' :: rest), piecesSlash]
      exact ih ((List.mem_cons.mp member).resolve_left other)
    · obtain ⟨first, others, shape⟩ := List.exists_cons_of_ne_nil (splitAtNonempty (· == '/') rest)
      simp [pieces, splitAt, cut, shape]

end Text

namespace Path

theorem namesNamed (s : List Char) : ∀ name ∈ names s, PathName name ∧ name ≠ "." := by
  intro name member
  obtain ⟨listed, fine⟩ := List.mem_filter.mp member
  obtain ⟨piece, there, rfl⟩ := List.mem_map.mp listed
  simp only [ne_eq, Bool.and_eq_true, decide_eq_true_eq] at fine
  refine ⟨⟨fine.1, fun slash => ?_⟩, fine.2⟩
  simpa using Text.piecesFree there '/' (by simpa using slash)

theorem piecesAbsolute {p : Path} (absolute : p.anchor ≠ .relative)
    (named : ∀ name ∈ p.parts, PathName name) :
    Text.pieces p.text.toList = p.parts.map String.toList := by
  have root := piecesText named
  obtain ⟨anchor, parts⟩ := p
  cases anchor with
  | relative => exact absurd rfl absolute
  | root => exact root
  | doubleRoot =>
    have longer : (text ⟨.doubleRoot, parts⟩).toList = [] ++ '/' :: (ofLocation parts).text.toList := by
      simp [text, ofLocation]
    rw [longer, Text.piecesSlash]
    exact root

end Path

namespace InputFiles
open Pattern
variable {base : Path} {text : List Char}

theorem componentsPieces (s : List Char) :
    components s = Text.pieces s ++ if s.getLast? == some '/' then [['.']] else [] := rfl

theorem foldSome (some : text ≠ []) : ignoringCase text ≠ [] := by
  obtain ⟨c, rest, rfl⟩ := List.exists_cons_of_ne_nil some
  obtain ⟨image, next, step, stays, _⟩ := foldStep false c
  rw [ignoringCase, step]
  rcases stays with rfl | ⟨bracket, _⟩
  · simp
  · exact fun none => List.not_mem_nil ((List.append_eq_nil_iff.mp none).1 ▸ bracket)

theorem componentsLocal (absolute : base.anchor ≠ .relative)
    (named : ∀ name ∈ base.parts, PathName name) (some : text ≠ []) (onward : text.head? ≠ .some '/') :
    components (fullPattern base.text text) =
      base.parts.map (fun name => escape name.toList) ++ components (ignoringCase text) := by
  have folded := foldSome some
  have front :
      Text.pieces (escape base.text.toList) = base.parts.map fun name => escape name.toList := by
    rw [escapePieces, Path.piecesAbsolute absolute named, List.map_map]
    rfl
  have last (front : List Char) : (front ++ ignoringCase text).getLast? = (ignoringCase text).getLast? :=
    List.getLast?_append_of_ne_nil _ folded
  have whole : fullPattern base.text text = if (escape base.text.toList).getLast? == .some '/' then
      escape base.text.toList ++ ignoringCase text
      else escape base.text.toList ++ ['/'] ++ ignoringCase text := by
    unfold fullPattern
    dsimp only
    rw [if_neg (by simpa using onward), List.append_assoc, List.singleton_append]
  rw [whole, ← front, componentsPieces (ignoringCase text), ← List.append_assoc]
  split
  next closed =>
    obtain ⟨before, shape⟩ := List.getLast?_eq_some_iff.mp (beq_iff_eq.mp closed)
    have none : Text.pieces [] = [] := rfl
    rw [componentsPieces, last, shape, List.append_assoc, List.singleton_append, Text.piecesSlash,
      Text.piecesSlash, none, List.append_nil]
  next =>
    rw [componentsPieces, last, List.append_assoc, List.singleton_append, Text.piecesSlash]

theorem outsetLocal (absolute : base.anchor ≠ .relative) (onward : text.head? ≠ .some '/') :
    outset (fullPattern base.text text) = ⟨.root, []⟩ := by
  obtain ⟨rest, shape⟩ : ∃ rest, base.text.toList = '/' :: rest := by
    obtain ⟨anchor, parts⟩ := base
    cases anchor with
    | relative => exact absurd rfl absolute
    | root => exact ⟨_, by simp [Path.text]; rfl⟩
    | doubleRoot => exact ⟨_, by simp [Path.text]; rfl⟩
  have front : escape base.text.toList = '/' :: escape rest := by
    rw [shape]
    rfl
  have head : (fullPattern base.text text).head? = some '/' := by
    unfold fullPattern
    dsimp only
    rw [if_neg (by simpa using onward), front]
    split <;> rfl
  rw [outset, head]
  rfl

theorem componentsSome (some : text ≠ []) (onward : text.head? ≠ .some '/') :
    components (ignoringCase text) ≠ [] := by
  obtain ⟨c, rest, rfl⟩ := List.exists_cons_of_ne_nil some
  obtain ⟨image, next, step, stays, _⟩ := foldStep false c
  have other : c ≠ '/' := fun same => onward (by simp [same])
  obtain ⟨d, member, solid⟩ : ∃ d ∈ image, d ≠ '/' := by
    rcases stays with rfl | ⟨bracket, _⟩
    · exact ⟨c, List.mem_cons_self, other⟩
    · exact ⟨'[', bracket, by decide⟩
  have inner : d ∈ ignoringCase (c :: rest) := by
    rw [ignoringCase, step]
    exact List.mem_append_left _ member
  rw [componentsPieces]
  exact List.append_ne_nil_of_left_ne_nil (Text.piecesSome inner solid) _

theorem componentsUp (level : ['.', '.'] ∉ components text) :
    ['.', '.'] ∉ components (ignoringCase text) := by
  intro up
  rw [componentsPieces] at up level
  rcases List.mem_append.mp up with name | ending
  · exact level (List.mem_append_left _ (foldUp name))
  · split at ending <;> simp at ending

theorem fullPatternClean (base : String) (clean : '\x00' ∉ base.toList) (free : '\x00' ∉ text) :
    '\x00' ∉ fullPattern base text := by
  have folded : '\x00' ∉ ignoringCase text := fun zero => free (foldOf (by decide) zero)
  have escaped : '\x00' ∉ escape base.toList := fun zero => clean (escapeOf (by decide) zero)
  unfold fullPattern
  dsimp only
  split
  · exact folded
  · split <;> simp [folded, escaped]

end InputFiles

end EntityForge
