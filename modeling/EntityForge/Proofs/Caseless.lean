import EntityForge.Proofs.Wildcards
import Mathlib.Data.List.TakeWhile

/-! Patterns without regard to case. Where the folding of a pattern reads its brackets as matching does,
it keeps every piece and makes letters into classes that hold the letter; so a name that matches still
does. Without brackets, and within ASCII, the folded pattern matches a name exactly if both match in
lower case. -/
namespace EntityForge
open List (Forall₂)

namespace Text
variable {c d : Char} {s : List Char}

def Aside (run : Nat × Nat × Nat × Int) : Prop :=
  93 < (run.1 : Int) + run.2.2.2 ∨ (run.2.1 : Int) + run.2.2.2 < 93

instance (run : Nat × Nat × Nat × Int) : Decidable (Aside run) :=
  inferInstanceAs (Decidable (_ ∨ _))

theorem runsAside : ∀ run ∈ lowerRuns ++ upperRuns, Aside run := by decide +kernel

theorem expansionsAside : ∀ expansion ∈ upperExpansions, 93 ∉ expansion.2 := by decide +kernel

theorem shiftAside {runs : List (Nat × Nat × Nat × Int)} (part : runs ⊆ lowerRuns ++ upperRuns)
    (other : c ≠ ']') : shiftBy runs c ≠ ']' := by
  intro bracket
  rcases shiftWithin (fun run there => runsHigh run (part there)) c with same | ⟨run, there, low, high⟩
  · exact other (same ▸ bracket)
  · have aside := runsAside run (part there)
    have number : (']').toNat = 93 := rfl
    rw [bracket, number] at low high
    unfold Aside at aside
    omega

theorem imageAside (large : ¬ c.toNat < 128) : ']' ∉ lowerChar c ++ upperChar c := by
  have other : c ≠ ']' := by
    rintro rfl
    exact large (by decide)
  rw [lowerChar, upperChar, if_neg large, if_neg large, List.mem_append, not_or]
  constructor
  · split
    · decide
    · exact fun member => shiftAside (by simp) other (List.mem_singleton.mp member).symm
  · split
    next n parts chosen =>
      intro member
      obtain ⟨n, listed, bracket⟩ := List.mem_map.mp member
      have there := List.mem_of_find?_eq_some chosen
      have number := congrArg Char.toNat bracket
      rw [ofNatValid (expansionsHigh _ there n listed).1] at number
      subst number
      exact expansionsAside _ there listed
    next => exact fun member => shiftAside (by simp) other (List.mem_singleton.mp member).symm

theorem asciiAll {p : Char → Prop} (all : ∀ n < 128, p (Char.ofNat n)) (small : c.toNat < 128) : p c := by
  have own := all c.toNat small
  rwa [Char.ofNat_toNat] at own

theorem casesPlain (letter : isLetter c = true) :
    ']' ∉ lowerChar c ++ upperChar c ∧ '!' ∉ lowerChar c ++ upperChar c ∧
      '-' ∉ lowerChar c ++ upperChar c := by
  by_cases small : c.toNat < 128
  · revert letter
    exact asciiAll (p := fun c => isLetter c = true → ']' ∉ lowerChar c ++ upperChar c ∧
      '!' ∉ lowerChar c ++ upperChar c ∧ '-' ∉ lowerChar c ++ upperChar c) (by decide +kernel) small
  · have high (d : Char) (low : d.toNat < 48) : d ∉ lowerChar c ++ upperChar c := fun member => by
      have large := imageHigh small d member
      omega
    exact ⟨imageAside small, high '!' (by decide), high '-' (by decide)⟩

theorem smallCases (small : c.toNat < 128) (small' : d.toNat < 128) :
    d ∈ lowerChar c ++ upperChar c ↔ d.toLower = c.toLower := by
  have rules {c : Char} : c.toNat < 128 → c.toLower.toLower = c.toLower ∧
      c.toUpper.toLower = c.toLower ∧ c.toLower.toUpper = c.toUpper ∧ (c = c.toLower ∨ c = c.toUpper) :=
    asciiAll (p := fun c => c.toLower.toLower = c.toLower ∧ c.toUpper.toLower = c.toLower ∧
      c.toLower.toUpper = c.toUpper ∧ (c = c.toLower ∨ c = c.toUpper)) (by decide +kernel)
  obtain ⟨lowerTwice, raised, lowered, _⟩ := rules small
  rw [lowerChar, upperChar, if_pos small, if_pos small]
  simp only [List.singleton_append, List.mem_cons, List.not_mem_nil, or_false]
  constructor
  · rintro (rfl | rfl)
    · exact lowerTwice
    · exact raised
  · intro same
    obtain ⟨_, _, lowered', own | own⟩ := rules small'
    · exact .inl (own.trans same)
    · right
      calc d = d.toUpper := own
        _ = d.toLower.toUpper := lowered'.symm
        _ = c.toUpper := by rw [same, lowered]

end Text

namespace Pattern
open Text

def Piece.takes : Piece → Char → Bool
  | .star, _ => false
  | .any, _ => true
  | .char d, c => c = d
  | .oneOf k, c => k.contains c

inductive Matches : List Piece → List Char → Prop where
  | nil : Matches [] []
  | star {ps s} (front : List Char) (later : Matches ps s) : Matches (.star :: ps) (front ++ s)
  | one {p ps c s} (taken : p.takes c = true) (later : Matches ps s) : Matches (p :: ps) (c :: s)

section Matching
variable {c : Char} {s t : List Char} {p q : Piece} {ps qs : List Piece}

theorem anyEndIff {f : List Char → Bool} :
    anyEnd f s = true ↔ ∃ front back, s = front ++ back ∧ f back = true := by
  induction s with
  | nil => simp [anyEnd]
  | cons c rest ih =>
    rw [anyEnd, Bool.or_eq_true, ih]
    constructor
    · rintro (here | ⟨front, back, rfl, later⟩)
      · exact ⟨[], c :: rest, rfl, here⟩
      · exact ⟨c :: front, back, rfl, later⟩
    · rintro ⟨front, back, split, holds⟩
      cases front with
      | nil => exact .inl (split ▸ holds)
      | cons d front =>
        cases split
        exact .inr ⟨front, back, rfl, holds⟩

theorem matchOne (single : p ≠ .star) :
    matchPieces (p :: ps) (c :: s) = (p.takes c && matchPieces ps s) := by
  cases p with
  | star => exact absurd rfl single
  | _ => simp [matchPieces, Piece.takes]

theorem matchIff : matchPieces ps s = true ↔ Matches ps s := by
  constructor
  · intro matched
    induction ps generalizing s with
    | nil =>
      obtain rfl := List.isEmpty_iff.mp matched
      exact .nil
    | cons p ps ih =>
      by_cases star : p = .star
      · subst star
        obtain ⟨front, back, rfl, later⟩ := anyEndIff.mp matched
        exact .star front (ih later)
      · cases s with
        | nil => cases p <;> first | exact absurd rfl star | cases matched
        | cons c rest =>
          rw [matchOne star, Bool.and_eq_true] at matched
          exact .one matched.1 (ih matched.2)
  · intro matched
    induction matched with
    | nil => rfl
    | star front later ih => exact anyEndIff.mpr ⟨front, _, rfl, ih⟩
    | one taken later ih =>
      rw [matchOne (by rintro rfl; cases taken), taken, ih]
      rfl

structure Grants (related : Char → Char → Prop) (p q : Piece) : Prop where
  star : p = .star → q = .star
  taken : ∀ c d, related c d → p.takes c = true → q.takes d = true

theorem Matches.along {related : Char → Char → Prop} (matched : Matches ps s)
    (pieces : Forall₂ (Grants related) ps qs) (names : Forall₂ related s t) : Matches qs t := by
  induction matched generalizing qs t with
  | nil =>
    cases pieces
    cases names
    exact .nil
  | star front later ih =>
    cases pieces with
    | cons grants pieces =>
      have back := List.forall₂_drop_append _ _ _ names.flip
      rw [grants.star rfl, ← List.take_append_drop front.length t]
      exact .star _ (ih pieces back.flip)
  | one taken later ih =>
    cases pieces with
    | cons grants pieces =>
      cases names with
      | cons own names => exact .one (grants.taken _ _ own taken) (ih pieces names)

end Matching

inductive Start : List Char → List Char → Prop where
  | plain {s} (mark : s.head? ≠ some '!') (bracket : s.head? ≠ some ']') : Start [] s
  | mark {s} (bracket : s.head? ≠ some ']') : Start ['!'] s
  | bracket {s} : Start [']'] s
  | both {s} : Start ['!', ']'] s

section Brackets
variable {c : Char} {s lead body tail other : List Char}

theorem startOf (s : List Char) : ∃ lead rest, s = lead ++ rest ∧ Start lead rest := by
  by_cases mark : s.head? = some '!'
  · obtain ⟨rest, rfl⟩ := List.head?_eq_some_iff.mp mark
    by_cases bracket : rest.head? = some ']'
    · obtain ⟨tail, rfl⟩ := List.head?_eq_some_iff.mp bracket
      exact ⟨['!', ']'], tail, rfl, .both⟩
    · exact ⟨['!'], rest, rfl, .mark bracket⟩
  · by_cases bracket : s.head? = some ']'
    · obtain ⟨tail, rfl⟩ := List.head?_eq_some_iff.mp bracket
      exact ⟨[']'], tail, rfl, .bracket⟩
    · exact ⟨[], s, rfl, .plain mark bracket⟩

theorem cutStart {rest : List Char} (start : Start lead rest) : cutClass (lead ++ rest) =
    match rest.dropWhile (· != ']') with
    | _ :: tail => some (lead ++ rest.takeWhile (· != ']'), tail)
    | [] => none := by
  cases start with
  | plain mark bracket =>
    cases rest with
    | nil => rfl
    | cons c rest =>
      have unmarked : c ≠ '!' := by simpa using mark
      have inside : c ≠ ']' := by simpa using bracket
      cases after : rest.dropWhile (· != ']') <;> simp [cutClass, unmarked, inside, after]
  | mark bracket =>
    cases rest with
    | nil => rfl
    | cons c rest =>
      have inside : c ≠ ']' := by simpa using bracket
      cases after : rest.dropWhile (· != ']') <;> simp [cutClass, inside, after]
  | bracket => rfl
  | both => rfl

theorem cutClosed (start : Start lead (body ++ ']' :: tail)) (free : ']' ∉ body) :
    cutClass (lead ++ (body ++ ']' :: tail)) = some (lead ++ body, tail) := by
  have solid : ∀ c ∈ body, (c != ']') = true := fun c member => by
    rw [bne_iff_ne]
    rintro rfl
    exact free member
  rw [cutStart start, List.dropWhile_append_of_pos solid, List.takeWhile_append_of_pos solid]
  simp

theorem Start.swap (start : Start lead (body ++ ']' :: tail)) (other : List Char) :
    Start lead (body ++ ']' :: other) := by
  have head : (body ++ ']' :: other).head? = (body ++ ']' :: tail).head? := by cases body <;> rfl
  cases start with
  | plain mark bracket => exact .plain (head ▸ mark) (head ▸ bracket)
  | mark bracket => exact .mark (head ▸ bracket)
  | bracket => exact .bracket
  | both => exact .both

theorem cutShorter {text : List Char} (cut : cutClass s = some (text, tail)) :
    tail.length < s.length := by
  obtain ⟨lead, rest, rfl, start⟩ := startOf s
  rw [cutStart start] at cut
  split at cut
  next c after shape =>
    cases cut
    have parts := congrArg List.length (List.takeWhile_append_dropWhile (p := (· != ']')) (l := rest))
    rw [shape] at parts
    simp only [List.length_append, List.length_cons] at parts ⊢
    omega
  next => cases cut

theorem piecesFuel {fuel more : Nat} (enough : s.length ≤ fuel) (enough' : s.length ≤ more) :
    pieces.go fuel s = pieces.go more s := by
  induction fuel generalizing more s with
  | zero =>
    obtain rfl := List.length_eq_zero_iff.mp (Nat.le_zero.mp enough)
    cases more <;> rfl
  | succ fuel ih =>
    cases s with
    | nil => cases more <;> rfl
    | cons c rest =>
      rw [List.length_cons] at enough enough'
      obtain ⟨more, rfl⟩ := Nat.exists_eq_add_of_le' (show 1 ≤ more by omega)
      have next : pieces.go fuel rest = pieces.go more rest := ih (by omega) (by omega)
      have behind (text tail : List Char) (cut : cutClass rest = some (text, tail)) :
          pieces.go fuel tail = pieces.go more tail := by
        have shorter := cutShorter cut
        exact ih (by omega) (by omega)
      unfold pieces.go
      rw [next]
      cases cut : cutClass rest with
      | none => rfl
      | some found => simp only [behind _ _ cut]

theorem piecesClosed {text : List Char} (cut : cutClass s = some (text, tail)) :
    pieces ('[' :: s) = .oneOf (classOf text) :: pieces tail := by
  have shorter := cutShorter cut
  have step : pieces ('[' :: s) = .oneOf (classOf text) :: pieces.go s.length tail := by
    simp [pieces, pieces.go, cut]
  rw [step, piecesFuel (by omega) (Nat.le_refl tail.length)]
  rfl

def single (c : Char) : Piece := if c = '*' then .star else if c = '?' then .any else .char c

theorem piecesPlain (other : c ≠ '[') (s : List Char) : pieces (c :: s) = single c :: pieces s := by
  rw [pieces, List.length_cons, pieces.go, single, if_neg other]
  split
  · rfl
  · split <;> rfl

end Brackets

def Mute (body : List Char) : Prop := ∀ c ∈ body.takeWhile (· != '['), isLetter c = false

theorem muteOf {body : List Char} (none : (body.takeWhile (· != '[')).any isLetter = false) :
    Mute body := by
  simpa [Mute] using none

section Folding
variable {c d : Char} {s lead body tail : List Char} {inside : Bool}

theorem foldClosing (inside : Bool) (s : List Char) :
    ignoringCase.go inside (']' :: s) = ']' :: ignoringCase.go false s := by
  have sign : isLetter ']' = false := by decide +kernel
  cases inside <;> simp [ignoringCase.go, sign]

theorem foldKept (free : ']' ∉ body) (mute : inside = true ∨ Mute body) (rest : List Char) :
    ∃ next, ignoringCase.go inside (body ++ rest) = body ++ ignoringCase.go next rest := by
  induction body generalizing inside with
  | nil => exact ⟨inside, rfl⟩
  | cons c body ih =>
    rw [List.mem_cons, not_or] at free
    have other : (c != ']') = true := by simpa using Ne.symm free.1
    cases inside with
    | true =>
      obtain ⟨next, kept⟩ := @ih true free.2 (.inl rfl)
      refine ⟨next, ?_⟩
      rw [List.cons_append, ignoringCase.go, if_pos rfl, other, kept]
      rfl
    | false =>
      have mute := mute.resolve_left (by decide)
      by_cases opens : c = '['
      · obtain ⟨next, kept⟩ := @ih true free.2 (.inl rfl)
        refine ⟨next, ?_⟩
        rw [List.cons_append, ignoringCase.go, if_neg (by decide), if_pos opens, kept]
        rfl
      · have ahead : (c :: body).takeWhile (· != '[') = c :: body.takeWhile (· != '[') :=
          List.takeWhile_cons_of_pos (by simpa using opens)
        unfold Mute at mute
        rw [ahead, List.forall_mem_cons] at mute
        obtain ⟨next, kept⟩ := @ih false free.2 (.inr mute.2)
        refine ⟨next, ?_⟩
        rw [List.cons_append, ignoringCase.go, if_neg (by decide), if_neg opens, mute.1,
          if_neg (by decide), kept]
        rfl

theorem foldStart {rest : List Char} (start : Start lead rest) :
    ignoringCase.go true (lead ++ rest) = lead ++ ignoringCase.go (']' ∉ lead) rest := by
  cases start <;> rfl

theorem foldClass {rest : List Char} (start : Start lead (body ++ rest)) (free : ']' ∉ body)
    (mute : ']' ∈ lead → Mute body) : ∃ next, ignoringCase ('[' :: (lead ++ (body ++ rest))) =
      '[' :: (lead ++ (body ++ ignoringCase.go next rest)) := by
  obtain ⟨next, kept⟩ := @foldKept body (']' ∉ lead) free
    (by by_cases early : ']' ∈ lead <;> simp [early, mute]) rest
  refine ⟨next, ?_⟩
  rw [ignoringCase, ignoringCase.go, if_neg (by decide), if_pos rfl, foldStart start, kept]

theorem foldLetter (letter : isLetter c = true) (s : List Char) :
    ignoringCase (c :: s) = '[' :: (lowerChar c ++ upperChar c ++ ']' :: ignoringCase s) := by
  have other : c ≠ '[' := by
    rintro rfl
    exact absurd letter (by decide +kernel)
  rw [ignoringCase, ignoringCase.go, if_neg (by decide), if_neg other, if_pos letter, lowerSingle,
    upperSingle]
  rfl

theorem foldOther (other : c ≠ '[') (letter : isLetter c = false) (s : List Char) :
    ignoringCase (c :: s) = c :: ignoringCase s := by
  rw [ignoringCase, ignoringCase.go, if_neg (by decide), if_neg other, if_neg (by simp [letter])]
  rfl

end Folding

section Classes
variable {c d : Char} {text : List Char}

theorem rangesPlain (plain : '-' ∉ text) : ranges text = text.map fun c => (c, c) := by
  induction text using ranges.induct with
  | case1 => rfl
  | case2 c => rfl
  | case3 c d => rfl
  | case4 c d rest ordered ih => simp at plain
  | case5 c d rest unordered ih => simp at plain
  | case6 c rest one two three ih =>
    rw [List.mem_cons, not_or] at plain
    rw [ranges, ih plain.2, List.map_cons]
    all_goals assumption

theorem classPlain (mark : text.head? ≠ some '!') (plain : '-' ∉ text) :
    classOf text = ⟨false, text.map fun c => (c, c)⟩ := by
  cases text with
  | nil => rfl
  | cons c rest =>
    have other : c ≠ '!' := by simpa using mark
    simp [classOf, rangesPlain plain, other]

theorem plainContains : Class.contains ⟨false, text.map fun c => (c, c)⟩ d = true ↔ d ∈ text := by
  simp only [Class.contains, bne_iff_ne, ne_eq, Bool.not_eq_false, List.any_map, List.any_eq_true,
    Function.comp_apply, Bool.and_eq_true, decide_eq_true_eq]
  constructor
  · rintro ⟨c, member, low, high⟩
    exact le_antisymm low high ▸ member
  · exact fun member => ⟨d, member, le_rfl, le_rfl⟩

end Classes

def cased (c : Char) : Piece := .oneOf ⟨false, (lowerChar c ++ upperChar c).map fun d => (d, d)⟩

section Letters
variable {c d : Char} {s : List Char}

theorem casedTakes : (cased c).takes d = true ↔ d ∈ lowerChar c ++ upperChar c := plainContains

theorem casesSome (c : Char) : ∃ d more, lowerChar c ++ upperChar c = d :: more := by
  have some : lowerChar c ≠ [] := by
    unfold lowerChar
    split
    · simp
    · split <;> simp
  exact List.exists_cons_of_ne_nil (List.append_ne_nil_of_left_ne_nil some _)

theorem piecesLetter (letter : isLetter c = true) (s : List Char) :
    pieces (ignoringCase (c :: s)) = cased c :: pieces (ignoringCase s) := by
  obtain ⟨free, unmarked, plain⟩ := casesPlain letter
  obtain ⟨d, more, shape⟩ := casesSome c
  have mark : (lowerChar c ++ upperChar c).head? ≠ some '!' :=
    fun first => unmarked (List.mem_of_head? first)
  have bracket : (lowerChar c ++ upperChar c).head? ≠ some ']' :=
    fun first => free (List.mem_of_head? first)
  have start : Start [] (lowerChar c ++ upperChar c ++ ']' :: ignoringCase s) := by
    rw [shape] at mark bracket ⊢
    exact .plain mark bracket
  have cut := cutClosed start free
  rw [List.nil_append, List.nil_append] at cut
  rw [foldLetter letter, piecesClosed cut, classPlain mark plain]
  rfl

theorem piecesOther (other : c ≠ '[') (letter : isLetter c = false) (s : List Char) :
    pieces (ignoringCase (c :: s)) = single c :: pieces (ignoringCase s) := by
  rw [foldOther other letter, piecesPlain other]

theorem singleLetter (letter : isLetter c = true) : single c = .char c := by
  have star : c ≠ '*' := by
    rintro rfl
    exact absurd letter (by decide +kernel)
  have any : c ≠ '?' := by
    rintro rfl
    exact absurd letter (by decide +kernel)
  rw [single, if_neg star, if_neg any]

end Letters

/- Patterns whose brackets are read alike by folding and by matching. Folding ends a class at the first
closing bracket, also where that one belongs to the class; so no letter may stand between it and the
next bracket. And every letter outside of classes has to be its own lower or upper case, as all but the
letters in title case are. -/
inductive Foldable : List Char → Prop where
  | nil : Foldable []
  | plain {c s} (other : c ≠ '[') (own : isLetter c = true → c ∈ lowerChar c ++ upperChar c)
      (later : Foldable s) : Foldable (c :: s)
  | closed {lead body tail} (start : Start lead (body ++ ']' :: tail)) (free : ']' ∉ body)
      (mute : ']' ∈ lead → Mute body) (later : Foldable tail) :
      Foldable ('[' :: (lead ++ (body ++ ']' :: tail)))
  | unclosed {lead body} (start : Start lead body) (free : ']' ∉ body)
      (mute : ']' ∈ lead → Mute body) : Foldable ('[' :: (lead ++ body))

section Widening
variable {s name : List Char} {p : Piece} {ps : List Piece}

theorem Grants.refl (p : Piece) : Grants Eq p p := ⟨id, fun _ _ same taken => same ▸ taken⟩

theorem grantsAll (ps : List Piece) : Forall₂ (Grants Eq) ps ps :=
  List.forall₂_same.mpr fun p _ => Grants.refl p

theorem Foldable.widened (foldable : Foldable s) :
    Forall₂ (Grants Eq) (pieces s) (pieces (ignoringCase s)) := by
  induction foldable with
  | nil => exact .nil
  | @plain c s other own later ih =>
    rw [piecesPlain other]
    cases letter : isLetter c with
    | true =>
      rw [piecesLetter letter, singleLetter letter]
      refine .cons ⟨nofun, fun a b same taken => casedTakes.mpr ?_⟩ ih
      obtain rfl : a = c := by simpa [Piece.takes] using taken
      exact same ▸ own letter
    | false =>
      rw [piecesOther other letter]
      exact .cons (Grants.refl _) ih
  | closed start free mute later ih =>
    obtain ⟨next, kept⟩ := foldClass start free mute
    rw [kept, foldClosing, piecesClosed (cutClosed start free),
      piecesClosed (cutClosed (start.swap _) free)]
    exact .cons (Grants.refl _) ih
  | @unclosed lead body start free mute =>
    have whole : body ++ [] = body := List.append_nil body
    obtain ⟨next, kept⟩ := foldClass (whole.symm ▸ start) free mute
    rw [whole] at kept
    rw [kept]
    have done : ignoringCase.go next [] = [] := by cases next <;> rfl
    rw [done, whole]
    exact grantsAll _

theorem foldingKeeps (foldable : Foldable s) (matched : accepts s name = true) :
    accepts (ignoringCase s) name = true :=
  matchIff.mpr ((matchIff.mp matched).along foldable.widened (List.forall₂_eq_eq_eq ▸ rfl))

end Widening

def bracketPattern : List Char :=
  ['?', '[', ']', '-', '_', ']', '[', '!', ']', '1', ']', 'x', '[', 'a', '-', 'c', ']', '*', '[', 'y']

theorem bracketFoldable : Foldable bracketPattern :=
  .plain (by decide) (by decide +kernel) <|
  @Foldable.closed [']'] ['-', '_'] _ .bracket (by decide) (fun _ => muteOf (by decide +kernel)) <|
  @Foldable.closed ['!', ']'] ['1'] _ .both (by decide) (fun _ => muteOf (by decide +kernel)) <|
  .plain (by decide) (by decide +kernel) <|
  @Foldable.closed [] ['a', '-', 'c'] _ (.plain (by decide) (by decide)) (by decide) nofun <|
  .plain (by decide) (by decide +kernel) <|
  @Foldable.unclosed [] ['y'] (.plain (by decide) (by decide)) (by decide) nofun

theorem bracketKept : accepts bracketPattern "k_2xb..[y".toList = true ∧
    accepts (ignoringCase bracketPattern) "k_2xb..[y".toList = true := by
  have matched : accepts bracketPattern "k_2xb..[y".toList = true := by decide +kernel
  exact ⟨matched, foldingKeeps bracketFoldable matched⟩

/- A class that begins with a closing bracket comes apart at it, and a letter in title case is none of
its cases. -/
theorem matchesLost : (accepts "[]ab]".toList ['a'] = true ∧
      accepts (ignoringCase "[]ab]".toList) ['a'] = false) ∧
    accepts ['ǅ'] ['ǅ'] = true ∧ accepts (ignoringCase ['ǅ']) ['ǅ'] = false := by
  decide +kernel

section Ascii
variable {c : Char} {s pattern name : List Char} {p q : Piece}

structure Agrees (related : Char → Char → Prop) (p q : Piece) : Prop where
  star : p = .star ↔ q = .star
  taken : ∀ a b, related a b → p.takes a = q.takes b

def Lowers (a b : Char) : Prop := a.toNat < 128 ∧ b = a.toLower

def folded (c : Char) : Piece := if isLetter c then cased c else single c

theorem piecesFolded (other : c ≠ '[') (s : List Char) :
    pieces (ignoringCase (c :: s)) = folded c :: pieces (ignoringCase s) := by
  cases letter : isLetter c with
  | true => rw [piecesLetter letter, folded, if_pos letter]
  | false => rw [piecesOther other letter, folded, letter, if_neg (by decide)]

theorem foldedLower (small : c.toNat < 128) : Agrees Lowers (folded c) (single c.toLower) := by
  have rules : (isLetter c = true → isLetter c.toLower = true) ∧
      (isLetter c = false → lowerChar c ++ upperChar c = [c, c] ∧ c.toLower = c) :=
    asciiAll (p := fun c => (isLetter c = true → isLetter c.toLower = true) ∧
      (isLetter c = false → lowerChar c ++ upperChar c = [c, c] ∧ c.toLower = c))
      (by decide +kernel) small
  have takes (a : Char) (small' : a.toNat < 128) :
      a ∈ lowerChar c ++ upperChar c ↔ a.toLower = c.toLower := smallCases small small'
  cases letter : isLetter c with
  | true =>
    rw [folded, if_pos letter, singleLetter (rules.1 letter)]
    refine ⟨⟨nofun, nofun⟩, ?_⟩
    rintro a _ ⟨small', rfl⟩
    rw [Bool.eq_iff_iff, casedTakes, takes a small']
    simp [Piece.takes]
  | false =>
    obtain ⟨both, same⟩ := rules.2 letter
    rw [folded, letter, if_neg (by decide), same]
    refine ⟨Iff.rfl, ?_⟩
    rintro a _ ⟨small', rfl⟩
    have own := takes a small'
    rw [both, same] at own
    simp only [List.mem_cons, List.not_mem_nil, or_false, or_self] at own
    unfold single
    split
    · rfl
    · split
      · rfl
      · simp only [Piece.takes, own]

theorem foldedAgree (plain : '[' ∉ s) (small : ∀ c ∈ s, c.toNat < 128) :
    Forall₂ (Agrees Lowers) (pieces (ignoringCase s)) (pieces (s.map Char.toLower)) := by
  induction s with
  | nil => exact .nil
  | cons c rest ih =>
    obtain ⟨here, later⟩ := List.forall_mem_cons.mp small
    rw [List.mem_cons, not_or] at plain
    have other : c.toLower ≠ '[' :=
      asciiAll (p := fun c => '[' ≠ c → c.toLower ≠ '[') (by decide +kernel) here plain.1
    rw [piecesFolded (Ne.symm plain.1), List.map_cons, piecesPlain other]
    exact .cons (foldedLower here) (ih plain.2 later)

theorem asciiCaseless (plain : '[' ∉ pattern) (small : ∀ c ∈ pattern, c.toNat < 128)
    (small' : ∀ c ∈ name, c.toNat < 128) :
    accepts (ignoringCase pattern) name = accepts (lower pattern) (lower name) := by
  have agree := foldedAgree plain small
  have names : Forall₂ Lowers name (name.map Char.toLower) :=
    List.forall₂_map_right_iff.mpr (List.forall₂_same.mpr fun c member => ⟨small' c member, rfl⟩)
  rw [lower, lower, lowerSmall small, lowerSmall small', Bool.eq_iff_iff]
  unfold accepts
  rw [matchIff, matchIff]
  constructor
  · intro matched
    refine matched.along (agree.imp fun p q same => ⟨same.star.mp, ?_⟩) names
    exact fun a b related taken => same.taken a b related ▸ taken
  · intro matched
    refine matched.along (agree.flip.imp fun q p same => ⟨same.star.mpr, ?_⟩) names.flip
    exact fun b a related taken => same.taken a b related ▸ taken

theorem asciiOf (small : s.all fun c => c.toNat < 128) : ∀ c ∈ s, c.toNat < 128 := by
  simpa using small

theorem mixedCaseless : accepts (ignoringCase "Ab?]*.JSON".toList) "aBc]x.Json".toList = true ∧
    accepts (lower "Ab?]*.JSON".toList) (lower "aBc]x.Json".toList) = true := by
  have same := @asciiCaseless "Ab?]*.JSON".toList "aBc]x.Json".toList (by decide +kernel)
    (asciiOf (by decide +kernel)) (asciiOf (by decide +kernel))
  have matched : accepts (ignoringCase "Ab?]*.JSON".toList) "aBc]x.Json".toList = true := by
    decide +kernel
  exact ⟨matched, same ▸ matched⟩

end Ascii

end Pattern

end EntityForge
