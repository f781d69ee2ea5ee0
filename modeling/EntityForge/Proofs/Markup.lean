import EntityForge.Target.Basic
import EntityForge.Terminal.Markup
import Mathlib.Data.List.TakeWhile

/-! Markup as tokens: characters and tags, a tag with the backslashes before it. Printing is a walk over
the tags that are not protected, so whether a text can be printed depends on those alone. An escaped text
has none of its own, and a text between frames without brackets has those it has without them. -/
namespace EntityForge.Terminal

structure IsTag (body : List Char) : Prop where
  starts : ∃ c rest, body = c :: rest ∧ startsTag c = true
  closed : '[' ∉ body ∧ ']' ∉ body

theorem tagBodyIff {s body after : List Char} :
    tagBody s = some (body, after) ↔ s = body ++ ']' :: after ∧ '[' ∉ body ∧ ']' ∉ body := by
  induction s generalizing body with
  | nil => simp [tagBody]
  | cons c rest ih =>
    unfold tagBody
    by_cases close : c = ']'
    · subst close
      cases body with
      | nil => simp [eq_comm]
      | cons d more => simp +contextual [eq_comm]
    · rw [if_neg close]
      by_cases again : c = '['
      · subst again
        cases body with
        | nil => simp
        | cons d more => simp +contextual [eq_comm]
      · rw [if_neg again]
        cases body with
        | nil => simp [close]
        | cons d more =>
          simp only [Option.map_eq_some_iff, Prod.exists, Prod.mk.injEq, List.cons.injEq,
            List.cons_append, List.mem_cons, not_or]
          constructor
          · rintro ⟨body, after, found, ⟨rfl, rfl⟩, rfl⟩
            obtain ⟨rfl, first, second⟩ := ih.mp found
            exact ⟨⟨rfl, rfl⟩, ⟨Ne.symm again, first⟩, Ne.symm close, second⟩
          · rintro ⟨⟨rfl, shape⟩, ⟨_, first⟩, _, second⟩
            exact ⟨_, _, ih.mpr ⟨shape, first, second⟩, ⟨rfl, rfl⟩, rfl⟩

theorem leadingTagIff {s body after : List Char} :
    leadingTag s = some (body, after) ↔ s = '[' :: (body ++ ']' :: after) ∧ IsTag body := by
  constructor
  · intro found
    unfold leadingTag at found
    split at found
    next c rest =>
      split at found
      next start =>
        obtain ⟨⟨more, rest'⟩, inner, same⟩ := Option.map_eq_some_iff.mp found
        cases same
        obtain ⟨rfl, first, second⟩ := tagBodyIff.mp inner
        refine ⟨rfl, ⟨c, more, rfl, start⟩, ?_, ?_⟩
        · rw [List.mem_cons, not_or]
          refine ⟨?_, first⟩
          rintro rfl
          cases start
        · rw [List.mem_cons, not_or]
          refine ⟨?_, second⟩
          rintro rfl
          cases start
      next => cases found
    next => cases found
  · rintro ⟨rfl, ⟨c, more, rfl, start⟩, first, second⟩
    rw [List.mem_cons, not_or] at first second
    rw [List.cons_append, leadingTag, if_pos start, tagBodyIff.mpr ⟨rfl, first.2, second.2⟩]
    rfl

theorem slashesReplicate (s : List Char) : s.takeWhile (· == '\\') =
    List.replicate (s.takeWhile (· == '\\')).length '\\' := by
  refine List.eq_replicate_of_mem fun c member => ?_
  simpa using List.mem_takeWhile_imp member

def slashed (slashes : Nat) (body after : List Char) : List Char :=
  List.replicate slashes '\\' ++ '[' :: (body ++ ']' :: after)

theorem escapedTagIff {s body after : List Char} {slashes : Nat} :
    escapedTag s = some (slashes, body, after) ↔ s = slashed slashes body after ∧ IsTag body := by
  constructor
  · intro found
    obtain ⟨⟨inner, rest⟩, lead, same⟩ := Option.map_eq_some_iff.mp found
    cases same
    obtain ⟨shape, tag⟩ := leadingTagIff.mp lead
    refine ⟨?_, tag⟩
    have split : s.takeWhile (· == '\\') ++ s.dropWhile (· == '\\') = s :=
      List.takeWhile_append_dropWhile
    have rest := congrArg (List.drop (s.takeWhile (· == '\\')).length) split
    rw [List.drop_left] at rest
    rw [slashed, ← slashesReplicate, ← shape, ← rest, split]
  · rintro ⟨rfl, tag⟩
    have front : (slashed slashes body after).takeWhile (· == '\\') =
        List.replicate slashes '\\' := by
      rw [slashed, List.takeWhile_append_of_pos (by simp)]
      simp
    unfold escapedTag
    dsimp only
    rw [front, List.length_replicate, slashed, List.drop_left' (by simp), leadingTagIff.mpr ⟨rfl, tag⟩]
    rfl

theorem escapedTagShort {s body after : List Char} {slashes : Nat}
    (found : escapedTag s = some (slashes, body, after)) : after.length < s.length := by
  rw [(escapedTagIff.mp found).1]
  simp only [slashed, List.length_append, List.length_replicate, List.length_cons]
  omega

theorem plainStart {c : Char} (bracket : c ≠ '[') (slash : c ≠ '\\') (rest : List Char) :
    escapedTag (c :: rest) = none := by
  cases found : escapedTag (c :: rest) with
  | none => rfl
  | some tag =>
    obtain ⟨slashes, body, after⟩ := tag
    have shape := (escapedTagIff.mp found).1
    cases slashes with
    | zero => exact absurd (List.cons.inj shape).1 bracket
    | succ n => exact absurd (List.cons.inj shape).1 slash

inductive Token where
  | char (c : Char)
  | tag (slashes : Nat) (body : List Char)
  deriving DecidableEq

def tokens (s : List Char) : List Token := go s.length s
where
  go : Nat → List Char → List Token
    | 0, _ => []
    | _, [] => []
    | fuel + 1, c :: rest =>
      match escapedTag (c :: rest) with
      | some (slashes, body, after) => .tag slashes body :: go fuel after
      | none => .char c :: go fuel rest

theorem tokensFuel {fuel : Nat} {s : List Char} (enough : s.length ≤ fuel) :
    tokens.go fuel s = tokens s := by
  induction fuel using Nat.strong_induction_on generalizing s with
  | _ fuel ih =>
    cases s with
    | nil => cases fuel <;> rfl
    | cons c rest =>
      cases fuel with
      | zero => simp at enough
      | succ fuel =>
        rw [List.length_cons, Nat.succ_le_succ_iff] at enough
        rw [tokens, List.length_cons, tokens.go, tokens.go]
        cases found : escapedTag (c :: rest) with
        | none =>
          dsimp only
          rw [ih fuel (by omega) enough, tokens]
        | some tag =>
          obtain ⟨slashes, body, after⟩ := tag
          have short := escapedTagShort found
          rw [List.length_cons, Nat.lt_succ_iff] at short
          dsimp only
          rw [ih fuel (by omega) (short.trans enough), ih rest.length (by omega) short]

theorem tokensChar {c : Char} {rest : List Char} (none : escapedTag (c :: rest) = none) :
    tokens (c :: rest) = .char c :: tokens rest := by
  rw [tokens, List.length_cons, tokens.go, none]
  rfl

theorem tokensTag (slashes : Nat) {body : List Char} (tag : IsTag body) (after : List Char) :
    tokens (slashed slashes body after) = .tag slashes body :: tokens after := by
  have found : escapedTag (slashed slashes body after) = some (slashes, body, after) :=
    escapedTagIff.mpr ⟨rfl, tag⟩
  have short := escapedTagShort found
  cases shape : slashed slashes body after with
  | nil => simp [shape] at short
  | cons c rest =>
    rw [shape] at found short
    rw [tokens, List.length_cons, tokens.go, found]
    dsimp only
    rw [tokensFuel (by simpa [Nat.lt_succ_iff] using short)]

theorem fuelInduction {motive : Nat → List Char → Prop} (nil : ∀ fuel, motive fuel [])
    (tag : ∀ fuel c rest slashes body after, escapedTag (c :: rest) = some (slashes, body, after) →
      motive fuel after → motive (fuel + 1) (c :: rest))
    (char : ∀ fuel c rest, escapedTag (c :: rest) = none → motive fuel rest →
      motive (fuel + 1) (c :: rest))
    {fuel : Nat} {s : List Char} (enough : s.length ≤ fuel) : motive fuel s := by
  induction fuel generalizing s with
  | zero =>
    obtain rfl := List.length_eq_zero_iff.mp (Nat.le_zero.mp enough)
    exact nil 0
  | succ fuel ih =>
    cases s with
    | nil => exact nil _
    | cons c rest =>
      rw [List.length_cons, Nat.succ_le_succ_iff] at enough
      cases found : escapedTag (c :: rest) with
      | none => exact char fuel c rest found (ih enough)
      | some first =>
        obtain ⟨slashes, body, after⟩ := first
        have short := escapedTagShort found
        rw [List.length_cons, Nat.lt_succ_iff] at short
        exact tag fuel c rest slashes body after found (ih (short.trans enough))

theorem tokenInduction {motive : List Char → Prop} (nil : motive [])
    (tag : ∀ slashes body after, IsTag body → motive after → motive (slashed slashes body after))
    (char : ∀ c rest, escapedTag (c :: rest) = none → motive rest → motive (c :: rest))
    (s : List Char) : motive s := by
  refine fuelInduction (motive := fun _ s => motive s) (fun _ => nil) ?_ (fun _ => char)
    (Nat.le_refl s.length)
  intro _ c rest slashes body after found later
  obtain ⟨shape, isTag⟩ := escapedTagIff.mp found
  rw [shape]
  exact tag slashes body after isTag later

def glue (before : List Char) : List Token → List Piece
  | [] => pieces.textPiece before
  | .char c :: rest => glue (c :: before) rest
  | .tag slashes body :: rest => pieces.textPiece before ++ escapedPieces slashes body ++ glue [] rest

theorem piecesGlue {fuel : Nat} {s : List Char} (enough : s.length ≤ fuel) (before : List Char) :
    pieces.go fuel before s = glue before (tokens s) := by
  refine fuelInduction (motive := fun fuel s => ∀ before, pieces.go fuel before s =
    glue before (tokens s)) ?_ ?_ ?_ enough before
  · intro fuel before
    cases fuel <;> rfl
  · intro fuel c rest slashes body after found ih before
    obtain ⟨shape, isTag⟩ := escapedTagIff.mp found
    rw [pieces.go, found]
    dsimp only
    rw [shape, tokensTag slashes isTag, ih]
    rfl
  · intro fuel c rest found ih before
    rw [pieces.go, found, tokensChar found]
    exact ih (c :: before)

theorem piecesTokens (s : List Char) : pieces s = glue [] (tokens s) := piecesGlue (Nat.le_refl _) []

def Token.guarded : Token → List Char
  | .char c => [c]
  | .tag slashes body => slashed (2 * slashes + 1) body []

theorem escapeGuards {fuel : Nat} {s : List Char} (enough : s.length ≤ fuel) :
    escapeTags.go fuel s = (tokens s).flatMap Token.guarded := by
  refine fuelInduction (motive := fun fuel s => escapeTags.go fuel s =
    (tokens s).flatMap Token.guarded) ?_ ?_ ?_ enough
  · intro fuel
    cases fuel <;> rfl
  · intro fuel c rest slashes body after found ih
    obtain ⟨shape, isTag⟩ := escapedTagIff.mp found
    rw [escapeTags.go, found]
    dsimp only
    rw [shape, tokensTag slashes isTag, ih]
    simp [Token.guarded, slashed]
  · intro fuel c rest found ih
    rw [escapeTags.go, found]
    dsimp only
    rw [tokensChar found, ih]
    rfl

theorem escapeTokens (s : List Char) : escapeTags s = (tokens s).flatMap Token.guarded :=
  escapeGuards (Nat.le_refl _)

def Token.mark? : Token → Option (List Char)
  | .char _ => none
  | .tag slashes body => if slashes % 2 = 1 then none else some body

def marks (s : List Char) : List (List Char) := (tokens s).filterMap Token.mark?

def Printable (markup : String) : Prop := ∃ text, plain markup = .ok text

def Piece.tag? : Piece → Option (List Char)
  | .text _ => none
  | .tag body => some body

theorem piecesPrintable (opened : List String) (items : List Piece) :
    (∃ text, textOf opened items = .ok text) ↔
      ∃ last, (items.filterMap Piece.tag?).foldlM applyTag opened = .ok last := by
  induction items generalizing opened with
  | nil => exact ⟨fun _ => ⟨_, rfl⟩, fun _ => ⟨_, rfl⟩⟩
  | cons piece rest ih =>
    cases piece with
    | text s =>
      rw [List.filterMap_cons_none rfl, ← ih, textOf]
      cases textOf opened rest <;> simp [Except.map]
    | tag body =>
      have first : (Piece.tag body :: rest).filterMap Piece.tag? = body :: rest.filterMap Piece.tag? := rfl
      rw [first, List.foldlM_cons, textOf]
      cases applyTag opened body with
      | error failure => simp [bind, Except.bind]
      | ok inner => exact ih inner

theorem glueMarks (before : List Char) (items : List Token) :
    (glue before items).filterMap Piece.tag? = items.filterMap Token.mark? := by
  have none (before : List Char) : (pieces.textPiece before).filterMap Piece.tag? = [] := by
    cases before <;> rfl
  induction items generalizing before with
  | nil => exact none before
  | cons token rest ih =>
    cases token with
    | char c => exact ih (c :: before)
    | tag slashes body =>
      have guarded : (escapedPieces slashes body).filterMap Piece.tag? =
          [Token.tag slashes body].filterMap Token.mark? := by
        by_cases few : slashes < 2 <;> by_cases odd : slashes % 2 = 1 <;>
          simp [escapedPieces, few, odd, Piece.tag?, Token.mark?, List.filterMap]
      rw [glue, List.filterMap_append, List.filterMap_append, none, guarded, ih]
      exact (List.filterMap_append (l := [_])).symm

theorem printableMarks {markup : String} :
    Printable markup ↔ ∃ last, (marks markup.toList).foldlM applyTag [] = .ok last := by
  rw [Printable, plain, piecesPrintable, piecesTokens, glueMarks]
  rfl

theorem markupCharFree {s : List Char} (free : '[' ∉ s) : tokens s = s.map .char := by
  induction s using tokenInduction with
  | nil => rfl
  | tag slashes body after => simp [slashed] at free
  | char c rest bare ih =>
    rw [tokensChar bare, ih fun member => free (List.mem_cons_of_mem _ member)]
    rfl

theorem escapeFree {s : List Char} (free : '[' ∉ s) : escapeTags s = s := by
  rw [escapeTokens, markupCharFree free, List.flatMap_map]
  exact List.flatMap_singleton' s

theorem escapeChar {c : Char} {rest : List Char} (bare : escapedTag (c :: rest) = none) :
    escapeTags (c :: rest) = c :: escapeTags rest := by
  rw [escapeTokens, tokensChar bare, List.flatMap_cons, Token.guarded, ← escapeTokens]
  rfl

section Frames

/- Goes with what follows as it goes alone: no tag is left open in it and it ends in no backslash. -/
def Settled (front : List Char) : Prop :=
  ∀ token ∈ tokens front, token ≠ .char '[' ∧ token ≠ .char '\\'

instance (front : List Char) : Decidable (Settled front) :=
  inferInstanceAs (Decidable (∀ token ∈ tokens front, _))

theorem tokensAfter {front : List Char} (settled : Settled front) (s : List Char) :
    tokens (front ++ s) = tokens front ++ tokens s := by
  unfold Settled at settled
  induction front using tokenInduction with
  | nil => rfl
  | tag slashes body after isTag ih =>
    have whole : slashed slashes body after ++ s = slashed slashes body (after ++ s) := by
      simp [slashed]
    rw [tokensTag slashes isTag] at settled ⊢
    rw [whole, tokensTag slashes isTag, ih fun token there => settled token (List.mem_cons_of_mem _ there)]
    rfl
  | char c rest bare ih =>
    rw [tokensChar bare] at settled ⊢
    obtain ⟨⟨bracket, slash⟩, later⟩ := List.forall_mem_cons.mp settled
    have plain := plainStart (c := c) (by simpa using bracket) (by simpa using slash) (rest ++ s)
    rw [List.cons_append, tokensChar plain, ih later]
    rfl

theorem tokensBefore (s : List Char) {back : List Char} (free : ']' ∉ back) :
    tokens (s ++ back) = tokens s ++ tokens back := by
  induction s using tokenInduction with
  | nil => rfl
  | tag slashes body after isTag ih =>
    have whole : slashed slashes body after ++ back = slashed slashes body (after ++ back) := by
      simp [slashed]
    rw [whole, tokensTag slashes isTag, tokensTag slashes isTag, ih]
    rfl
  | char c rest bare ih =>
    have still : escapedTag (c :: (rest ++ back)) = none := by
      cases found : escapedTag (c :: (rest ++ back)) with
      | none => rfl
      | some tag =>
        obtain ⟨slashes, body, after⟩ := tag
        obtain ⟨shape, isTag⟩ := escapedTagIff.mp found
        have shape : (c :: rest) ++ back =
            (List.replicate slashes '\\' ++ '[' :: body) ++ ']' :: after := by
          simpa [slashed] using shape
        rcases List.append_eq_append_iff.mp shape with ⟨more, _, rfl⟩ | ⟨more, begun, ends⟩
        · simp at free
        · cases more with
          | nil =>
            obtain rfl : ']' :: after = back := ends
            exact absurd List.mem_cons_self free
          | cons d more =>
            obtain ⟨rfl, rfl⟩ := List.cons.inj ends
            have inside : c :: rest = slashed slashes body more := by simpa [slashed] using begun
            rw [escapedTagIff.mpr ⟨inside, isTag⟩] at bare
            cases bare
    rw [List.cons_append, tokensChar still, tokensChar bare, ih]
    rfl

end Frames

section Escaping

theorem guardedInner {s body after tail : List Char} (free : '[' ∉ body)
    (shape : escapeTags s ++ '[' :: tail = body ++ ']' :: after) : ∃ rest, s = body ++ ']' :: rest := by
  induction s using tokenInduction generalizing body with
  | nil =>
    cases body with
    | nil => simp [escapeTags, escapeTags.go] at shape
    | cons d more =>
      obtain ⟨rfl, _⟩ := List.cons.inj shape
      exact absurd List.mem_cons_self free
  | tag slashes inner rest isTag _ =>
    rw [escapeTokens, tokensTag slashes isTag, List.flatMap_cons, Token.guarded, slashed,
      List.append_assoc, List.append_assoc, List.cons_append] at shape
    rcases List.append_eq_append_iff.mp shape with ⟨more, rfl, ends⟩ | ⟨more, begun, ends⟩
    · cases more with
      | nil => simp at ends
      | cons d more =>
        obtain ⟨rfl, _⟩ := List.cons.inj ends
        exact absurd (List.mem_append_right _ List.mem_cons_self) free
    · cases more with
      | nil => simp at ends
      | cons d more =>
        obtain ⟨rfl, _⟩ := List.cons.inj ends
        have member : ']' ∈ List.replicate (2 * slashes + 1) '\\' := by simp [begun]
        simp at member
  | char c rest bare ih =>
    rw [escapeChar bare] at shape
    cases body with
    | nil =>
      obtain ⟨rfl, _⟩ := List.cons.inj shape
      exact ⟨rest, rfl⟩
    | cons d more =>
      obtain ⟨rfl, inside⟩ := List.cons.inj shape
      obtain ⟨later, rfl⟩ := ih (fun member => free (List.mem_cons_of_mem _ member)) inside
      exact ⟨later, rfl⟩

theorem guardedTag {s body after tail : List Char} {slashes : Nat} (bare : escapedTag s = none)
    (isTag : IsTag body) (shape : escapeTags s ++ '[' :: tail = slashed slashes body after) :
    s = List.replicate slashes '\\' ∧ tail = body ++ ']' :: after := by
  induction s generalizing slashes with
  | nil =>
    cases slashes with
    | zero => exact ⟨rfl, (List.cons.inj shape).2⟩
    | succ n => simp [escapeTags, escapeTags.go, slashed, List.replicate_succ] at shape
  | cons c rest ih =>
    rw [escapeChar bare, List.cons_append] at shape
    cases slashes with
    | zero =>
      obtain ⟨rfl, inside⟩ := List.cons.inj shape
      obtain ⟨later, rfl⟩ := guardedInner isTag.closed.1 inside
      have found : escapedTag ('[' :: (body ++ ']' :: later)) = some (0, body, later) :=
        escapedTagIff.mpr ⟨rfl, isTag⟩
      rw [found] at bare
      cases bare
    | succ n =>
      obtain ⟨rfl, inside⟩ := List.cons.inj shape
      have later : escapedTag rest = none := by
        cases found : escapedTag rest with
        | none => rfl
        | some tag =>
          obtain ⟨count, inner, after'⟩ := tag
          obtain ⟨rfl, isTag'⟩ := escapedTagIff.mp found
          have longer : '\\' :: slashed count inner after' = slashed (count + 1) inner after' := rfl
          rw [longer, escapedTagIff.mpr ⟨rfl, isTag'⟩] at bare
          cases bare
      obtain ⟨rfl, ends⟩ := ih later inside
      exact ⟨rfl, ends⟩

/- An escaped text has no tags, and one behind it is still one or has become text. -/
theorem marksEscaped (s : List Char) {body : List Char} (isTag : IsTag body) :
    marks (escapeTags s ++ '[' :: (body ++ [']'])) = [] ∨
      marks (escapeTags s ++ '[' :: (body ++ [']'])) = [body] := by
  have single (slashes : Nat) : marks (slashed slashes body []) = [] ∨
      marks (slashed slashes body []) = [body] := by
    rw [marks, tokensTag slashes isTag]
    by_cases odd : slashes % 2 = 1
    · exact .inl (by simp [Token.mark?, odd, tokens, tokens.go])
    · exact .inr (by simp [Token.mark?, odd, tokens, tokens.go])
  induction s using tokenInduction with
  | nil => exact single 0
  | tag slashes inner rest isTag' ih =>
    have whole : escapeTags (slashed slashes inner rest) ++ '[' :: (body ++ [']']) =
        slashed (2 * slashes + 1) inner (escapeTags rest ++ '[' :: (body ++ [']'])) := by
      rw [escapeTokens, tokensTag slashes isTag', List.flatMap_cons, Token.guarded, ← escapeTokens]
      simp [slashed]
    have odd : (2 * slashes + 1) % 2 = 1 := by omega
    rw [whole, marks, tokensTag _ isTag', List.filterMap_cons_none (by simp [Token.mark?, odd])]
    exact ih
  | char c rest bare ih =>
    cases found : escapedTag (c :: (escapeTags rest ++ '[' :: (body ++ [']']))) with
    | none =>
      rw [escapeChar bare, List.cons_append, marks, tokensChar found, List.filterMap_cons_none rfl]
      exact ih
    | some tag =>
      obtain ⟨slashes, inner, after⟩ := tag
      obtain ⟨shape, isTag'⟩ := escapedTagIff.mp found
      rw [← List.cons_append, ← escapeChar bare] at shape
      -- the tag began in the text, so there is nothing between but backslashes
      obtain ⟨slashes', _⟩ := guardedTag bare isTag' shape
      rw [slashes', escapeFree (by simp)]
      exact single slashes

theorem escapeShape (s : String) : ∃ t, (escape s).toList = escapeTags t := by
  unfold escape
  dsimp only
  split
  · exact ⟨s.toList, String.toList_ofList⟩
  · refine ⟨s.toList ++ ['\\'], ?_⟩
    rw [String.toList_ofList, escapeTokens, escapeTokens, tokensBefore _ (by decide), List.flatMap_append]
    rfl
  · exact ⟨s.toList, String.toList_ofList⟩

theorem closingTag {name : List Char} (free : '[' ∉ name ∧ ']' ∉ name) : IsTag ('/' :: name) :=
  ⟨⟨'/', name, rfl, rfl⟩, by simp [free]⟩

theorem printableEscaped (front : String) (name : List Char) {back : String} {opened last : List String}
    (settled : Settled front.toList) (opens : (marks front.toList).foldlM applyTag [] = .ok opened)
    (closing : back.toList = '[' :: ('/' :: name ++ [']'])) (free : '[' ∉ name ∧ ']' ∉ name)
    (closes : applyTag opened ('/' :: name) = .ok last) (s : String) :
    Printable (front ++ escape s ++ back) := by
  obtain ⟨t, shape⟩ := escapeShape s
  have split : marks (front ++ escape s ++ back).toList =
      marks front.toList ++ marks (escapeTags t ++ '[' :: ('/' :: name ++ [']'])) := by
    rw [String.toList_append, String.toList_append, List.append_assoc, shape, closing, marks,
      tokensAfter settled, List.filterMap_append]
    rfl
  rw [printableMarks, split, List.foldlM_append, opens]
  rcases marksEscaped t (closingTag free) with none | one
  · rw [none]
    exact ⟨opened, rfl⟩
  · rw [one]
    exact ⟨last, by simp [bind, Except.bind, closes, pure, Except.pure]⟩

end Escaping

section Symbols

theorem symbolLabelWhole {label : List Char} (free : ':' ∉ label)
    (solid : ∀ c ∈ label, Text.isBlank c = false) (after : List Char) :
    symbolLabel (label ++ ':' :: after) = some (label, after) := by
  induction label with
  | nil => rfl
  | cons c rest ih =>
    rw [List.mem_cons, not_or] at free
    obtain ⟨here, later⟩ := List.forall_mem_cons.mp solid
    rw [List.cons_append, symbolLabel, if_neg (Ne.symm free.1), if_neg (by simp [here]),
      ih free.2 later]
    rfl

theorem symbolLabelShape {s label after : List Char} (found : symbolLabel s = some (label, after)) :
    s = label ++ ':' :: after ∧ ':' ∉ label ∧ ∀ c ∈ label, Text.isBlank c = false := by
  induction s generalizing label with
  | nil => cases found
  | cons c rest ih =>
    unfold symbolLabel at found
    split at found
    next colon =>
      cases found
      exact ⟨by rw [colon]; rfl, by simp, by simp⟩
    next other =>
      split at found
      · cases found
      next solid =>
        obtain ⟨⟨more, rest'⟩, inner, same⟩ := Option.map_eq_some_iff.mp found
        cases same
        obtain ⟨rfl, free, later⟩ := ih inner
        refine ⟨rfl, ?_, List.forall_mem_cons.mpr ⟨by simpa using solid, later⟩⟩
        rw [List.mem_cons, not_or]
        exact ⟨Ne.symm other, free⟩

theorem symbolShort {s label after : List Char} (found : symbolLabel s = some (label, after)) :
    after.length < s.length := by
  rw [(symbolLabelShape found).1]
  simp only [List.length_append, List.length_cons]
  omega

theorem symbolsFuel {fuel : Nat} {s : List Char} (enough : s.length ≤ fuel) :
    replaceSymbols.go fuel s = replaceSymbols s := by
  induction fuel using Nat.strong_induction_on generalizing s with
  | _ fuel ih =>
    cases s with
    | nil => cases fuel <;> rfl
    | cons c rest =>
      cases fuel with
      | zero => simp at enough
      | succ fuel =>
        rw [List.length_cons, Nat.succ_le_succ_iff] at enough
        rw [replaceSymbols, List.length_cons, replaceSymbols.go, replaceSymbols.go]
        cases found : if c = ':' then symbolLabel rest else none with
        | none =>
          dsimp only
          rw [ih fuel (by omega) enough, replaceSymbols]
        | some symbol =>
          obtain ⟨label, after⟩ := symbol
          split at found
          · have short := symbolShort found
            dsimp only
            rw [ih fuel (by omega) (by omega), ih rest.length (by omega) (by omega)]
          · cases found

theorem symbolsOther {c : Char} (other : c ≠ ':') (rest : List Char) :
    replaceSymbols (c :: rest) = c :: replaceSymbols rest := by
  rw [replaceSymbols, List.length_cons, replaceSymbols.go, if_neg other]
  rfl

theorem symbolsColon {rest : List Char} (bare : symbolLabel rest = none) :
    replaceSymbols (':' :: rest) = ':' :: replaceSymbols rest := by
  rw [replaceSymbols, List.length_cons, replaceSymbols.go, if_pos rfl, bare]
  rfl

theorem symbolsName {rest label after : List Char} (found : symbolLabel rest = some (label, after)) :
    replaceSymbols (':' :: rest) =
      (symbolOf? label).getD (':' :: label ++ [':']) ++ replaceSymbols after := by
  rw [replaceSymbols, List.length_cons, replaceSymbols.go, if_pos rfl, found]
  dsimp only
  rw [symbolsFuel (symbolShort found).le]

theorem symbolsFront {front : List Char} (free : ':' ∉ front) (s : List Char) :
    replaceSymbols (front ++ s) = front ++ replaceSymbols s := by
  induction front with
  | nil => rfl
  | cons c rest ih =>
    rw [List.mem_cons, not_or] at free
    rw [List.cons_append, symbolsOther (Ne.symm free.1), ih free.2]
    rfl

theorem symbolsBlank {c : Char} (blank : Text.isBlank c = true) (s : List Char) :
    replaceSymbols (':' :: c :: s) = ':' :: replaceSymbols (c :: s) := by
  refine symbolsColon ?_
  unfold symbolLabel
  rw [if_neg (by rintro rfl; cases blank), if_pos blank]

theorem symbolsBack (s : List Char) {back : List Char} (free : ':' ∉ back) :
    replaceSymbols (s ++ back) = replaceSymbols s ++ back := by
  -- a name of a symbol takes several characters at once, so on the length of the text
  induction size : s.length using Nat.strong_induction_on generalizing s with
  | _ n ih =>
    subst size
    cases s with
    | nil =>
      have whole := symbolsFront free []
      rwa [List.append_nil, show replaceSymbols [] = [] from rfl, List.append_nil] at whole
    | cons c rest =>
      have shorter := ih rest.length (by simp) rest rfl
      rw [List.cons_append]
      by_cases colon : c = ':'
      · subst colon
        cases found : symbolLabel rest with
        | none =>
          -- a name that is there only with the text behind would take its colon from it
          have still : symbolLabel (rest ++ back) = none := by
            cases longer : symbolLabel (rest ++ back) with
            | none => rfl
            | some symbol =>
              obtain ⟨label, after⟩ := symbol
              obtain ⟨shape, alone, solid⟩ := symbolLabelShape longer
              rcases List.append_eq_append_iff.mp shape with ⟨more, _, rfl⟩ | ⟨more, begun, ends⟩
              · simp at free
              · cases more with
                | nil =>
                  obtain rfl : ':' :: after = back := ends
                  exact absurd List.mem_cons_self free
                | cons d more =>
                  obtain ⟨rfl, _⟩ := List.cons.inj ends
                  rw [begun, symbolLabelWhole alone solid] at found
                  cases found
          rw [symbolsColon still, symbolsColon found, shorter]
          rfl
        | some symbol =>
          obtain ⟨label, after⟩ := symbol
          obtain ⟨rfl, alone, solid⟩ := symbolLabelShape found
          have longer := symbolLabelWhole alone solid (after ++ back)
          rw [← List.cons_append, ← List.append_assoc] at longer
          rw [symbolsName longer, symbolsName found, ih after.length (by simp; omega) after rfl,
            List.append_assoc]
      · rw [symbolsOther colon, symbolsOther colon, shorter]
        rfl

end Symbols

section Lines

theorem bracketsFront {front : List Char} (free : '\\' ∉ front) (s : List Char) :
    dropBracketEscapes (front ++ s) = front ++ dropBracketEscapes s := by
  induction front with
  | nil => rfl
  | cons c rest ih =>
    rw [List.mem_cons, not_or] at free
    rw [List.cons_append, dropBracketEscapes, ih free.2]
    · rfl
    · rintro more rfl
      exact absurd rfl free.1

theorem bracketsBack (s : List Char) {back : List Char} (first : back.head? ≠ some '[')
    (free : '\\' ∉ back) : dropBracketEscapes (s ++ back) = dropBracketEscapes s ++ back := by
  fun_induction dropBracketEscapes s with
  | case1 rest ih =>
    have step : dropBracketEscapes ('\\' :: '[' :: (rest ++ back)) =
      '[' :: dropBracketEscapes (rest ++ back) := rfl
    exact step.trans (congrArg ('[' :: ·) ih)
  | case2 c rest other ih =>
    rw [List.cons_append, dropBracketEscapes, ih]
    · rfl
    · rintro more rfl shape
      cases rest with
      | nil => exact first (by rw [show back = _ from shape]; rfl)
      | cons d rest =>
        obtain ⟨rfl, _⟩ := List.cons.inj shape
        exact other rest rfl rfl
  | case3 =>
    have whole := bracketsFront free []
    rwa [List.append_nil, show dropBracketEscapes [] = [] from rfl, List.append_nil] at whole

def FrontKept (front : List Char) : Prop := ∀ s, shown (front ++ s) = front ++ shown s

def BackKept (back : List Char) : Prop := ∀ s, shown (s ++ back) = shown s ++ back

theorem backKept {back : List Char} (colon : ':' ∉ back) (slash : '\\' ∉ back)
    (first : back.head? ≠ some '[') (printed : back.all isPrinted = true) : BackKept back := by
  intro s
  rw [shown, bracketsBack s first slash, symbolsBack _ colon, List.filter_append,
    List.filter_eq_self.mpr (List.all_eq_true.mp printed), shown]

theorem frontKept (label : List Char) (c : Char) (more : List Char) (colons : ':' ∉ label ++ c :: more)
    (slashes : '\\' ∉ label ++ ':' :: c :: more) (blank : Text.isBlank c = true)
    (printed : (label ++ ':' :: c :: more).all isPrinted = true) :
    FrontKept (label ++ ':' :: c :: more) := by
  intro s
  obtain ⟨before, after⟩ : ':' ∉ label ∧ ':' ∉ c :: more := by simpa using colons
  have symbols (s : List Char) : replaceSymbols ((label ++ ':' :: c :: more) ++ s) =
      (label ++ ':' :: c :: more) ++ replaceSymbols s := by
    have inner := symbolsFront after s
    rw [List.append_assoc, symbolsFront before, List.cons_append, List.cons_append,
      symbolsBlank blank, ← List.cons_append, inner]
    simp
  rw [shown, bracketsFront slashes, symbols, List.filter_append,
    List.filter_eq_self.mpr (List.all_eq_true.mp printed), shown]

theorem textAfter (before : List Char) (opened : List String) (rest : List Piece) :
    textOf opened (pieces.textPiece before ++ rest) =
      (textOf opened rest).map (shown before.reverse ++ ·) := by
  cases before with
  | nil =>
    have none : shown [] = [] := rfl
    rw [List.reverse_nil, none]
    change textOf opened rest = _
    cases textOf opened rest <;> rfl
  | cons c more => rfl

theorem glueChars (chars : List Char) (items : List Token) (before : List Char) :
    glue before (chars.map .char ++ items) = glue (chars.reverse ++ before) items := by
  induction chars generalizing before with
  | nil => rfl
  | cons c more ih => simpa [glue] using ih (c :: before)

theorem glueFront {front : List Char} (kept : FrontKept front) (items : List Token)
    (before : List Char) (opened : List String) :
    textOf opened (glue (before ++ front.reverse) items) =
      (textOf opened (glue before items)).map (front ++ ·) := by
  have first (before : List Char) (rest : List Piece) :
      textOf opened (pieces.textPiece (before ++ front.reverse) ++ rest) =
        (textOf opened (pieces.textPiece before ++ rest)).map (front ++ ·) := by
    rw [textAfter, textAfter, List.reverse_append, List.reverse_reverse, kept]
    cases textOf opened rest with
    | error failure => rfl
    | ok text => simp [Except.map]
  induction items generalizing before with
  | nil => simpa [glue] using first before []
  | cons token rest ih =>
    cases token with
    | char c => exact ih (c :: before)
    | tag slashes body => simpa [glue] using first before (escapedPieces slashes body ++ glue [] rest)

theorem textOfBehind {back : List Char} {items longer : List Piece}
    (same : ∀ opened, textOf opened longer = (textOf opened items).map (· ++ back))
    (front : List Piece) (opened : List String) :
    textOf opened (front ++ longer) = (textOf opened (front ++ items)).map (· ++ back) := by
  induction front generalizing opened with
  | nil => exact same opened
  | cons piece rest ih =>
    cases piece with
    | text s =>
      rw [List.cons_append, List.cons_append, textOf, textOf, ih]
      cases textOf opened (rest ++ items) with
      | error failure => rfl
      | ok text => simp [Except.map]
    | tag body =>
      rw [List.cons_append, List.cons_append, textOf, textOf]
      cases applyTag opened body with
      | error failure => rfl
      | ok inner => exact ih inner

theorem glueBack {back : List Char} (kept : BackKept back) (items : List Token)
    (before : List Char) (opened : List String) :
    textOf opened (glue before (items ++ back.map .char)) =
      (textOf opened (glue before items)).map (· ++ back) := by
  induction items generalizing before opened with
  | nil =>
    have behind : glue before (back.map .char) = pieces.textPiece (back.reverse ++ before) := by
      have chars := glueChars back [] before
      rwa [List.append_nil] at chars
    have whole := textAfter (back.reverse ++ before) opened []
    have alone := textAfter before opened []
    rw [List.append_nil] at whole alone
    rw [List.nil_append, behind, whole, glue, alone, List.reverse_append, List.reverse_reverse, kept]
    simp [textOf, Except.map]
  | cons token rest ih =>
    cases token with
    | char c => exact ih (c :: before) opened
    | tag slashes body => exact textOfBehind (fun opened => ih [] opened) _ opened

theorem plainFramed {front back : String} (name : String)
    (before : FrontKept front.toList) (after : BackKept back.toList)
    (openFree : '[' ∉ front.toList ∧ '\\' ∉ front.toList)
    (closeFree : '[' ∉ back.toList ∧ ']' ∉ back.toList) :
    plain (front ++ name ++ back) =
      (plain name).map fun text => front.toList ++ text ++ back.toList := by
  have settled : Settled front.toList := by
    unfold Settled
    rw [markupCharFree openFree.1]
    rintro token there
    obtain ⟨c, member, rfl⟩ := List.mem_map.mp there
    refine ⟨?_, ?_⟩ <;> rintro ⟨rfl⟩
    · exact openFree.1 member
    · exact openFree.2 member
  have split : tokens (front ++ name ++ back).toList =
      front.toList.map .char ++ (tokens name.toList ++ back.toList.map .char) := by
    rw [String.toList_append, String.toList_append, List.append_assoc, tokensAfter settled,
      tokensBefore _ closeFree.2, markupCharFree openFree.1, markupCharFree closeFree.1]
  have framed := glueFront before (tokens name.toList ++ back.toList.map .char) [] []
  rw [List.nil_append] at framed
  rw [plain, plain, piecesTokens, piecesTokens, split, glueChars, List.append_nil, framed,
    glueBack after]
  cases textOf [] (glue [] (tokens name.toList)) with
  | error failure => rfl
  | ok text => simp [Except.map]

end Lines

end EntityForge.Terminal
