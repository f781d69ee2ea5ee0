import EntityForge.Emit
import Mathlib.Data.List.Forall2

/-! Two fillings of one template. A context says what stands behind the names of a scope. A template
that keeps to its context is filled from any two such scopes, and the lines are as alike as the values
are; from one scope taken twice it follows that the filling does not fail. -/
namespace EntityForge.Template
open List (Forall₂)

variable {κ : Type}

inductive Shape (κ : Type) where
  | one (kind : κ)
  | many (kind : κ)

inductive Form (κ : Type) where
  | plain (shape : Shape κ)
  | row (fields : List (String × Shape κ))
  | rows (fields : List (String × Shape κ))

abbrev Context (κ : Type) := List (String × Form κ)

section Agreement
variable (alike : κ → Value → Value → Prop)

def ItemsHold (related : Value → Value → Prop) (v w : Value) : Prop :=
  ∃ vs ws, v.items? = some vs ∧ w.items? = some ws ∧ Forall₂ related vs ws

def Shape.Holds : Shape κ → Value → Value → Prop
  | .one kind => alike kind
  | .many kind => ItemsHold (alike kind)

inductive FieldsHold : List (String × Shape κ) → Entries → Entries → Prop where
  | nil {a b} : FieldsHold [] a b
  | cons {name shape v w fields a b} (here : shape.Holds alike v w) (rest : FieldsHold fields a b) :
      FieldsHold ((name, shape) :: fields) ((.text name, v) :: a) ((.text name, w) :: b)

def RowHolds (fields : List (String × Shape κ)) (v w : Value) : Prop :=
  ∃ a b, v = .map a ∧ w = .map b ∧ FieldsHold alike fields a b

def Form.Holds : Form κ → Value → Value → Prop
  | .plain shape => shape.Holds alike
  | .row fields => RowHolds alike fields
  | .rows fields => ItemsHold (RowHolds alike fields)

inductive ScopesHold : Context κ → Scope → Scope → Prop where
  | nil {σ τ} : ScopesHold [] σ τ
  | cons {name form v w Γ σ τ} (here : form.Holds alike v w) (rest : ScopesHold Γ σ τ) :
      ScopesHold ((name, form) :: Γ) ((name, v) :: σ) ((name, w) :: τ)

end Agreement

def Source.shape? (Γ : Context κ) : Source → Option (Shape κ)
  | .name n =>
    match Γ.lookup n with
    | some (.plain shape) => some shape
    | _ => none
  | .field n key =>
    match Γ.lookup n with
    | some (.row fields) => fields.lookup key
    | _ => none

def Source.items? (Γ : Context κ) (source : Source) : Option (Form κ) :=
  match source.shape? Γ, source with
  | some (.many kind), _ => some (.plain (.one kind))
  | none, .name n =>
    match Γ.lookup n with
    | some (.rows fields) => some (.row fields)
    | _ => none
  | _, _ => none

def Filled (related : List String → List String → Prop) (x y : Except Fault (List String)) : Prop :=
  ∃ l m, x = .ok l ∧ y = .ok m ∧ related l m

/- What two fillings are to have in common: how values of each kind are related, which kinds are equal
values, and how the lines are related. Some blocks may be related for reasons of their own. -/
structure Likeness (κ : Type) where
  alike : κ → Value → Value → Prop
  same : κ → Bool
  lines : List String → List String → Prop
  wraps : Bool := false
  special : Context κ → Block → Bool := fun _ _ => false
  sameEq {kind v w} : same kind = true → alike kind v w → v = w
  refl (l) : lines l l
  append {a b c d} : lines a b → lines c d → lines (a ++ c) (b ++ d)
  wrap {a b} (name) : wraps = true → lines a b → lines (Template.wrap name a) (Template.wrap name b)
  specialFilled {Γ σ τ b} : ScopesHold alike Γ σ τ → special Γ b = true →
    Filled lines (b.fill σ) (b.fill τ)

namespace Likeness
variable (L : Likeness κ) (Γ : Context κ)

def fixed (source : Source) : Bool :=
  match source.shape? Γ with
  | some (.one kind) => L.same kind
  | _ => false

def fixedPiece : Piece → Bool
  | .text _ => true
  | .hole source (.joined _) =>
    match source.shape? Γ with
    | some (.many kind) => L.same kind
    | _ => false
  | .hole source _ => L.fixed Γ source
  | .when condition _ => L.fixed Γ condition

mutual

def admits (Γ : Context κ) : Block → Bool
  | .lines _ => true
  | .line pieces => pieces.all (L.fixedPiece Γ) || L.special Γ (.line pieces)
  | .when condition yes =>
    (L.fixed Γ condition && admitsAll Γ yes) || L.special Γ (.when condition yes)
  | .choose condition yes no => L.fixed Γ condition && admitsAll Γ yes && admitsAll Γ no
  | .each item source body =>
    (match source.items? Γ with
      | some form => admitsAll ((item, form) :: Γ) body
      | none => false) || L.special Γ (.each item source body)
  | .within source body => L.wraps && L.fixed Γ source && admitsAll Γ body

def admitsAll (Γ : Context κ) : List Block → Bool
  | [] => true
  | block :: rest => admits Γ block && admitsAll Γ rest

end

end Likeness

section Sources
variable {alike : κ → Value → Value → Prop} {Γ : Context κ} {σ τ : Scope}

theorem lookupHolds {name : String} {form : Form κ} (holds : ScopesHold alike Γ σ τ)
    (known : Γ.lookup name = some form) :
    ∃ v w, σ.lookup name = some v ∧ τ.lookup name = some w ∧ form.Holds alike v w := by
  induction holds with
  | nil => cases known
  | @cons first _ _ _ _ _ _ here rest ih =>
    cases same : name == first with
    | true =>
      simp only [List.lookup_cons, same, Option.some.injEq] at known ⊢
      exact ⟨_, _, rfl, rfl, known ▸ here⟩
    | false =>
      simp only [List.lookup_cons, same] at known ⊢
      exact ih known

theorem fieldHolds {fields : List (String × Shape κ)} {a b : Entries} {key : String}
    {shape : Shape κ} (holds : FieldsHold alike fields a b) (known : fields.lookup key = some shape) :
    ∃ v w, Entries.field? a key = some v ∧ Entries.field? b key = some w ∧
      shape.Holds alike v w := by
  induction holds with
  | nil => cases known
  | @cons first _ _ _ _ _ _ here rest ih =>
    have met (v : Value) (entries : Entries) : Entries.field? ((.text first, v) :: entries) key =
        if first == key then some v else Entries.field? entries key := by
      unfold Entries.field? Entries.get?
      rw [List.find?_cons]
      cases same : first == key <;> simp [Value.sameKey, same]
    rw [List.lookup_cons, Bool.beq_comm] at known
    rw [met, met]
    cases same : first == key with
    | true =>
      simp only [same, Option.some.injEq] at known ⊢
      exact ⟨_, _, rfl, rfl, known ▸ here⟩
    | false =>
      simp only [same] at known ⊢
      exact ih known

theorem readHolds {source : Source} {shape : Shape κ} (holds : ScopesHold alike Γ σ τ)
    (known : source.shape? Γ = some shape) :
    ∃ v w, source.read σ = .ok v ∧ source.read τ = .ok w ∧ shape.Holds alike v w := by
  cases source with
  | name name =>
    rw [Source.shape?] at known
    split at known
    next form =>
      cases known
      obtain ⟨v, w, left, right, here⟩ := lookupHolds holds form
      exact ⟨v, w, by simp [Source.read, left], by simp [Source.read, right], here⟩
    next => cases known
  | field name key =>
    rw [Source.shape?] at known
    split at known
    next fields form =>
      obtain ⟨_, _, left, right, a, b, rfl, rfl, row⟩ := lookupHolds holds form
      obtain ⟨v, w, first, second, here⟩ := fieldHolds row known
      exact ⟨v, w, by simp [Source.read, left, first], by simp [Source.read, right, second], here⟩
    next => cases known

theorem itemsHold {source : Source} {form : Form κ} (holds : ScopesHold alike Γ σ τ)
    (known : source.items? Γ = some form) :
    ∃ v w, source.read σ = .ok v ∧ source.read τ = .ok w ∧ ItemsHold (form.Holds alike) v w := by
  unfold Source.items? at known
  split at known
  next kind shape =>
    cases known
    exact readHolds holds shape
  next name _ =>
    split at known
    next fields rows =>
      cases known
      obtain ⟨v, w, left, right, items⟩ := lookupHolds holds rows
      exact ⟨v, w, by simp [Source.read, left], by simp [Source.read, right], items⟩
    next => cases known
  next => cases known

end Sources

namespace Likeness
variable {L : Likeness κ} {Γ : Context κ} {σ τ : Scope}

theorem fixedRead {source : Source} (holds : ScopesHold L.alike Γ σ τ)
    (fixed : L.fixed Γ source = true) : ∃ v, source.read σ = .ok v ∧ source.read τ = .ok v := by
  unfold Likeness.fixed at fixed
  split at fixed
  next kind shape =>
    obtain ⟨v, w, left, right, here⟩ := readHolds holds shape
    obtain rfl := L.sameEq fixed here
    exact ⟨v, left, right⟩
  next => cases fixed

theorem fixedItems {kind : κ} (same : L.same kind = true) {vs ws : List Value}
    (items : Forall₂ (L.alike kind) vs ws) : vs = ws := by
  induction items with
  | nil => rfl
  | cons here _ ih => rw [L.sameEq same here, ih]

theorem fixedPieceFill {piece : Piece} (holds : ScopesHold L.alike Γ σ τ)
    (fixed : L.fixedPiece Γ piece = true) : ∃ s, piece.fill σ = .ok s ∧ piece.fill τ = .ok s := by
  have hole {source : Source} {style : Style} (fixed : L.fixed Γ source = true)
      (writes : ∀ v, ∃ s, style.write v = .ok s) :
      ∃ s, (Piece.hole source style).fill σ = .ok s ∧ (Piece.hole source style).fill τ = .ok s := by
    obtain ⟨v, left, right⟩ := fixedRead holds fixed
    obtain ⟨s, written⟩ := writes v
    exact ⟨s, by rw [Piece.fill, left]; exact written, by rw [Piece.fill, right]; exact written⟩
  cases piece with
  | text s => exact ⟨s, rfl, rfl⟩
  | «when» condition s =>
    obtain ⟨v, left, right⟩ := fixedRead holds fixed
    exact ⟨if v.truthy then s else "", by rw [Piece.fill, left]; rfl, by rw [Piece.fill, right]; rfl⟩
  | hole source style =>
    cases style with
    | joined separator =>
      rw [fixedPiece] at fixed
      split at fixed
      next kind shape =>
        obtain ⟨v, w, left, right, vs, ws, first, second, items⟩ := readHolds holds shape
        obtain rfl := fixedItems fixed items
        refine ⟨String.intercalate separator (vs.map Value.display), ?_, ?_⟩
        · rw [Piece.fill, left]
          simp [bind, Except.bind, Style.write, first]
        · rw [Piece.fill, right]
          simp [bind, Except.bind, Style.write, second]
      next => cases fixed
    | plain => exact hole fixed fun v => ⟨_, rfl⟩
    | literal => exact hole fixed fun v => ⟨_, rfl⟩
    | doubled => exact hole fixed fun v => ⟨_, rfl⟩
    | escaped => exact hole fixed fun v => ⟨_, rfl⟩

theorem fixedLine {pieces : List Piece} (holds : ScopesHold L.alike Γ σ τ)
    (fixed : pieces.all (L.fixedPiece Γ) = true) :
    ∃ s, fillLine σ pieces = .ok s ∧ fillLine τ pieces = .ok s := by
  induction pieces with
  | nil => exact ⟨"", rfl, rfl⟩
  | cons piece rest ih =>
    rw [List.all_cons, Bool.and_eq_true] at fixed
    obtain ⟨s, left, right⟩ := fixedPieceFill holds fixed.1
    obtain ⟨more, later, later'⟩ := ih fixed.2
    exact ⟨s ++ more, by rw [fillLine, left]; simp [bind, Except.bind, later]; rfl,
      by rw [fillLine, right]; simp [bind, Except.bind, later']; rfl⟩

theorem filledAppend {x y : Except Fault (List String)} {x' y' : Except Fault (List String)}
    (first : Filled L.lines x y) (next : Filled L.lines x' y') :
    Filled L.lines (do let l ← x; return l ++ (← x')) (do let m ← y; return m ++ (← y')) := by
  obtain ⟨l, m, rfl, rfl, here⟩ := first
  obtain ⟨l', m', rfl, rfl, there⟩ := next
  exact ⟨_, _, rfl, rfl, L.append here there⟩

theorem forEachFilled {fill : Scope → Except Fault (List String)} {item : String}
    {related : Value → Value → Prop} {vs ws : List Value} (items : Forall₂ related vs ws)
    (each : ∀ v w, related v w → Filled L.lines (fill ((item, v) :: σ)) (fill ((item, w) :: τ))) :
    Filled L.lines (forEach fill item σ vs) (forEach fill item τ ws) := by
  induction items with
  | nil => exact ⟨[], [], rfl, rfl, L.refl []⟩
  | cons here _ ih => exact filledAppend (each _ _ here) ih

mutual

/- By recursion on the block, as it is filled; the context grows by the item inside of `each`. -/
theorem admitsFilled {Γ : Context κ} {σ τ : Scope} (holds : ScopesHold L.alike Γ σ τ) (b : Block)
    (admitted : L.admits Γ b = true) : Filled L.lines (b.fill σ) (b.fill τ) := by
  match b with
  | .lines texts => exact ⟨texts, texts, by rw [Block.fill], by rw [Block.fill], L.refl texts⟩
  | .line pieces =>
    rw [admits, Bool.or_eq_true] at admitted
    rcases admitted with fixed | special
    · obtain ⟨s, left, right⟩ := fixedLine holds fixed
      exact ⟨[s], [s], by rw [Block.fill, left]; rfl, by rw [Block.fill, right]; rfl, L.refl [s]⟩
    · exact L.specialFilled holds special
  | .when condition yes =>
    rw [admits, Bool.or_eq_true, Bool.and_eq_true] at admitted
    rcases admitted with ⟨fixed, body⟩ | special
    · obtain ⟨v, left, right⟩ := fixedRead holds fixed
      rw [Block.fill, Block.fill, left, right]
      cases truth : v.truthy with
      | true => simpa [bind, Except.bind, truth] using admitsAllFilled holds yes body
      | false => exact ⟨[], [], by simp [bind, Except.bind, truth], by simp [bind, Except.bind, truth],
          L.refl []⟩
    · exact L.specialFilled holds special
  | .choose condition yes no =>
    rw [admits, Bool.and_eq_true, Bool.and_eq_true] at admitted
    obtain ⟨⟨fixed, first⟩, second⟩ := admitted
    obtain ⟨v, left, right⟩ := fixedRead holds fixed
    rw [Block.fill, Block.fill, left, right]
    cases truth : v.truthy with
    | true => simpa [bind, Except.bind, truth] using admitsAllFilled holds yes first
    | false => simpa [bind, Except.bind, truth] using admitsAllFilled holds no second
  | .each item source body =>
    rw [admits, Bool.or_eq_true] at admitted
    rcases admitted with admitted | special
    · split at admitted
      next form known =>
        obtain ⟨v, w, left, right, vs, ws, first, second, items⟩ := itemsHold holds known
        rw [Block.fill, Block.fill, left, right]
        simp only [bind, Except.bind, first, second]
        exact forEachFilled items fun v w here =>
          admitsAllFilled (.cons here holds) body admitted
      next => cases admitted
    · exact L.specialFilled holds special
  | .within source body =>
    rw [admits, Bool.and_eq_true, Bool.and_eq_true] at admitted
    obtain ⟨⟨wraps, fixed⟩, inner⟩ := admitted
    obtain ⟨v, left, right⟩ := fixedRead holds fixed
    obtain ⟨l, m, first, second, related⟩ := admitsAllFilled holds body inner
    rw [Block.fill, Block.fill, left, right, first, second]
    cases truth : v.truthy with
    | true => exact ⟨_, _, by simp [bind, Except.bind, truth]; rfl,
        by simp [bind, Except.bind, truth]; rfl, L.wrap v.display wraps related⟩
    | false => exact ⟨_, _, by simp [bind, Except.bind, truth]; rfl,
        by simp [bind, Except.bind, truth]; rfl, L.append related (L.refl [""])⟩

theorem admitsAllFilled {Γ : Context κ} {σ τ : Scope} (holds : ScopesHold L.alike Γ σ τ)
    (blocks : List Block) (admitted : L.admitsAll Γ blocks = true) :
    Filled L.lines (fillAll σ blocks) (fillAll τ blocks) := by
  match blocks with
  | [] => exact ⟨[], [], rfl, rfl, L.refl []⟩
  | b :: rest =>
    rw [admitsAll, Bool.and_eq_true] at admitted
    rw [fillAll, fillAll]
    exact filledAppend (admitsFilled holds b admitted.1) (admitsAllFilled holds rest admitted.2)

end

structure Absorbs (L : Likeness κ) (strict : List String → List String → Prop) : Prop where
  front {a b c d} : L.lines a b → strict c d → strict (a ++ c) (b ++ d)
  back {a b c d} : strict a b → L.lines c d → strict (a ++ c) (b ++ d)

section Strict
variable {strict : List String → List String → Prop} (absorbs : L.Absorbs strict)
include absorbs

theorem appendStrict {x y x' y' : Except Fault (List String)}
    (one : Filled strict x y ∧ Filled L.lines x' y' ∨ Filled L.lines x y ∧ Filled strict x' y') :
    Filled strict (do let l ← x; return l ++ (← x')) (do let m ← y; return m ++ (← y')) := by
  rcases one with ⟨⟨l, m, rfl, rfl, here⟩, l', m', rfl, rfl, there⟩ |
    ⟨⟨l, m, rfl, rfl, here⟩, l', m', rfl, rfl, there⟩
  · exact ⟨_, _, rfl, rfl, absorbs.back here there⟩
  · exact ⟨_, _, rfl, rfl, absorbs.front here there⟩

theorem fillAllStrict (holds : ScopesHold L.alike Γ σ τ) {blocks : List Block}
    (admitted : L.admitsAll Γ blocks = true) {b : Block} (member : b ∈ blocks)
    (here : Filled strict (b.fill σ) (b.fill τ)) :
    Filled strict (fillAll σ blocks) (fillAll τ blocks) := by
  induction blocks with
  | nil => cases member
  | cons first rest ih =>
    rw [admitsAll, Bool.and_eq_true] at admitted
    rw [fillAll, fillAll]
    refine appendStrict absorbs ?_
    rcases List.mem_cons.mp member with rfl | later
    · exact .inl ⟨here, admitsAllFilled holds rest admitted.2⟩
    · exact .inr ⟨admitsFilled holds first admitted.1, ih admitted.2 later⟩

theorem forEachStrict {α : Type} {fill : Scope → Except Fault (List String)} {item : String}
    {f g : α → Value} {xs : List α}
    (each : ∀ x ∈ xs, Filled L.lines (fill ((item, f x) :: σ)) (fill ((item, g x) :: τ)))
    {x : α} (member : x ∈ xs)
    (here : Filled strict (fill ((item, f x) :: σ)) (fill ((item, g x) :: τ))) :
    Filled strict (forEach fill item σ (xs.map f)) (forEach fill item τ (xs.map g)) := by
  induction xs with
  | nil => cases member
  | cons first rest ih =>
    obtain ⟨head, others⟩ := List.forall_mem_cons.mp each
    rw [List.map_cons, List.map_cons, forEach, forEach]
    refine appendStrict absorbs ?_
    rcases List.mem_cons.mp member with rfl | later
    · refine .inl ⟨here, ?_⟩
      exact forEachFilled (List.forall₂_map_left_iff.mpr (List.forall₂_map_right_iff.mpr
        (List.forall₂_same.mpr others))) fun _ _ => id
    · exact .inr ⟨head, ih others later⟩

end Strict

theorem admitsMember {blocks : List Block} (admitted : L.admitsAll Γ blocks = true) {b : Block}
    (member : b ∈ blocks) : L.admits Γ b = true := by
  induction blocks with
  | nil => cases member
  | cons first rest ih =>
    rw [admitsAll, Bool.and_eq_true] at admitted
    rcases List.mem_cons.mp member with rfl | later
    · exact admitted.1
    · exact ih admitted.2 later

end Likeness

theorem renderFilled {t : Template} {σ : Scope} {l : List String} (filled : fillAll σ t = .ok l) :
    t.render σ = .ok (textOf l) := by
  rw [Template.render, filled]
  rfl

def Likeness.exact {κ : Type} (alike : κ → Value → Value → Prop) (same : κ → Bool)
    (sameEq : ∀ {kind v w}, same kind = true → alike kind v w → v = w)
    (special : Context κ → Block → Bool)
    (specialFilled : ∀ {Γ σ τ b}, ScopesHold alike Γ σ τ → special Γ b = true →
      Filled Eq (b.fill σ) (b.fill τ)) : Likeness κ where
  alike
  same
  lines := Eq
  wraps := true
  special
  sameEq
  refl _ := rfl
  append := by rintro _ _ _ _ rfl rfl; rfl
  wrap := by rintro _ _ _ _ rfl; rfl
  specialFilled

def agreement : Likeness Bool :=
  .exact (fun known v w => known = true → v = w) id (fun known alike => alike known)
    (fun _ _ => false) fun _ impossible => absurd impossible Bool.false_ne_true

theorem agreementRender {Γ : Context Bool} {σ τ : Scope} {t : Template}
    (holds : ScopesHold agreement.alike Γ σ τ) (admitted : agreement.admitsAll Γ t = true) :
    ∃ code, Template.render t σ = .ok code ∧ Template.render t τ = .ok code := by
  obtain ⟨l, _, left, right, rfl⟩ := agreement.admitsAllFilled holds t admitted
  exact ⟨textOf l, renderFilled left, renderFilled right⟩

def Context.without (names : List String) (Γ : Context Bool) : Context Bool :=
  Γ.map fun entry => (entry.1, if entry.1 ∈ names then .plain (.one false) else entry.2)

theorem holdsWithout {names : List String} {Γ : Context Bool} {σ τ : Scope}
    (holds : ScopesHold agreement.alike Γ σ σ)
    (others : Forall₂ (fun v w => v.1 = w.1 ∧ (v.1 ∈ names ∨ v.2 = w.2)) σ τ) :
    ScopesHold agreement.alike (Γ.without names) σ τ := by
  induction Γ generalizing σ τ with
  | nil => exact .nil
  | cons entry rest ih =>
    cases holds with
    | cons here later =>
      cases others with
      | @cons _ w _ τ' first others =>
        obtain ⟨name, value⟩ := w
        obtain ⟨rfl, same⟩ := first
        refine .cons ?_ (ih later others)
        dsimp only
        split
        next => exact nofun
        next read =>
          obtain rfl := same.resolve_left read
          exact here

theorem fillFixed {Γ : Context Bool} {σ : String → Scope}
    (holds : ∀ s, ScopesHold agreement.alike Γ (σ "") (σ s)) {blocks : List Block}
    (admitted : agreement.admitsAll Γ blocks = true) : ∃ l, ∀ s, fillAll (σ s) blocks = .ok l := by
  obtain ⟨l, _, first, _, _⟩ := agreement.admitsAllFilled (holds "") blocks admitted
  refine ⟨l, fun s => ?_⟩
  obtain ⟨l', m, left, right, same⟩ := agreement.admitsAllFilled (holds s) blocks admitted
  cases first.symm.trans left
  exact right.trans (congrArg _ same.symm)

theorem fillCons {σ : Scope} {block : Block} {rest : List Block} {l m : List String}
    (here : block.fill σ = .ok l) (later : fillAll σ rest = .ok m) :
    fillAll σ (block :: rest) = .ok (l ++ m) := by
  rw [fillAll, here, later]
  rfl

theorem fillOne {σ : Scope} {block : Block} {l : List String} (here : block.fill σ = .ok l) :
    fillAll σ [block] = .ok l := by
  have none : fillAll σ [] = .ok [] := rfl
  rw [fillCons here none, List.append_nil]

theorem fillLineBlock {σ : Scope} {pieces : List Piece} {s : String}
    (filled : fillLine σ pieces = .ok s) : (Block.line pieces).fill σ = .ok [s] := by
  rw [Block.fill, filled]
  rfl

theorem fillLines {σ : Scope} (texts : List String) : (Block.lines texts).fill σ = .ok texts := by
  rw [Block.fill]

theorem fillWithin {σ : Scope} {source : Source} {value : Value} {body : List Block}
    {lines : List String} (read : source.read σ = .ok value) (filled : fillAll σ body = .ok lines) :
    (Block.within source body).fill σ =
      .ok (if value.truthy then wrap value.display lines else lines ++ [""]) := by
  rw [Block.fill, filled, read]
  rfl

theorem fillBetween {σ : Scope} {value : Value} {s : String} (source : Source) (style : Style)
    (opening closing : String) (read : source.read σ = .ok value)
    (written : style.write value = .ok s) :
    fillLine σ [.text opening, .hole source style, .text closing] = .ok (opening ++ s ++ closing) := by
  rw [fillLine, fillLine, fillLine, fillLine, Piece.fill, Piece.fill, Piece.fill, read]
  simp [written, bind, Except.bind, pure, Except.pure, String.append_assoc]

theorem fillAllAppend {σ : Scope} (front : List Block) {back : List Block} {l m : List String}
    (first : fillAll σ front = .ok l) (next : fillAll σ back = .ok m) :
    fillAll σ (front ++ back) = .ok (l ++ m) := by
  induction front generalizing l with
  | nil =>
    cases first
    exact next
  | cons block rest ih =>
    rw [fillAll] at first
    cases here : block.fill σ with
    | error fault => simp [here, bind, Except.bind] at first
    | ok texts =>
      cases later : fillAll σ rest with
      | error fault => simp [here, later, bind, Except.bind] at first
      | ok more =>
        simp only [here, later, bind, Except.bind, pure, Except.pure, Except.ok.injEq] at first
        rw [List.cons_append, fillCons here (ih later), ← first, List.append_assoc]

end EntityForge.Template
