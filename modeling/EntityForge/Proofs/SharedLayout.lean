import EntityForge.Proofs.Emission
import EntityForge.Proofs.Layout

/-! Both flavors of Entity Framework lay out one class. What a flavor decides stands in marked lines:
its name in the banner, the base types in the head of the class, the rest in attributes. -/
namespace EntityForge
open Template
open List (Forall₂)

namespace Layout
open Text (Short)

def bracketed (s x : String) : String := s ++ x ++ "]"

section Attributes
variable {s : String}

theorem bracketedLines (short : Short s) {xs : List String} (fine : ∀ x ∈ xs, Short x) :
    linesOf (xs.map (bracketed s)) = xs.map fun x => (bracketed s x).toList := by
  induction xs with
  | nil => rfl
  | cons x rest ih =>
    obtain ⟨here, later⟩ := List.forall_mem_cons.mp fine
    have single : Text.lines (bracketed s x).toList = [(bracketed s x).toList] :=
      Text.shortLines (Text.shortAppend (Text.shortAppend short here) (by decide))
    exact (congrArg (· ++ _) single).trans (congrArg (_ :: ·) (ih later))

theorem bracketedMarked (mark : Marked s.toList) (xs : List String) :
    ∀ line ∈ xs.map fun x => (bracketed s x).toList, Marked line := by
  intro line member
  obtain ⟨x, _, rfl⟩ := List.mem_map.mp member
  rw [bracketed, String.append_assoc, String.toList_append]
  exact markedAppend mark _

theorem bracketCut (tail : String) : ∃ first others,
    Text.lines (tail.toList ++ [']']) = first :: others ∧
    (others = [] ∨ ∃ front line, others = front ++ [line] ∧ Visible line) := by
  obtain ⟨front, label, cut⟩ := Text.splitAtAppend (· == '\n') tail.toList
  have cut := cut [']'] (by simp)
  have solid : Text.stripEnd [']'] ≠ [] := by decide
  have visible : Visible (label ++ [']']) := by
    rw [Visible, Text.stripEndSolid solid]
    exact List.append_ne_nil_of_right_ne_nil _ solid
  cases front with
  | nil => exact ⟨_, [], cut, .inl rfl⟩
  | cons first front => exact ⟨first, _, cut, .inr ⟨front, _, rfl, visible⟩⟩

theorem attributeLines (short : Short s) {p tail : String} {first : List Char}
    {others : List (List Char)} (cut : Text.lines (tail.toList ++ [']']) = first :: others)
    {before after : List String} (fine : ∀ x ∈ p :: before ++ after, Short x) :
    linesOf ((before ++ (p ++ tail) :: after).map (bracketed s)) =
      ((before.map fun x => (bracketed s x).toList) ++ [s.toList ++ (p.toList ++ first)]) ++
        (others ++ after.map fun x => (bracketed s x).toList) := by
  simp only [List.cons_append, List.forall_mem_cons, List.forall_mem_append] at fine
  have text : (bracketed s (p ++ tail)).toList = (s ++ p).toList ++ (tail.toList ++ [']']) := by
    simp [bracketed]
  have shared : Text.lines (bracketed s (p ++ tail)).toList =
      (s.toList ++ (p.toList ++ first)) :: others := by
    rw [text, Text.linesAfter (Text.shortAppend short fine.1) cut, String.toList_append,
      List.append_assoc]
  rw [List.map_append, linesAppend, bracketedLines short fine.2.1, List.map_cons, linesOf,
    List.flatMap_cons, shared, ← linesOf, bracketedLines short fine.2.2]
  simp

end Attributes

def AttributesAlike (xs ys : List String) : Prop :=
  ∀ s : String, Marked s.toList → Short s →
    Alike false (linesOf (xs.map (bracketed s))) (linesOf (ys.map (bracketed s)))

/- Lists of attributes one of which ends in the same text in both; that text may have line breaks, what
is in front of it and the other attributes may not. -/
theorem attributesAlike (before before' after after' : List String) {p q : String} (tail : String)
    (left : ∀ x ∈ p :: before ++ after, Short x) (right : ∀ x ∈ q :: before' ++ after', Short x) :
    AttributesAlike (before ++ (p ++ tail) :: after) (before' ++ (q ++ tail) :: after') := by
  intro s mark short
  obtain ⟨first, others, cut, ends⟩ := bracketCut tail
  have all := bracketedMarked mark
  have marked (x : List Char) : ∀ line ∈ [s.toList ++ x], Marked line := by
    simpa using markedAppend mark x
  have rest : Alike true (others ++ after.map fun x => (bracketed s x).toList)
      (others ++ after'.map fun x => (bracketed s x).toList) := by
    have behind := Alike.gather (all after) (all after') .nil
    rw [List.append_nil, List.append_nil] at behind
    rcases ends with rfl | ⟨front, line, rfl, visible⟩
    · exact behind
    · simpa using behind.behind front visible
  rw [attributeLines short cut left, attributeLines short cut right]
  exact Alike.group (by simp) (by simp) (List.forall_mem_append.mpr ⟨all before, marked _⟩)
    (List.forall_mem_append.mpr ⟨all before', marked _⟩) rest

inductive Known where
  | equal
  | word
  | label
  | labels
  | attributes
  deriving DecidableEq

namespace Known
open Emit.EntityFramework (texts)

def Relates : Known → Value → Value → Prop
  | equal, v, w => v = w
  | word, v, w => v = w ∧ Short v.display
  | label, v, w => Short v.display ∧ Short w.display
  | labels, v, w => ∃ xs ys, v = texts xs ∧ w = texts ys ∧ (∀ x ∈ xs, Short x) ∧ ∀ y ∈ ys, Short y
  | attributes, v, w => ∃ xs ys, v = texts xs ∧ w = texts ys ∧ AttributesAlike xs ys

def only? (Γ : Context Known) (source : Source) : Option Known :=
  match source.shape? Γ with
  | some (.one kind) => some kind
  | _ => none

def shortPiece (Γ : Context Known) : Piece → Bool
  | .text s => decide (Short s)
  | .hole source .plain => only? Γ source == some word || only? Γ source == some label
  | .hole source (.joined separator) => decide (Short separator) && only? Γ source == some labels
  | _ => false

def markedBlock (Γ : Context Known) : Block → Bool
  | .line (.text s :: rest) => isMark (Text.stripEnd s.toList) && (.text s :: rest).all (shortPiece Γ)
  | .each item source [.line [.text s, .hole (.name inner) .plain, .text close]] =>
    isMark (Text.stripEnd s.toList) && decide (Short s) && inner == item && close == "]" &&
      only? Γ source == some attributes
  | _ => false

section Filling
variable {Γ : Context Known} {σ τ : Scope}

theorem onlyHolds {source : Source} {kind : Known} (holds : ScopesHold Relates Γ σ τ)
    (only : only? Γ source = some kind) :
    ∃ v w, source.read σ = .ok v ∧ source.read τ = .ok w ∧ Relates kind v w := by
  unfold only? at only
  split at only
  next kind' shape =>
    cases only
    exact readHolds holds shape
  next => cases only

theorem shortFill {piece : Piece} (holds : ScopesHold Relates Γ σ τ)
    (short : shortPiece Γ piece = true) :
    ∃ s t, piece.fill σ = .ok s ∧ piece.fill τ = .ok t ∧ Short s ∧ Short t := by
  unfold shortPiece at short
  split at short
  next s =>
    have short := of_decide_eq_true short
    exact ⟨s, s, rfl, rfl, short, short⟩
  next source =>
    rw [Bool.or_eq_true, beq_iff_eq, beq_iff_eq] at short
    rcases short with only | only
    · obtain ⟨v, w, left, right, rfl, short⟩ := onlyHolds holds only
      exact ⟨_, _, by rw [Piece.fill, left]; rfl, by rw [Piece.fill, right]; rfl, short, short⟩
    · obtain ⟨v, w, left, right, short, short'⟩ := onlyHolds holds only
      exact ⟨_, _, by rw [Piece.fill, left]; rfl, by rw [Piece.fill, right]; rfl, short, short'⟩
  next source separator =>
    rw [Bool.and_eq_true, decide_eq_true_eq, beq_iff_eq] at short
    obtain ⟨_, _, left, right, xs, ys, rfl, rfl, fine, fine'⟩ := onlyHolds holds short.2
    have displays (items : List String) : (items.map Value.text).map Value.display = items := by
      simp [Function.comp_def, Value.display]
    refine ⟨String.intercalate separator xs, String.intercalate separator ys, ?_, ?_,
      Text.shortJoined short.1 fine, Text.shortJoined short.1 fine'⟩
    · rw [Piece.fill, left]
      exact congrArg (fun items => Except.ok (String.intercalate separator items)) (displays xs)
    · rw [Piece.fill, right]
      exact congrArg (fun items => Except.ok (String.intercalate separator items)) (displays ys)
  next => cases short

theorem shortLine {pieces : List Piece} (holds : ScopesHold Relates Γ σ τ)
    (short : pieces.all (shortPiece Γ) = true) :
    ∃ s t, fillLine σ pieces = .ok s ∧ fillLine τ pieces = .ok t ∧ Short s ∧ Short t := by
  induction pieces with
  | nil => exact ⟨"", "", rfl, rfl, List.not_mem_nil, List.not_mem_nil⟩
  | cons piece rest ih =>
    rw [List.all_cons, Bool.and_eq_true] at short
    obtain ⟨s, t, left, right, fine, fine'⟩ := shortFill holds short.1
    obtain ⟨more, more', later, later', plain, plain'⟩ := ih short.2
    exact ⟨s ++ more, t ++ more', by rw [fillLine, left, later]; rfl,
      by rw [fillLine, right, later']; rfl, Text.shortAppend fine plain, Text.shortAppend fine' plain'⟩

theorem bracketsFill (s item : String) (σ : Scope) (xs : List String) :
    forEach (fun inner => fillAll inner [.line [.text s, .hole (.name item) .plain, .text "]"]]) item σ
      (xs.map .text) = .ok (xs.map (bracketed s)) := by
  induction xs with
  | nil => rfl
  | cons x rest ih =>
    rw [List.map_cons, forEach, ih]
    simp [fillAll, Block.fill, fillLine, Piece.fill, Source.read, Style.write, Value.display, bracketed,
      bind, Except.bind, pure, Except.pure, String.append_assoc]

theorem markedFilled {block : Block} (holds : ScopesHold Relates Γ σ τ)
    (marks : markedBlock Γ block = true) :
    Filled (fun l m => Alike false (linesOf l) (linesOf m)) (block.fill σ) (block.fill τ) := by
  unfold markedBlock at marks
  split at marks
  next s rest =>
    rw [Bool.and_eq_true, List.all_cons, Bool.and_eq_true] at marks
    obtain ⟨mark, first, others⟩ := marks
    have single : Short s := of_decide_eq_true first
    obtain ⟨more, more', left, right, fine, fine'⟩ := shortLine holds others
    have marked {t : String} (fine : Short t) :
        linesOf [s ++ t] = [(s ++ t).toList] ∧ Marked (s ++ t).toList := by
      refine ⟨by simpa [linesOf] using Text.shortLines (Text.shortAppend single fine), ?_⟩
      rw [String.toList_append]
      exact markedAppend mark _
    refine ⟨[s ++ more], [s ++ more'], ?_, ?_, ?_⟩
    · rw [Block.fill, fillLine, left]; rfl
    · rw [Block.fill, fillLine, right]; rfl
    · show Alike false (linesOf _) (linesOf _)
      rw [(marked fine).1, (marked fine').1]
      exact .swap (marked fine).2 (marked fine').2 .nil
  next item source s inner close =>
    simp only [Bool.and_eq_true, decide_eq_true_eq, beq_iff_eq] at marks
    obtain ⟨⟨⟨⟨mark, single⟩, rfl⟩, rfl⟩, only⟩ := marks
    obtain ⟨_, _, left, right, xs, ys, rfl, rfl, alike⟩ := onlyHolds holds only
    refine ⟨xs.map (bracketed s), ys.map (bracketed s), ?_, ?_, alike s mark single⟩
    · rw [Block.fill, left]
      exact bracketsFill s inner σ xs
    · rw [Block.fill, right]
      exact bracketsFill s inner τ ys
  next => cases marks

end Filling

end Known

def likeness : Likeness Known where
  alike := Known.Relates
  same kind := kind == .equal || kind == .word
  lines l m := Alike false (linesOf l) (linesOf m)
  wraps := true
  special := Known.markedBlock
  sameEq := by
    intro kind v w same alike
    cases kind with
    | equal => exact alike
    | word => exact alike.1
    | label => cases same
    | labels => cases same
    | attributes => cases same
  refl _ := .refl _ _
  append first next := by
    rw [linesAppend, linesAppend]
    exact first.append next
  wrap name _ alike := alike.wrap name
  specialFilled holds marks := Known.markedFilled holds marks

end Layout

namespace Emit.EntityFramework
open Layout
open Text (Short)

theorem shortAnnotations : Short annotations := by decide +kernel

theorem shortAnnotation {s : String} (short : Short s) : Short (annotations ++ s) :=
  Text.shortAppend shortAnnotations short

theorem flavorsRelated {e : Entity} (short : Short e.name)
    (columns : List (String × Column × String)) :
    Related Known.Relates .equal .word .label (.one .labels) (.one .attributes) classic core e
      columns where
  refl _ := rfl
  name := ⟨rfl, short⟩
  label := ⟨by decide, by decide⟩
  bases := ⟨_, _, rfl, rfl, by decide +kernel, by decide +kernel⟩
  ofClass := by
    refine ⟨_, _, rfl, rfl, ?_⟩
    unfold classic core
    dsimp only
    rw [String.append_assoc, String.append_assoc]
    exact attributesAlike ["global::System.Runtime.Serialization.DataContract"] []
      ["global::System.Serializable"] [] (Text.literal e.table ++ ")") (by decide +kernel)
      (by simpa using shortAnnotation (s := ".Schema.Table(") (by decide +kernel))
  ofProperty column _ := by
    refine ⟨_, _, rfl, rfl, ?_⟩
    unfold classic core
    dsimp only
    have tail (p : String) : p ++ Text.literal column.1 ++ ")" = p ++ (Text.literal column.1 ++ ")") :=
      String.append_assoc
    rw [tail, tail]
    refine attributesAlike [] _ [] [] (Text.literal column.1 ++ ")") (by decide +kernel) ?_
    have place := shortAnnotation (s := ".Schema.Column(") (by decide +kernel)
    have key := shortAnnotation (s := ".Key") (by decide +kernel)
    have open' := shortAnnotation (s := ".Schema.DatabaseGenerated(") (by decide +kernel)
    have option : Short ".Schema.DatabaseGeneratedOption.Identity)" := by decide +kernel
    have generated := Text.shortAppend (Text.shortAppend open' shortAnnotations) option
    cases column.2.1.id <;> cases column.2.1.auto <;> simp [place, key, generated]

theorem classAlike (e : Entity) (options : Options) (short : Short e.name)
    (columns : List (String × Column × String)) :
    Filled (fun l m => Alike false (linesOf l) (linesOf m))
      (fillAll (scope classic e options columns) csharpClass)
      (fillAll (scope core e options columns) csharpClass) :=
  likeness.admitsAllFilled (scopeHolds options (flavorsRelated short columns)) csharpClass
    (by decide +kernel)

theorem extensionsSame (e : Entity) (options : Options) (columns : List (String × Column × String)) :
    ∃ code, csharpExtensions.render (scope classic e options columns) = .ok code ∧
      csharpExtensions.render (scope core e options columns) = .ok code := by
  refine agreementRender (Γ := context true true false (.one false) (.one false))
    (scopeHolds options ⟨fun _ _ => rfl, fun _ => rfl, nofun, nofun, nofun, fun _ _ => nofun⟩) ?_
  decide +kernel

theorem mapShared {c : Column} {native : String}
    (mapped : TypeTable.entityFramework.mapColumn c = .ok native) :
    TypeTable.entityFrameworkCore.mapColumn c = .ok native := by
  have shared : ∀ entry ∈ TypeTable.entityFramework.natives,
      TypeTable.entityFrameworkCore.native? entry.1 = some entry.2 ∧
        TypeTable.entityFrameworkCore.nullable.contains entry.2 =
          TypeTable.entityFramework.nullable.contains entry.2 := by decide
  unfold TypeTable.mapColumn TypeTable.map at mapped ⊢
  dsimp only at mapped ⊢
  split at mapped
  next => cases mapped
  next base found =>
    obtain ⟨before, after, split, _⟩ := List.lookup_eq_some_iff.mp found
    obtain ⟨known, marker⟩ := shared (TypeTable.resolveTag c.tag c.id, base) (by simp [split])
    rw [known]
    dsimp only at marker ⊢
    rw [marker]
    exact mapped

theorem typedShared {e : Entity} {columns : List (String × Column × String)}
    (done : typed classic e = .ok columns) : typed core e = .ok columns :=
  TypeTable.typedIff.mpr ((TypeTable.typedIff.mp done).imp fun _ _ column =>
    ⟨column.name, column.same, mapShared column.native⟩)

end Emit.EntityFramework

open Emit.EntityFramework (scope typed classic core)

/- Where Entity Framework renders an entity, Entity Framework Core does so too: with the same native
types, the same extension file, and a class at the same place that has the same lines up to marked
ones. -/
theorem sharedLayout {cwd : Location} {key : Value} {description : Description}
    {segments : List String} {outDir : Path} {e : Entity} {options : Options}
    (checked : Entity.normalize cwd key description segments outDir = .ok e)
    (feed : options.lineEnding = .text "\n") {artifacts : List Artifact}
    (emitted : Target.entityFramework.emit e options = .ok artifacts) :
    ∃ main extension content columns,
      artifacts = [main, extension] ∧ main.kind = "class" ∧ extension.kind = "extension" ∧
      Target.entityFrameworkCore.emit e options = .ok [{ main with content }, extension] ∧
      Layout.unmarkedLines content = Layout.unmarkedLines main.content ∧
      typed classic e = .ok columns ∧ typed core e = .ok columns := by
  have short : Text.Short e.name := Name.wordFree (readNameOk (normalizeOk checked).1).1 (by decide)
  obtain ⟨columns, done, emitted⟩ := exceptBindOk emitted
  have done' := Emit.EntityFramework.typedShared done
  obtain ⟨l, m, left, right, alike⟩ := Emit.EntityFramework.classAlike e options short columns
  obtain ⟨code, extension, extension'⟩ := Emit.EntityFramework.extensionsSame e options columns
  have main := renderFilled left
  have main' := renderFilled right
  have format (code : String) : formatted options code =
      .ok (String.ofList (Format.format ['\n'] code.toList)) := by
    rw [formatted, feed]
    rfl
  simp only [formattedRender main, formattedRender extension, format, bind, Except.bind] at emitted
  cases emitted
  refine ⟨_, _, _, columns, rfl, rfl, rfl, ?_, (Layout.unmarkedFormat alike).symm, done, done'⟩
  rw [Target.emit, Emit.EntityFramework.artifacts, done']
  simp only [formattedRender main', formattedRender extension', format, bind, Except.bind]
  rfl

def memoDescription : Description := .ofValue (.map [(.text "table", .text "memo\n\npages"),
  (.text "columns", .map [(.text "Id", .map [(.text "id", .bool true), (.text "auto", .bool true)]),
    (.text "size", .map [(.text "type", .text "bigint"), (.text "null", .bool true)])])])

def memoEntity : Entity where
  name := "Memo"
  segments := ["App", "Db"]
  table := "memo\n\npages"
  columns := [("Id", { tag := "", id := true, auto := true }),
    ("size", { tag := "bigint", nullable := true })]
  outDir := ⟨.root, ["out"]⟩

theorem memoLayout :
    Entity.normalize [] (.text "Memo") memoDescription ["App", "Db"] (.ofText "out") = .ok memoEntity ∧
      (({} : Options).lineEnding = .text "\n") ∧
      ∃ main extension content,
        Target.entityFramework.emit memoEntity {} = .ok [main, extension] ∧
        Target.entityFrameworkCore.emit memoEntity {} = .ok [{ main with content }, extension] ∧
        Layout.unmarkedLines content = Layout.unmarkedLines main.content := by
  have checked : Entity.normalize [] (.text "Memo") memoDescription ["App", "Db"] (.ofText "out") =
      .ok memoEntity := rfl
  obtain ⟨artifacts, emitted⟩ :
      ∃ artifacts, Target.entityFramework.emit memoEntity {} = .ok artifacts :=
    Target.entityFramework.emitAccepted plainDefault (by decide)
  obtain ⟨main, extension, content, _, rfl, _, _, emitted', same, _⟩ := sharedLayout checked rfl emitted
  exact ⟨checked, rfl, main, extension, content, emitted, emitted', same⟩

end EntityForge
