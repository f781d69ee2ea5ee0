import EntityForge.Proofs.Accessors
import EntityForge.Proofs.Namespaces

/-! Members of generated classes. The class declares a property for every column, or its getter and
setter: each in a line of its own, which the formatter keeps, and in the order of the columns. What is
said of a block of a template is found again in the lines of the file. -/
namespace EntityForge
open Template
open Text (Single)

namespace Format

theorem shownAppend (a b : List (List Char)) : shownLines (a ++ b) = shownLines a ++ shownLines b := by
  rw [shownLines, List.map_append, List.filter_append]
  rfl

theorem shownInside {a b : List (List Char)} (inside : a.Sublist b) :
    (shownLines a).Sublist (shownLines b) := (inside.map _).filter _

theorem shownTrim (lines : List (List Char)) : shownLines (trimEnd lines) = shownLines lines := by
  rw [← squeezeShown 0, squeezeTrim, dropTailShown, squeezeShown]

theorem shownIndent (width : Nat) (lines : List (List Char)) :
    shownLines (lines.map (Text.indentLine width)) = (shownLines lines).map (Text.indentLine width) := by
  have moved : (lines.map (Text.indentLine width)).map Text.stripEnd =
      (lines.map Text.stripEnd).map (Text.indentLine width) := by
    rw [List.map_map, List.map_map]
    exact List.map_congr_left fun line _ => stripIndentLine width line
  have seen : shown ∘ Text.indentLine width = shown := by
    funext line
    rw [Function.comp_apply, Bool.eq_iff_iff, shownIff, shownIff, Layout.Alike.stripIndent]
    split
    next gap => rw [gap]
    next visible => simp [visible]
  rw [shownLines, moved, List.filter_map, seen, shownLines]

theorem visibleNormal (code : List Char) : (visibleLines code).Sublist (normalLines code) := by
  rw [← normalLinesShown]
  exact List.filter_sublist

end Format

namespace Template

section Accessors
variable {name : String} (words : Name.wellFormed name.toList = true)
include words

theorem accessorShort : Text.Short (Name.accessorOf name) := fun newline =>
  absurd (Name.accessorLetters words _ newline) (by decide)

theorem accessorSingle (some : Name.accessorOf name ≠ "") : Single (Name.accessorOf name) where
  short := accessorShort words
  solid := Text.stripEndVisible (Name.accessorVisible words)
  some := mt String.toList_eq_nil_iff.mp some

end Accessors

theorem shownSingle {texts : List String} (single : ∀ s ∈ texts, Single s) :
    Format.shownLines (linesOf texts) = texts.map String.toList := by
  have solid : (texts.map String.toList).map Text.stripEnd = texts.map String.toList := by
    rw [List.map_map]
    exact List.map_congr_left fun s member => (single s member).solid
  rw [linesShort fun s member => (single s member).short, Format.shownLines, solid, List.filter_eq_self]
  intro line member
  obtain ⟨s, there, rfl⟩ := List.mem_map.mp member
  exact Format.shownIff.mpr (single s there).visible

theorem shownAmong {picked texts : List String} (single : ∀ s ∈ picked, Single s)
    (inside : picked.Sublist texts) :
    (picked.map String.toList).Sublist (Format.shownLines (linesOf texts)) := by
  rw [← shownSingle single]
  exact Format.shownInside (inside.flatMap _)

theorem shownWrap (name : String) (body : List String) :
    ((Format.shownLines (linesOf body)).map (Text.indentLine 4)).Sublist
      (Format.shownLines (linesOf (wrap name body))) := by
  have some (lines : List (List Char)) :
      Format.shownLines (Text.someLine lines) = Format.shownLines lines := by
    cases lines <;> rfl
  rw [linesWrap, Format.shownAppend, Format.shownAppend, Format.shownIndent, some, Format.shownTrim]
  exact (List.sublist_append_right _ _).trans (List.sublist_append_left _ _)

def margin (space : String) : String := if space = "" then "" else "    "

theorem singleIndent {s : String} (single : Single s) :
    Text.indentLine 4 s.toList = ("    " ++ s).toList := by
  have seen : ¬ Text.allBlank s.toList = true := by
    rw [Text.allBlankIff, single.solid]
    exact single.some
  rw [Text.indentLine, if_neg seen, String.toList_append]
  rfl

theorem shownWithin {picked texts : List String} (single : ∀ s ∈ picked, Single s)
    (inside : picked.Sublist texts) (space : String) :
    (picked.map fun s => (margin space ++ s).toList).Sublist (Format.shownLines (linesOf
      (if (Value.text space).truthy then wrap space texts else texts ++ [""]))) := by
  have shown := shownAmong single inside
  by_cases bare : space = ""
  · have plain : ¬ (Value.text space).truthy = true := by simp [Value.truthy, bare]
    have same : (fun s => (margin space ++ s).toList) = String.toList := by
      funext s
      rw [margin, if_pos bare, String.empty_append]
    rw [if_neg plain, same]
    exact shown.trans (Format.shownInside ((List.sublist_append_left texts [""]).flatMap _))
  · have named : (Value.text space).truthy = true := by simp [Value.truthy, bare]
    have moved : picked.map (fun s => (margin space ++ s).toList) =
        (picked.map String.toList).map (Text.indentLine 4) := by
      rw [List.map_map]
      refine List.map_congr_left fun s member => ?_
      rw [margin, if_neg bare, Function.comp_apply, singleIndent (single s member)]
    rw [if_pos named, moved]
    exact (shown.map _).trans (shownWrap space texts)

section Filling
variable {σ : Scope} {l : List String}

theorem fillConsOk {block : Block} {rest : List Block} (filled : fillAll σ (block :: rest) = .ok l) :
    ∃ first more, block.fill σ = .ok first ∧ fillAll σ rest = .ok more ∧ l = first ++ more := by
  rw [fillAll] at filled
  obtain ⟨first, here, filled⟩ := exceptBindOk filled
  obtain ⟨more, later, filled⟩ := exceptBindOk filled
  cases filled
  exact ⟨first, more, here, later, rfl⟩

theorem fillSole {block : Block} (filled : fillAll σ [block] = .ok l) : block.fill σ = .ok l := by
  obtain ⟨first, _, here, none, rfl⟩ := fillConsOk filled
  cases none
  rw [here, List.append_nil]

theorem fillPicked {picked blocks : List Block} (inside : picked.Sublist blocks)
    (filled : fillAll σ blocks = .ok l) : ∃ m, fillAll σ picked = .ok m ∧ m.Sublist l := by
  induction inside generalizing l with
  | slnil => exact ⟨l, filled, .refl l⟩
  | cons block _ ih =>
    obtain ⟨first, more, _, later, rfl⟩ := fillConsOk filled
    obtain ⟨m, done, inside⟩ := ih later
    exact ⟨m, done, inside.trans (List.sublist_append_right _ _)⟩
  | cons_cons block _ ih =>
    obtain ⟨first, more, here, later, rfl⟩ := fillConsOk filled
    obtain ⟨m, done, inside⟩ := ih later
    exact ⟨first ++ m, fillCons here done, (List.Sublist.refl first).append inside⟩

theorem withinOk {source : Source} {value : Value} {body : List Block}
    (read : source.read σ = .ok value) (filled : (Block.within source body).fill σ = .ok l) :
    ∃ lines, fillAll σ body = .ok lines ∧
      l = if value.truthy then wrap value.display lines else lines ++ [""] := by
  cases inner : fillAll σ body with
  | error fault =>
    rw [Block.fill, inner] at filled
    cases filled
  | ok lines => exact ⟨lines, rfl, Except.ok.inj (filled.symm.trans (fillWithin read inner))⟩

theorem fillWhen {condition : Source} {value : Value} (read : condition.read σ = .ok value)
    (yes : List Block) :
    (Block.when condition yes).fill σ = if value.truthy then fillAll σ yes else .ok [] := by
  rw [Block.fill, read]
  rfl

theorem forEachPicked {α : Type} {fill : Scope → Except Fault (List String)} {item : String}
    {items : List α} {view : α → Value} {said : α → List String}
    (each : ∀ x ∈ items, ∀ m, fill ((item, view x) :: σ) = .ok m → (said x).Sublist m)
    (filled : forEach fill item σ (items.map view) = .ok l) : (items.flatMap said).Sublist l := by
  induction items generalizing l with
  | nil => exact List.nil_sublist l
  | cons x rest ih =>
    obtain ⟨here, later⟩ := List.forall_mem_cons.mp each
    rw [List.map_cons, forEach] at filled
    obtain ⟨first, said, filled⟩ := exceptBindOk filled
    obtain ⟨more, others, filled⟩ := exceptBindOk filled
    cases filled
    exact (here first said).append (ih later others)

theorem eachPicked {α : Type} {item : String} {source : Source} {body : List Block} {items : List α}
    {view : α → Value} {said : α → List String}
    (each : ∀ x ∈ items, ∀ m, fillAll ((item, view x) :: σ) body = .ok m → (said x).Sublist m)
    (read : source.read σ = .ok (.list (items.map view)))
    (filled : (Block.each item source body).fill σ = .ok l) : (items.flatMap said).Sublist l := by
  rw [Block.fill, read] at filled
  exact forEachPicked each filled

end Filling

end Template

def Written (options : Options) (content : String) (lines : List (List Char)) : Prop :=
  (∀ line ∈ lines, '\n' ∉ line) ∧ ∃ ending, options.lineEnding = .text ending ∧
    content.toList = Text.join ending.toList lines ++ ending.toList

theorem renderWritten {label : String} {template : Template} {σ : Scope} {options : Options}
    {content : String} (rendered : renderFormatted label template σ options = .ok content) :
    ∃ texts lines, fillAll σ template = .ok texts ∧ Written options content lines ∧
      (Format.shownLines (linesOf texts)).Sublist lines := by
  have blank : Format.shownLines [[]] = [] := rfl
  obtain ⟨texts, filled, made⟩ := renderedLines rendered
  rw [formatted] at made
  split at made
  next ending given =>
    cases made
    refine ⟨texts, Format.normalLines (textOf texts).toList, filled,
      ⟨fun line => Format.normalFree, ending, given, String.toList_ofList⟩, ?_⟩
    have inside := Format.visibleNormal (textOf texts).toList
    rwa [Format.visibleLines, linesText, Format.shownAppend, blank, List.append_nil] at inside
  next => cases made

namespace Emit.EntityFramework

def propertyText (column : String × Column × String) : String :=
  "    public " ++ column.2.2 ++ " " ++ Name.accessorOf column.1

theorem propertySingle {column : String × Column × String} (native : Text.Short column.2.2)
    (words : Name.wellFormed column.1.toList = true) (some : Name.accessorOf column.1 ≠ "") :
    Single (propertyText column) :=
  (accessorSingle words some).behind
    (Text.shortAppend (Text.shortAppend (by decide) native) (by decide))

def propertyBlock : Block :=
  .line [.text "    public ", .hole (.field "column" "clr_type") .plain, .text " ",
    .hole (.field "column" "property") .plain]

theorem propertyFill (flavor : Flavor) (σ : Scope) (column : String × Column × String) :
    propertyBlock.fill (("column", columnView flavor column.1 column.2.1 column.2.2) :: σ) =
      .ok [propertyText column] := by
  have filled : propertyBlock.fill
      (("column", columnView flavor column.1 column.2.1 column.2.2) :: σ) =
        .ok ["    public " ++ (column.2.2 ++ (" " ++ (Name.accessorOf column.1 ++ "")))] := rfl
  rw [filled, propertyText, String.append_assoc, String.append_assoc, String.append_empty]

theorem propertySplit : ∃ body inner,
    csharpClass = [bannerBlock, .within (.name "cs_namespace") body] ∧
      [Block.each "column" (.name "columns") inner].Sublist body ∧ [propertyBlock].Sublist inner :=
  ⟨_, _, rfl, List.singleton_sublist.mpr (List.mem_of_getElem? (i := 6) rfl),
    List.singleton_sublist.mpr (List.mem_of_getElem? (i := 3) rfl)⟩

theorem propertiesWritten {flavor : Flavor} {e : Entity} {options : Options}
    {columns : List (String × Column × String)} {label content : String}
    (rendered : renderFormatted label csharpClass (scope flavor e options columns) options = .ok content)
    (single : ∀ column ∈ columns, Single (propertyText column)) :
    ∃ lines, Written options content lines ∧
      ((columns.map propertyText).map fun s =>
        (margin (String.intercalate "." e.segments) ++ s).toList).Sublist lines := by
  obtain ⟨texts, lines, filled, written, shown⟩ := renderWritten rendered
  refine ⟨lines, written, .trans ?_ shown⟩
  obtain ⟨body, inner, split, each, declares⟩ := propertySplit
  rw [split] at filled
  obtain ⟨framed, filled, inside⟩ := fillPicked ((List.Sublist.refl [_]).cons _) filled
  have read : (Source.name "cs_namespace").read (scope flavor e options columns) =
      .ok (.text (String.intercalate "." e.segments)) := rfl
  obtain ⟨found, bodied, rfl⟩ := withinOk read (fillSole filled)
  obtain ⟨several, repeated, among⟩ := fillPicked each bodied
  have declared : (columns.map propertyText).Sublist found := by
    rw [List.map_eq_flatMap]
    refine (eachPicked (fun column _ said filled => ?_) rfl (fillSole repeated)).trans among
    obtain ⟨text, here, present⟩ := fillPicked declares filled
    cases (propertyFill flavor _ column).symm.trans (fillSole here)
    exact present
  refine .trans ?_ (Format.shownInside (inside.flatMap _))
  exact shownWithin (List.forall_mem_map.mpr single) declared _

end Emit.EntityFramework

namespace Emit.Doctrine

def getterText (name : String) : String :=
  "    public function " ++ ("get" ++ Name.accessorOf name) ++ "() \x7b"

def setterText (name : String) : String :=
  "    public function " ++ ("set" ++ Name.accessorOf name) ++ "($newValue) \x7b"

def methodTexts (column : String × Column) : List String :=
  List.zipWith (fun name rest => "    public function " ++ name ++ rest) (methodNames column)
    ["() \x7b", "($newValue) \x7b"]

theorem methodTextsOf (column : String × Column) : methodTexts column =
    getterText column.1 :: if column.2.auto then [] else [setterText column.1] := by
  unfold methodTexts methodNames
  cases column.2.auto <;> rfl

def getterBlock : Block :=
  .line [.text "    public function ", .hole (.field "column" "getter") .plain, .text "() \x7b"]

def setterBlock : Block :=
  .line [.text "    public function ", .hole (.field "column" "setter") .plain,
    .text "($newValue) \x7b"]

theorem methodSplit : ∃ inner setters, [Block.each "column" (.name "columns") inner].Sublist phpClass ∧
    [getterBlock, .when (.field "column" "setter") setters].Sublist inner ∧
    [setterBlock].Sublist setters :=
  ⟨_, _, List.singleton_sublist.mpr (List.mem_of_getElem? (i := 13) rfl),
    .cons _ (.cons _ (.cons_cons _ (.cons _ (.cons _ (.cons _ (.cons _ (.cons _
      (.cons_cons _ .slnil)))))))), List.singleton_sublist.mpr (List.mem_of_getElem? (i := 2) rfl)⟩

theorem methodsFill {σ : Scope} {name : String} {c : Column} {native : String} {setters : List Block}
    {l : List String} (declares : [setterBlock].Sublist setters)
    (filled : fillAll (("column", columnView name c native) :: σ)
      [getterBlock, .when (.field "column" "setter") setters] = .ok l) :
    (methodTexts (name, c)).Sublist l := by
  have getter : getterBlock.fill (("column", columnView name c native) :: σ) = .ok [getterText name] :=
    fillLineBlock (fillBetween (.field "column" "getter") .plain _ _ rfl rfl)
  have read : (Source.field "column" "setter").read (("column", columnView name c native) :: σ) =
      .ok (if c.auto then .null else .text ("set" ++ Name.accessorOf name)) := rfl
  obtain ⟨first, more, here, later, rfl⟩ := fillConsOk filled
  cases getter.symm.trans here
  rw [methodTextsOf]
  refine List.Sublist.cons_cons _ ?_
  cases auto : c.auto with
  | true => exact List.nil_sublist more
  | false =>
    rw [auto, if_neg Bool.false_ne_true] at read
    have named : (Value.text ("set" ++ Name.accessorOf name)).truthy = true := by simp [Value.truthy]
    have later := fillSole later
    rw [fillWhen read, if_pos named] at later
    obtain ⟨said, here, present⟩ := fillPicked declares later
    have setter : setterBlock.fill (("column", columnView name c native) :: σ) =
        .ok [setterText name] := fillLineBlock (fillBetween _ .plain _ _ read rfl)
    cases setter.symm.trans (fillSole here)
    exact present

section Methods
variable {e : Entity} {options : Options} {columns : List (String × Column × String)}

theorem methodsSingle {column : String × Column} (words : Name.wellFormed column.1.toList = true) :
    ∀ text ∈ methodTexts column, Single text := by
  have between {kind closing : String} (short : Text.Short kind) (single : Single closing) :
      Single ("    public function " ++ (kind ++ Name.accessorOf column.1) ++ closing) :=
    single.behind (Text.shortAppend (by decide) (Text.shortAppend short (accessorShort words)))
  have getter : Single (getterText column.1) := between (by decide) ⟨by decide, by decide, by decide⟩
  have setter : Single (setterText column.1) := between (by decide) ⟨by decide, by decide, by decide⟩
  rw [methodTextsOf]
  refine List.forall_mem_cons.mpr ⟨getter, ?_⟩
  cases column.2.auto with
  | true => exact List.forall_mem_nil _
  | false => exact List.forall_mem_singleton.mpr setter

theorem methodsWritten {label content : String}
    (rendered : renderFormatted label phpClass (scope e options columns) options = .ok content)
    (words : ∀ column ∈ columns, Name.wellFormed column.1.toList = true) :
    ∃ lines, Written options content lines ∧ ((columns.flatMap fun column =>
      methodTexts (column.1, column.2.1)).map String.toList).Sublist lines := by
  obtain ⟨texts, lines, filled, written, shown⟩ := renderWritten rendered
  refine ⟨lines, written, .trans ?_ shown⟩
  obtain ⟨inner, setters, each, picked, declares⟩ := methodSplit
  obtain ⟨several, repeated, among⟩ := fillPicked each filled
  have declared : (columns.flatMap fun column => methodTexts (column.1, column.2.1)).Sublist texts := by
    refine (eachPicked (fun column _ said filled => ?_) rfl (fillSole repeated)).trans among
    obtain ⟨found, here, present⟩ := fillPicked picked filled
    exact (methodsFill declares here).trans present
  refine shownAmong (fun text member => ?_) declared
  obtain ⟨column, there, member⟩ := List.mem_flatMap.mp member
  exact methodsSingle (words column there) text member

end Methods

end Emit.Doctrine

namespace Target
variable {t : Target} {e : Entity} {options : Options} {files : List Artifact}

theorem nativeShaped {p : String → Prop} (plain : ∀ entry ∈ t.types.natives, p entry.2)
    (marked : ∀ base, p base → p (base ++ t.types.marker)) {c : Column} {native : String}
    (mapped : t.types.mapColumn c = .ok native) : p native := by
  unfold TypeTable.mapColumn TypeTable.map at mapped
  dsimp only at mapped
  split at mapped
  next => cases mapped
  next base found =>
    obtain ⟨before, after, split, _⟩ := List.lookup_eq_some_iff.mp found
    have base := plain (TypeTable.resolveTag c.tag c.id, base) (by simp [split])
    split at mapped
    next =>
      cases mapped
      exact marked _ base
    next =>
      cases mapped
      exact base

theorem nativeShort (t : Target) {c : Column} {native : String}
    (mapped : t.types.mapColumn c = .ok native) : Text.Short native := by
  have marker : Text.Short t.types.marker := by cases t <;> decide
  exact nativeShaped (by cases t <;> decide) (fun _ base => Text.shortAppend base marker) mapped

theorem propertiesEmitted (sharp : t ≠ .doctrine)
    (words : ∀ column ∈ e.columns, Name.wellFormed column.1.toList = true) (some : "" ∉ e.accessors)
    (emitted : t.emit e options = .ok files) : ∃ columns main extension lines,
      e.sorted.mapM t.types.typeColumn = .ok columns ∧ files = [main, extension] ∧
      Written options main.content lines ∧
      ((columns.map Emit.EntityFramework.propertyText).map fun s =>
        (margin (String.intercalate "." e.segments) ++ s).toList).Sublist lines := by
  obtain ⟨flavor, rfl, _, same⟩ := flavored sharp
  rw [same] at emitted
  obtain ⟨columns, main, extension, done, rendered, _, rfl⟩ :=
    Emit.EntityFramework.artifactsOk.mp emitted
  obtain ⟨entries, natives⟩ := TypeTable.typedEntries (TypeTable.typedIff.mp done)
  have single (column) (member : column ∈ columns) :
      Single (Emit.EntityFramework.propertyText column) := by
    have there : (column.1, column.2.1) ∈ e.columns := by
      rw [← Entity.memberSorted, ← entries]
      exact List.mem_map_of_mem member
    exact Emit.EntityFramework.propertySingle (flavor.target.nativeShort (natives column member))
      (words _ there) fun none => some (List.mem_map.mpr ⟨_, there, none⟩)
  obtain ⟨lines, written, inside⟩ := Emit.EntityFramework.propertiesWritten rendered single
  exact ⟨columns, _, _, lines, done, rfl, written, inside⟩

theorem methodsEmitted (words : ∀ column ∈ e.columns, Name.wellFormed column.1.toList = true)
    (emitted : Target.doctrine.emit e options = .ok files) : ∃ main others lines,
      files = main :: others ∧ Written options main.content lines ∧
      ((e.sorted.flatMap Emit.Doctrine.methodTexts).map String.toList).Sublist lines := by
  obtain ⟨columns, main, extension, dir, mapping, done, rendered, _, _, _, rfl⟩ :=
    Emit.Doctrine.artifactsOk.mp emitted
  obtain ⟨entries, _⟩ := TypeTable.typedEntries (TypeTable.typedIff.mp done)
  have named (column) (member : column ∈ columns) : Name.wellFormed column.1.toList = true := by
    refine words (column.1, column.2.1) ?_
    rw [← Entity.memberSorted, ← entries]
    exact List.mem_map_of_mem member
  obtain ⟨lines, written, inside⟩ := Emit.Doctrine.methodsWritten rendered named
  rw [← entries, List.flatMap_map]
  exact ⟨_, _, lines, rfl, written, inside⟩

end Target

end EntityForge
