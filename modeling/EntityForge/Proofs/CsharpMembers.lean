import EntityForge.Proofs.Listings

/-! The members of an Entity Framework class. The template has a loop for the fields, one for the
properties and one for each of the tables that give the properties by name. A line of a property may end
with its type, for the name of a column may leave nothing to call it. -/
namespace EntityForge
open Template
open Text (Short upTo past upToCut pastCut)

namespace Text

def lastWord (s : List Char) : List Char := (upTo ' ' s.reverse).reverse

theorem lastWordCut {s : List Char} (free : ' ' ∉ s) (front : List Char) :
    lastWord (front ++ ' ' :: s) = s := by
  have turned : (front ++ ' ' :: s).reverse = s.reverse ++ ' ' :: front.reverse := by simp
  rw [lastWord, turned, upToCut (by simpa using free), List.reverse_reverse]

theorem pastBehind {c : Char} {s : List Char} (there : c ∈ s) (tail : List Char) :
    past c (s ++ tail) = past c s ++ tail := by
  obtain ⟨front, back, free, cut⟩ : ∃ front back, c ∉ front ∧ s = front ++ c :: back := by
    obtain ⟨front, back, cut, free⟩ := List.eq_append_cons_of_mem there
    exact ⟨front, back, free, cut⟩
  rw [cut, List.append_assoc, List.cons_append, pastCut free, pastCut free]

theorem literalWord {name : String} (words : Name.wellFormed name.toList = true) :
    (literal name).toList = '"' :: (name.toList ++ ['"']) := by
  have plain {s : List Char} (free : ∀ c ∈ s, ¬ (c = '\\' ∨ c = '"')) : escapeLiteral s = s := by
    induction s with
    | nil => rfl
    | cons c rest ih =>
      obtain ⟨here, later⟩ := List.forall_mem_cons.mp free
      rw [escapeLiteral, if_neg here, ih later]
  have free (c) (member : c ∈ name.toList) : ¬ (c = '\\' ∨ c = '"') := by
    rintro (rfl | rfl)
    · exact absurd member (Name.wordFree words (by decide))
    · exact absurd member (Name.wordFree words (by decide))
  rw [literal, String.toList_ofList, plain free, List.cons_append]

end Text

open Text (lastWord lastWordCut pastBehind literalWord)

/- C#: fields, public members, the accessor that sets, and pairs of a name and a member in braces. A
public member is a property if all that follows its type is a name. -/
def Reader.csharp : Reader where
  marks := ['p', 's', '\x7b']
  item? line :=
    if "\x7b \"".toList.isPrefixOf line then
      some (.entry (upTo '"' (past '"' line)) (upTo ' ' (past '.' line)))
    else if line = "set".toList then some .setter
    else if "protected ".toList.isPrefixOf line then some (.field (upTo ';' (past ' ' (past ' ' line))))
    else if "public ".toList.isPrefixOf line then
      let name := past ' ' (past ' ' line)
      if name.all Name.isWordChar then some (.property name)
      else if line.contains '(' then some (.method (lastWord (upTo '(' line)))
      else some .other
    else none

theorem Reader.csharpPublic (line : List Char) : Reader.csharp.read? ('p' :: ("ublic ".toList ++ line)) =
    if (past ' ' line).all Name.isWordChar then some (.property (past ' ' line))
    else if ('p' :: ("ublic ".toList ++ line)).contains '(' then
      some (.method (lastWord (upTo '(' ('p' :: ("ublic ".toList ++ line)))))
    else some .other := rfl

theorem Reader.csharpMethod {front method : List Char} (free : '(' ∉ front)
    (letters : ∀ c ∈ method, c ≠ '(' ∧ c ≠ ' ') (arguments : List Char) :
    csharp.read? ('p' :: ("ublic ".toList ++ (front ++ ' ' :: (method ++ '(' :: arguments)))) =
      some (.method method) := by
  have single : ' ' ∉ method := fun there => (letters _ there).2 rfl
  have last : '(' ∉ method := fun there => (letters _ there).1 rfl
  have apart : '(' ∉ 'p' :: ("ublic ".toList ++ front) ++ ' ' :: method := by
    simp only [List.mem_append, List.mem_cons, not_or]
    exact ⟨⟨by decide, by decide, free⟩, by decide, last⟩
  have line : 'p' :: ("ublic ".toList ++ (front ++ ' ' :: (method ++ '(' :: arguments))) =
      ('p' :: ("ublic ".toList ++ front) ++ ' ' :: method) ++ '(' :: arguments := by
    simp
  have rest : front ++ ' ' :: (method ++ '(' :: arguments) =
      (front ++ [' ']) ++ (method ++ '(' :: arguments) := by
    simp
  have word : ¬ (past ' ' (front ++ ' ' :: (method ++ '(' :: arguments))).all Name.isWordChar = true := by
    rw [rest, pastBehind (by simp), List.all_eq_true]
    exact fun all => absurd (all '(' (by simp)) (by decide)
  rw [csharpPublic, if_neg word, line, if_pos (by simp), upToCut apart, lastWordCut single]

namespace Emit.EntityFramework
open Reader

section Lines
variable {σ : Scope} {flavor : Flavor} {column : String × Column × String}
  (words : Name.wellFormed column.1.toList = true)
  (visible : ∀ c ∈ column.2.2.toList, Text.isBlank c = false)
include words visible

theorem fieldListed :
    Lists .csharp (("column", columnView flavor column.1 column.2.1 column.2.2) :: σ)
      [.line [.text "    protected ", .hole (.field "column" "clr_type") .plain, .text " ",
        .hole (.field "column" "field") .plain, .text ";"]] [.field ('_' :: column.1.toList)] := by
  have free : ';' ∉ '_' :: column.1.toList :=
    List.not_mem_cons_of_ne_of_not_mem (by decide) (Name.wordFree words (by decide))
  have solid : Short column.1 := Name.wordFree words (by decide)
  have single : ' ' ∉ column.2.2.toList := fun there => absurd (visible _ there) (by decide)
  have short : Short column.2.2 := fun there => absurd (visible _ there) (by decide)
  have cut : (column.2.2.toList ++ ' ' :: '_' :: column.1.toList) ++ [';'] =
      column.2.2.toList ++ ' ' :: ('_' :: column.1.toList ++ [';']) := by
    simp
  have item : Reader.csharp.read? ('p' :: (("rotected ".toList ++ (column.2.2.toList ++
      ' ' :: '_' :: column.1.toList)) ++ [';'])) = some (.field ('_' :: column.1.toList)) := by
    have read (line : List Char) : Reader.csharp.read? ('p' :: ("rotected ".toList ++ line)) =
        some (.field (upTo ';' (past ' ' line))) := rfl
    rw [List.append_assoc, read, cut, pastCut single, upToCut free]
  refine .framed 4 (fillTwice rfl rfl rfl rfl) ?_ ?_ rfl rfl (List.cons_ne_nil _ _) item
  · exact Text.shortAppend (Text.shortAppend (by decide) short)
      (Text.shortAppend (Text.shortAppend (by decide) (Text.shortAppend (by decide) solid)) (by decide))
  · simp [Value.display]

theorem propertyListed (typed : column.2.2.toList ≠ []) :
    Lists .csharp (("column", columnView flavor column.1 column.2.1 column.2.2) :: σ) [propertyBlock]
      [.property (Name.accessorOf column.1).toList] := by
  have single : ' ' ∉ column.2.2.toList := fun there => absurd (visible _ there) (by decide)
  have short : Short column.2.2 := fun there => absurd (visible _ there) (by decide)
  have letters := Name.accessorLetters words
  have type : Text.stripEnd column.2.2.toList = column.2.2.toList := Text.stripEndVisible visible
  obtain ⟨back, pad, blank, cut, solid, name⟩ : ∃ back pad, Text.Blank pad ∧
      ' ' :: (Name.accessorOf column.1).toList = back ++ pad ∧
      Text.stripEnd (column.2.2.toList ++ back) = column.2.2.toList ++ back ∧
      past ' ' (column.2.2.toList ++ back) = (Name.accessorOf column.1).toList := by
    cases named : (Name.accessorOf column.1).toList with
    | nil =>
      have blank : Text.Blank [' '] := List.forall_mem_singleton.mpr rfl
      exact ⟨[], [' '], blank, rfl, by simpa using type, by simpa using Text.pastFree single⟩
    | cons d rest =>
      have name : Text.stripEnd (d :: rest) = d :: rest :=
        named ▸ Text.stripEndVisible (Name.accessorVisible words)
      refine ⟨' ' :: d :: rest, [], .nil, by simp, ?_, pastCut single _⟩
      rw [← List.singleton_append, ← List.append_assoc, Text.stripEndSolid (by simp [name]), name]
  have text : (propertyText column).toList =
      List.replicate 4 ' ' ++ 'p' :: ("ublic ".toList ++ (column.2.2.toList ++ back)) ++ pad := by
    have tail : column.2.2.toList ++ ' ' :: (Name.accessorOf column.1).toList =
        column.2.2.toList ++ (back ++ pad) := by rw [cut]
    simpa [propertyText] using tail
  have whole : Text.strip (propertyText column).toList =
      'p' :: ("ublic ".toList ++ (column.2.2.toList ++ back)) := by
    have framed := Text.stripFramed (c := 'p') rfl solid (List.append_ne_nil_of_left_ne_nil typed back)
      4 "ublic ".toList
    rw [← framed, text]
    exact Text.stripAround .nil blank _
  have item : Reader.csharp.read? ('p' :: ("ublic ".toList ++ (column.2.2.toList ++ back))) =
      some (.property (Name.accessorOf column.1).toList) := by
    have word : (past ' ' (column.2.2.toList ++ back)).all Name.isWordChar = true := by
      rw [name, List.all_eq_true]
      exact fun d member => Name.wordLetter (letters d member)
    rw [Reader.csharpPublic, if_pos word, name]
  have fine : Short (propertyText column) :=
    Text.shortAppend (Text.shortAppend (Text.shortAppend (by decide) short) (by decide))
      (accessorShort words)
  exact ⟨_, fillOne (propertyFill flavor σ column), by rw [listedLine fine, whole, item]; rfl⟩

omit visible in
theorem entryRead (between tail : List Char) (free : '.' ∉ between) :
    Reader.csharp.read? ('\x7b' :: ' ' :: '"' :: (column.1.toList ++ '"' :: (between ++ '.' ::
      ((Name.accessorOf column.1).toList ++ ' ' :: tail)))) =
        some (.entry column.1.toList (Name.accessorOf column.1).toList) := by
  have quoted : '"' ∉ column.1.toList := Name.wordFree words (by decide)
  have apart : '.' ∉ '\x7b' :: ' ' :: '"' :: (column.1.toList ++ '"' :: between) := by
    simp [Name.wordFree words (c := '.') (by decide), free]
  have named : ' ' ∉ (Name.accessorOf column.1).toList := fun there =>
    absurd (Name.accessorLetters words _ there) (by decide)
  have read (line : List Char) : Reader.csharp.read? ('\x7b' :: ' ' :: '"' :: line) =
      some (.entry (upTo '"' line) (upTo ' ' (past '.' ('\x7b' :: ' ' :: '"' :: line)))) := rfl
  have cut := pastCut apart ((Name.accessorOf column.1).toList ++ ' ' :: tail)
  rw [List.cons_append, List.cons_append, List.cons_append, List.append_assoc, List.cons_append] at cut
  rw [read, upToCut quoted, cut, upToCut named]

omit visible in
theorem getterListed : Lists .csharp (("column", columnView flavor column.1 column.2.1 column.2.2) :: σ)
    [.line [.text "            \x7b ", .hole (.field "column" "name") .literal,
      .text ", () => this.", .hole (.field "column" "property") .plain, .text " \x7d,"]]
    [.entry column.1.toList (Name.accessorOf column.1).toList] := by
  have name : Short (Text.literal column.1) :=
    (Text.literalShort _).mpr (Name.wordFree words (by decide))
  have item : Reader.csharp.read? ('\x7b' :: ((' ' :: '"' :: (column.1.toList ++ '"' ::
      (", () => this".toList ++ '.' :: ((Name.accessorOf column.1).toList ++ " \x7d".toList)))) ++ [','])) =
        some (.entry column.1.toList (Name.accessorOf column.1).toList) := by
    rw [← entryRead words ", () => this".toList "\x7d,".toList (by decide)]
    simp
  refine .framed 12 (fillTwice rfl rfl rfl rfl) ?_ ?_ rfl rfl (List.cons_ne_nil _ _) item
  · exact Text.shortAppend (Text.shortAppend (by decide) name)
      (Text.shortAppend (Text.shortAppend (by decide) (accessorShort words)) (by decide))
  · simp [Value.display, Text.literalWord words]

theorem setterListed : Lists .csharp (("column", columnView flavor column.1 column.2.1 column.2.2) :: σ)
    [.line [.text "            \x7b ", .hole (.field "column" "name") .literal,
      .text ", (value) => \x7b this.", .hole (.field "column" "property") .plain,
      .text " = _Helpers.ConvertTo<", .hole (.field "column" "clr_type") .plain,
      .text ">(value); return this; \x7d \x7d,"]]
    [.entry column.1.toList (Name.accessorOf column.1).toList] := by
  have name : Short (Text.literal column.1) :=
    (Text.literalShort _).mpr (Name.wordFree words (by decide))
  have type : Short column.2.2 := fun there => absurd (visible _ there) (by decide)
  have item : Reader.csharp.read? ('\x7b' :: ((' ' :: '"' :: (column.1.toList ++ '"' ::
      (", (value) => \x7b this".toList ++ '.' :: ((Name.accessorOf column.1).toList ++
        (" = _Helpers.ConvertTo<".toList ++ (column.2.2.toList ++
          ">(value); return this; \x7d \x7d".toList)))))) ++ [','])) =
        some (.entry column.1.toList (Name.accessorOf column.1).toList) := by
    rw [← entryRead words ", (value) => \x7b this".toList ("= _Helpers.ConvertTo<".toList ++
      (column.2.2.toList ++ ">(value); return this; \x7d \x7d,".toList)) (by decide)]
    simp
  have filled : fillLine (("column", columnView flavor column.1 column.2.1 column.2.2) :: σ)
      [.text "            \x7b ", .hole (.field "column" "name") .literal,
        .text ", (value) => \x7b this.", .hole (.field "column" "property") .plain,
        .text " = _Helpers.ConvertTo<", .hole (.field "column" "clr_type") .plain,
        .text ">(value); return this; \x7d \x7d,"] =
      .ok ("            \x7b " ++ (Text.literal column.1 ++ (", (value) => \x7b this." ++
        (Name.accessorOf column.1 ++ (" = _Helpers.ConvertTo<" ++ (column.2.2 ++
          (">(value); return this; \x7d \x7d," ++ ""))))))) := rfl
  refine .framed 12 filled ?_ ?_ rfl rfl (List.cons_ne_nil _ _) item
  · exact Text.shortAppend (by decide) (Text.shortAppend name (Text.shortAppend (by decide)
      (Text.shortAppend (accessorShort words) (Text.shortAppend (by decide)
        (Text.shortAppend type (by decide))))))
  · simp [Text.literalWord words]

end Lines

theorem methodListed {σ : Scope} {source : Source} {name : String}
    (words : Name.wellFormed name.toList = true) (read : source.read σ = .ok (.text name))
    {opening closing : String} (front between : List Char) {back method : List Char}
    (opens : opening = String.ofList ("    public ".toList ++ front))
    (closes : closing = String.ofList back)
    (check : (back == between ++ ' ' :: (method ++ '(' :: past '(' back) && Text.stripEnd back == back &&
      (front ++ back).all (· != '\n') && (front ++ between).all (· != '(') &&
      method.all fun c => c != '(' && c != ' ') = true) :
    Lists .csharp σ [.line [.text opening, .hole source .plain, .text closing]] [.method method] := by
  simp only [Bool.and_eq_true, beq_iff_eq, List.all_eq_true, bne_iff_ne] at check
  obtain ⟨⟨⟨⟨cut, solid⟩, fine⟩, apart⟩, letters⟩ := check
  generalize past '(' back = arguments at cut
  subst cut
  rw [List.forall_mem_append] at fine apart
  have named : '(' ∉ name.toList := Name.wordFree words (by decide)
  have free : '(' ∉ front ++ name.toList ++ between := by
    simp only [List.mem_append, not_or]
    exact ⟨⟨fun there => apart.1 _ there rfl, named⟩, fun there => apart.2 _ there rfl⟩
  have item : Reader.csharp.read? ('p' :: (("ublic ".toList ++ (front ++ name.toList)) ++
      (between ++ ' ' :: (method ++ '(' :: arguments)))) = some (.method method) := by
    rw [← csharpMethod free letters arguments]
    simp
  have short (s : List Char) (fine : ∀ c ∈ s, c ≠ '\n') : Short (String.ofList s) := by
    rw [Short, String.toList_ofList]
    exact fun there => fine _ there rfl
  have head : Short opening := by
    rw [opens]
    exact short _ (List.forall_mem_append.mpr ⟨by simp, fine.1⟩)
  refine .framed 4 (fillBetween _ _ _ _ read rfl) (Text.shortAppend (Text.shortAppend head
    (Name.wordFree words (by decide))) (closes ▸ short _ fine.2)) ?_ rfl solid (by simp) item
  rw [opens, closes]
  simp

structure Flavor.Based (flavor : Flavor) : Prop where
  some : flavor.baseTypes ≠ []
  solid : ∀ base ∈ flavor.baseTypes, base ≠ ""
  plain : ∀ base ∈ flavor.baseTypes, ∀ c ∈ base.toList, Text.isBlank c = false ∧ c ≠ '('

theorem joinedSolid {items : List String} (some : items ≠ []) (solid : ∀ item ∈ items, item ≠ "")
    (visible : ∀ item ∈ items, ∀ c ∈ item.toList, Text.isBlank c = false ∧ c ≠ '(') :
    '(' ∉ (String.intercalate ", " items).toList ∧ (String.intercalate ", " items).toList ≠ [] ∧
      Text.stripEnd (String.intercalate ", " items).toList = (String.intercalate ", " items).toList := by
  induction items with
  | nil => exact absurd rfl some
  | cons item rest ih =>
    obtain ⟨first, later⟩ := List.forall_mem_cons.mp solid
    obtain ⟨here, there⟩ := List.forall_mem_cons.mp visible
    have free : '(' ∉ item.toList := fun member => (here _ member).2 rfl
    cases rest with
    | nil =>
      simpa [free, first] using Text.stripEndVisible fun c member => (here c member).1
    | cons next others =>
      obtain ⟨apart, long, ends⟩ := ih (List.cons_ne_nil _ _) later there
      rw [String.intercalate_cons_cons, String.toList_append, String.toList_append]
      refine ⟨?_, List.append_ne_nil_of_right_ne_nil _ long, ?_⟩
      · simp only [List.mem_append, not_or]
        exact ⟨⟨free, by decide⟩, apart⟩
      · rw [Text.stripEndSolid (ends.symm ▸ long), ends]

theorem headingListed {flavor : Flavor} (based : flavor.Based) (fine : flavor.Lined) {e : Entity}
    (words : Name.wellFormed e.name.toList = true) (options : Options)
    (columns : List (String × Column × String)) :
    Lists .csharp (scope flavor e options columns) [.line [.text "public partial class ",
      .hole (.name "class_name") .plain, .text " : ", .hole (.name "base_types") (.joined ", ")]]
      [.other] := by
  obtain ⟨free, long, ends⟩ := joinedSolid based.some based.solid based.plain
  have named : '(' ∉ e.name.toList := Name.wordFree words (by decide)
  have shown : (flavor.baseTypes.map Value.text).map Value.display = flavor.baseTypes := by
    rw [List.map_map]
    exact List.map_id _
  have filled : fillLine (scope flavor e options columns) [.text "public partial class ",
      .hole (.name "class_name") .plain, .text " : ", .hole (.name "base_types") (.joined ", ")] =
      .ok ("public partial class " ++ (e.name ++ (" : " ++
        (String.intercalate ", " ((flavor.baseTypes.map Value.text).map Value.display) ++ "")))) := rfl
  rw [shown, String.append_empty] at filled
  have item : Reader.csharp.read? ('p' :: ("ublic partial class ".toList ++ e.name.toList ++
      " : ".toList ++ (String.intercalate ", " flavor.baseTypes).toList)) = some .other := by
    have read (line : List Char) : Reader.csharp.read? ('p' :: ("ublic partial class ".toList ++ line)) =
        if ('p' :: ("ublic partial class ".toList ++ line)).contains '(' then
          some (.method (lastWord (upTo '(' ('p' :: ("ublic partial class ".toList ++ line)))))
        else some .other := rfl
    have apart : ¬ ('p' :: ("ublic partial class ".toList ++ (e.name.toList ++ (" : ".toList ++
        (String.intercalate ", " flavor.baseTypes).toList)))).contains '(' = true := by
      rw [List.contains_iff_mem]
      simp only [List.mem_cons, List.mem_append, not_or]
      exact ⟨by decide, by decide, named, by decide, free⟩
    rw [List.append_assoc, List.append_assoc, read, if_neg apart]
  refine .framed 0 filled ?_ ?_ rfl ends long item
  · exact Text.shortAppend (by decide) (Text.shortAppend (Name.wordFree words (by decide))
      (Text.shortAppend (by decide) (Text.shortJoined (by decide) fine.bases)))
  · simp

section Class
variable {flavor : Flavor} {e : Entity} {options : Options}

def fieldItems (column : String × Column × String) : List Item := [.field ('_' :: column.1.toList)]

def propertyItems (column : String × Column × String) : List Item :=
  [.property (Name.accessorOf column.1).toList] ++ if column.2.1.auto then [] else [.setter]

def getterItems (column : String × Column × String) : List Item :=
  [.entry column.1.toList (Name.accessorOf column.1).toList]

def setterItems (column : String × Column × String) : List Item :=
  if column.2.1.auto then [] else [.entry column.1.toList (Name.accessorOf column.1).toList]

def classItems (columns : List (String × Column × String)) : List (List Item) := [
  [.other], columns.flatMap fieldItems, [.other, .other], columns.flatMap propertyItems,
  [.other, .setter], [.method "Copy_Columns_To".toList], [.method "Copy_Columns_To".toList],
  [.method "Copy_Columns_To".toList], [.method "Get_Columns".toList],
  [.method "Get_Getters".toList], columns.flatMap getterItems, [.method "Get_Setters".toList],
  columns.flatMap setterItems, [.method "Set_Columns".toList]]

theorem settableListed {σ : Scope} {column : String × Column × String} {yes : List Block}
    {items : List Item}
    (inner : Lists .csharp (("column", columnView flavor column.1 column.2.1 column.2.2) :: σ) yes items) :
    Lists .csharp (("column", columnView flavor column.1 column.2.1 column.2.2) :: σ)
      [.when (.field "column" "has_setter") yes] (if column.2.1.auto then [] else items) := by
  have read : (Source.field "column" "has_setter").read
      (("column", columnView flavor column.1 column.2.1 column.2.2) :: σ) =
        .ok (.bool !column.2.1.auto) := rfl
  have lists := Lists.decided read fun _ => inner
  cases auto : column.2.1.auto <;> simpa [auto, Value.truthy] using lists

def Solid (native : String) : Prop :=
  native.toList ≠ [] ∧ ∀ c ∈ native.toList, Text.isBlank c = false

instance (native : String) : Decidable (Solid native) :=
  decidable_of_iff (native.toList ≠ [] ∧ native.toList.all (fun c => !Text.isBlank c) = true)
    (by simp [Solid])

set_option maxRecDepth 2000 in
theorem classListed (based : flavor.Based) (fine : flavor.Lined) (lined : e.Lined)
    (words : Name.wellFormed e.name.toList = true) {columns : List (String × Column × String)}
    (plain : ∀ column ∈ columns, Name.wellFormed column.1.toList = true ∧ Solid column.2.2) :
    Lists .csharp (scope flavor e options columns) csharpClass (classItems columns).flatten := by
  have short (column) (member : column ∈ columns) :
      Name.wellFormed column.1.toList = true ∧ Short column.2.2 :=
    ⟨(plain column member).1, fun there => absurd ((plain column member).2.2 _ there) (by decide)⟩
  have holds := scopeHints fine lined options options short
  have inside (column) (member : column ∈ columns) :
      ScopesHold Hint.Relates (("column", .row columnHints) :: hints)
        (("column", columnView flavor column.1 column.2.1 column.2.2) :: scope flavor e options columns)
        (("column", columnView flavor column.1 column.2.1 column.2.2) :: scope flavor e options columns) :=
    .cons (viewHints fine (short column member)) holds
  refine .skips 1 holds ?_ <| .within rfl (lined.joined (by decide)) (by decide) rfl rfl <|
    .skips 2 holds ?_ <|
    .cons (headingListed based fine words options columns) <|
    .skips 1 holds ?_ <|
    .cons (.each rfl fun column member =>
      .skips 2 (inside column member) ?_ <|
        fieldListed (plain column member).1 (plain column member).2.2) <|
    .cons (.fixed (by repeat' constructor) (by decide +kernel)) <|
    .cons (.each rfl fun column member =>
      .skips 3 (inside column member) ?_ <|
      .cons (propertyListed (plain column member).1 (plain column member).2.2 (plain column member).2.1) <|
      .skips 6 (inside column member) ?_ <| .ends (inside column member) ?_ <| settableListed <|
        .ends (inside column member) ?_ (.fixed (by repeat' constructor) (by decide +kernel))) <|
    .cons (.fixed (by repeat' constructor) (by decide +kernel)) <|
    .skips 1 holds ?_ <|
    .cons (methodListed words rfl [] [] rfl rfl (by decide +kernel)) <|
    .skips 2 holds ?_ <|
    .cons (methodListed words rfl [] [] rfl rfl (by decide +kernel)) <|
    .skips 2 holds ?_ <|
    .cons (methodListed words rfl [] [] rfl rfl (by decide +kernel)) <|
    .skips 2 holds ?_ <|
    .cons (.fixed (by repeat' constructor) (by decide +kernel)) <|
    .skips 1 holds ?_ <|
    .cons (.fixed (by repeat' constructor) (by decide +kernel)) <|
    .cons (.each rfl fun column member => getterListed (plain column member).1) <|
    .skips 2 holds ?_ <|
    .cons (methodListed words rfl _ ['>', '>'] rfl rfl (by decide +kernel)) <|
    .skips 3 holds ?_ <|
    .cons (.each rfl fun column member => settableListed <|
      setterListed (plain column member).1 (plain column member).2.2) <|
    .skips 2 holds ?_ <|
    .ends holds ?_ (methodListed words rfl [] [] rfl rfl (by decide +kernel))
  all_goals repeat' first
    | exact .nil
    | refine .lines (by repeat' constructor) (by decide +kernel) ?_
    | refine .line rfl (by decide +kernel) (by decide +kernel) ?_
    | refine .when (by decide +kernel) ?_ ?_
    | refine .each rfl ?_ ?_

end Class

end Emit.EntityFramework

end EntityForge
