import EntityForge.Proofs.Listings

/-! The members of a Doctrine class. The template has a loop for the fields, one for the accessors and
one for each of the tables that give the accessors by name; what is read off the file is what the loops
say of the columns, and the methods of the class between them. -/
namespace EntityForge
open Template
open Text (Short upTo past upToCut pastCut)

def Reader.php : Reader where
  marks := ['p', '\'']
  item? line :=
    if ['\''].isPrefixOf line then
      some (.entry (upTo '\'' (past '\'' line)) (upTo '\'' (past '\'' (past '\'' (past '\'' line)))))
    else if "protected $".toList.isPrefixOf line then some (.field (upTo ';' (past '$' line)))
    else if "public function ".toList.isPrefixOf line then
      some (.method (upTo '(' (past ' ' (past ' ' line))))
    else none

namespace Emit.Doctrine
open Reader

section Lines
variable {σ : Scope}

theorem methodListed {source : Source} {method : String}
    (letters : ∀ c ∈ method.toList, c.isAlphanum = true) (read : source.read σ = .ok (.text method))
    {closing : String} (single : Short closing) (arguments : String)
    (closes : closing.toList = '(' :: arguments.toList ++ ['\x7b']) :
    Lists .php σ [.line [.text "    public function ", .hole source .plain, .text closing]]
      [.method method.toList] := by
  have free : '(' ∉ method.toList := fun there => absurd (letters _ there) (by decide)
  have short : Short method := fun there => absurd (letters _ there) (by decide)
  have cut : method.toList ++ '(' :: arguments.toList ++ ['\x7b'] =
      method.toList ++ '(' :: (arguments.toList ++ ['\x7b']) := by
    simp
  have item : Reader.php.read? ('p' :: (("ublic function ".toList ++ (method.toList ++
      '(' :: arguments.toList)) ++ ['\x7b'])) = some (.method method.toList) := by
    have read (line : List Char) : Reader.php.read? ('p' :: ("ublic function ".toList ++ line)) =
        some (.method (upTo '(' line)) := rfl
    rw [List.append_assoc, read, cut, upToCut free]
  refine .framed 4 (fillBetween _ _ _ _ read rfl)
    (Text.shortAppend (Text.shortAppend (by decide) short) single) ?_ rfl rfl (List.cons_ne_nil _ _) item
  rw [String.toList_append, String.toList_append, closes]
  simp

variable {name : String} (words : Name.wellFormed name.toList = true) (c : Column)
  (native : String)
include words

theorem fieldListed : Lists .php (("column", columnView name c native) :: σ)
    [.line [.text "    protected $", .hole (.field "column" "name") .plain, .text ";"]]
    [.field name.toList] := by
  have free : ';' ∉ name.toList := Name.wordFree words (by decide)
  have short : Short name := Name.wordFree words (by decide)
  have item : Reader.php.read? ('p' :: (("rotected $".toList ++ name.toList) ++ [';'])) =
      some (.field (upTo ';' (name.toList ++ [';']))) := rfl
  rw [upToCut free] at item
  refine .framed 4 (fillBetween _ _ _ _ rfl rfl)
    (Text.shortAppend (Text.shortAppend (by decide) short) (by decide)) ?_ rfl rfl (List.cons_ne_nil _ _) item
  rw [String.toList_append, String.toList_append]
  rfl

theorem entryListed {source : Source} {method : String}
    (letters : ∀ c ∈ method.toList, c.isAlphanum = true)
    (read : source.read (("column", columnView name c native) :: σ) = .ok (.text method)) :
    Lists .php (("column", columnView name c native) :: σ)
      [.line [.text "            '", .hole (.field "column" "name") .plain,
        .text "' => array($this, '", .hole source .plain, .text "'),"]]
      [.entry name.toList method.toList] := by
  have free : '\'' ∉ method.toList := fun there => absurd (letters _ there) (by decide)
  have single : Short method := fun there => absurd (letters _ there) (by decide)
  have apart : '\'' ∉ name.toList := Name.wordFree words (by decide)
  have short : Short name := Name.wordFree words (by decide)
  have between : '\'' ∉ " => array($this, ".toList := by decide
  have cut : (name.toList ++ "' => array($this, '".toList ++ method.toList ++ "')".toList) ++ [','] =
      name.toList ++ '\'' :: (" => array($this, ".toList ++ '\'' ::
        (method.toList ++ '\'' :: "),".toList)) := by
    simp
  have front (s : List Char) : past '\'' ('\'' :: s) = s := rfl
  have item : Reader.php.read? ('\'' :: ((name.toList ++ "' => array($this, '".toList ++
      method.toList ++ "')".toList) ++ [','])) = some (.entry name.toList method.toList) := by
    have read (line : List Char) : Reader.php.read? ('\'' :: line) =
        some (.entry (upTo '\'' line) (upTo '\'' (past '\'' (past '\'' line)))) := rfl
    rw [read, cut, upToCut apart, pastCut apart, pastCut between, upToCut free]
  refine .framed 12 (fillTwice rfl rfl read rfl) ?_ ?_ rfl rfl (List.cons_ne_nil _ _) item
  · exact Text.shortAppend (Text.shortAppend (by decide) short)
      (Text.shortAppend (Text.shortAppend (by decide) single) (by decide))
  · simp [Value.display]

end Lines

section Class
variable {e : Entity} {options : Options}

def fieldItems (column : String × Column × String) : List Item := [.field column.1.toList]

def methodItems (column : String × Column × String) : List Item :=
  [.method ("get" ++ Name.accessorOf column.1).toList] ++
    if column.2.1.auto then [] else [.method ("set" ++ Name.accessorOf column.1).toList]

def getterItems (column : String × Column × String) : List Item :=
  [.entry column.1.toList ("get" ++ Name.accessorOf column.1).toList]

def setterItems (column : String × Column × String) : List Item :=
  if column.2.1.auto then [] else [.entry column.1.toList ("set" ++ Name.accessorOf column.1).toList]

def classItems (columns : List (String × Column × String)) : List (List Item) := [
  columns.flatMap fieldItems, [.method "__construct".toList], columns.flatMap methodItems,
  [.method "copy_columns_to".toList], [.method "get_columns".toList], [.method "get_getters".toList],
  columns.flatMap getterItems, [.method "get_setters".toList], columns.flatMap setterItems,
  ["set_columns", "offsetExists", "offsetGet", "offsetSet", "offsetUnset"].map
    fun name => .method name.toList]

theorem kindLetters {kind name : String} (front : kind.toList.all Char.isAlphanum = true)
    (words : Name.wellFormed name.toList = true) :
    ∀ c ∈ (kind ++ Name.accessorOf name).toList, c.isAlphanum = true := by
  rw [String.toList_append]
  exact List.forall_mem_append.mpr ⟨List.all_eq_true.mp front, Name.accessorLetters words⟩

theorem settableListed {σ : Scope} {column : String × Column × String} {yes : List Block}
    {items : List Item} (inner : (Source.field "column" "setter").read
      (("column", columnView column.1 column.2.1 column.2.2) :: σ) =
        .ok (.text ("set" ++ Name.accessorOf column.1)) →
      Lists .php (("column", columnView column.1 column.2.1 column.2.2) :: σ) yes items) :
    Lists .php (("column", columnView column.1 column.2.1 column.2.2) :: σ)
      [.when (.field "column" "setter") yes] (if column.2.1.auto then [] else items) := by
  have read : (Source.field "column" "setter").read
      (("column", columnView column.1 column.2.1 column.2.2) :: σ) =
        .ok (if column.2.1.auto then .null else .text ("set" ++ Name.accessorOf column.1)) := rfl
  cases auto : column.2.1.auto with
  | true =>
    rw [auto] at read
    have none : Lists .php _ [Block.when _ yes] (if Value.null.truthy then items else []) :=
      .decided read nofun
    exact none
  | false =>
    rw [auto] at read
    have named : (Value.text ("set" ++ Name.accessorOf column.1)).truthy = true := by
      simp [Value.truthy]
    have lists := Lists.decided read fun _ => inner read
    rwa [if_neg Bool.false_ne_true, if_pos named] at lists

set_option maxRecDepth 2000 in
theorem classListed (lined : e.Lined) {columns : List (String × Column × String)}
    (plain : ∀ column ∈ columns, Name.wellFormed column.1.toList = true ∧ Short column.2.2) :
    Lists .php (scope e options columns) phpClass (classItems columns).flatten := by
  have holds := scopeHints lined options options plain
  have inside (column) (member : column ∈ columns) :
      ScopesHold Hint.Relates (("column", .row columnHints) :: hints)
        (("column", columnView column.1 column.2.1 column.2.2) :: scope e options columns)
        (("column", columnView column.1 column.2.1 column.2.2) :: scope e options columns) :=
    .cons (viewHints (plain column member)) holds
  have letters {kind : String} (front : kind.toList.all Char.isAlphanum = true) (column)
      (member : column ∈ columns) := kindLetters front (plain column member).1
  have get : "get".toList.all Char.isAlphanum = true := by decide
  have set : "set".toList.all Char.isAlphanum = true := by decide
  refine .skips 10 holds ?_ <|
    .cons (.each rfl fun column member =>
      .skips 2 (inside column member) ?_ <| .ends (inside column member) ?_ <|
        fieldListed (plain column member).1 _ _) <|
    .skips 1 holds ?_ <|
    .cons (.fixed (by repeat' constructor) (by decide +kernel)) <|
    .cons (.each rfl fun column member =>
      .skips 2 (inside column member) ?_ <| .cons (
        methodListed (letters get column member) rfl (by decide) ") " rfl) <|
      .skips 5 (inside column member) ?_ <| settableListed fun read =>
        .skips 2 (inside column member) ?_ <| .ends (inside column member) ?_ <|
          methodListed (letters set column member) read (by decide) "$newValue) " rfl) <|
    .skips 2 holds ?_ <|
    .cons (.fixed (by repeat' constructor) (by decide +kernel)) <|
    .skips 1 holds ?_ <|
    .cons (.fixed (by repeat' constructor) (by decide +kernel)) <|
    .skips 1 holds ?_ <|
    .cons (.fixed (by repeat' constructor) (by decide +kernel)) <|
    .cons (.each rfl fun column member =>
      entryListed (plain column member).1 _ _ (letters get column member) rfl) <|
    .skips 2 holds ?_ <|
    .cons (.fixed (by repeat' constructor) (by decide +kernel)) <|
    .cons (.each rfl fun column member => settableListed fun read =>
      entryListed (plain column member).1 _ _ (letters set column member) read) <|
    .skips 2 holds ?_ <|
    .cons (.fixed (by repeat' constructor) (by decide +kernel)) .nil
  all_goals repeat' first
    | exact .nil
    | refine .lines (by repeat' constructor) (by decide +kernel) ?_
    | refine .line rfl (by decide +kernel) (by decide +kernel) ?_
    | refine .when (by decide +kernel) ?_ ?_

end Class

end Emit.Doctrine

end EntityForge
