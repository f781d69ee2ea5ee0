import EntityForge.Proofs.Readings

/-! What a generated file lists, read line by line: the fields, properties and methods of a class and
the entries of its tables. A template lists what its blocks list, one after the other; most of its
lines begin in a way that no item does. -/
namespace EntityForge
open Template
open Text (Short)

namespace Text

theorem stripFirst {s : List Char} {c : Char} (first : (stripStart s).head? = some c)
    (tail : List Char) : (strip (s ++ tail)).head? = some c := by
  obtain ⟨more, start⟩ := List.head?_eq_some_iff.mp first
  have visible : isBlank c = false := by
    have kept := List.head?_dropWhile_not isBlank s
    rw [← stripStart, first] at kept
    simpa using kept
  have begins : [c] <+: strip s := by
    rw [strip, start, stripEnd]
    split
    · simp [visible]
    · exact List.cons_prefix_cons.mpr ⟨rfl, List.nil_prefix⟩
  obtain ⟨rest, cut⟩ := stripExtends begins tail
  rw [← cut]
  rfl

def upTo (c : Char) (s : List Char) : List Char := s.takeWhile (· != c)

def past (c : Char) (s : List Char) : List Char := (s.dropWhile (· != c)).drop 1

section Cuts
variable {c : Char} {s : List Char} (free : c ∉ s) (tail : List Char)
include free

theorem upToCut : upTo c (s ++ c :: tail) = s := by
  rw [upTo, List.takeWhile_append_of_pos fun d member => by simpa using ne_of_mem_of_not_mem member free]
  simp

theorem pastCut : past c (s ++ c :: tail) = tail := by
  rw [past, List.dropWhile_append_of_pos fun d member => by simpa using ne_of_mem_of_not_mem member free]
  simp

end Cuts

theorem pastFree {c : Char} {s : List Char} (free : c ∉ s) : past c s = [] := by
  rw [past, ← List.append_nil s, List.dropWhile_append_of_pos fun d member => by
    simpa using ne_of_mem_of_not_mem member free]
  rfl

theorem stripFramed {c : Char} {tail : List Char} (first : isBlank c = false)
    (solid : stripEnd tail = tail) (some : tail ≠ []) (width : Nat) (mid : List Char) :
    strip (List.replicate width ' ' ++ c :: (mid ++ tail)) = c :: (mid ++ tail) := by
  have blank : Blank (List.replicate width ' ') := by simp [Blank, isBlank]
  have kept : stripEnd (c :: mid ++ tail) = c :: mid ++ tail := by
    rw [stripEndSolid (solid.symm ▸ some), solid]
  have start : stripStart (c :: mid ++ tail) = c :: mid ++ tail := by simp [stripStart, first]
  calc strip (List.replicate width ' ' ++ c :: (mid ++ tail))
    _ = strip (c :: mid ++ tail) := by simpa using stripAround blank .nil (c :: mid ++ tail)
    _ = c :: (mid ++ tail) := by rw [strip, start, kept, List.cons_append]

end Text

inductive Item where
  | field (name : List Char)
  | property (name : List Char)
  | setter
  | method (name : List Char)
  | entry (key member : List Char)
  | other
  deriving DecidableEq

/- How a language is read: the characters that the lines of items begin with, and the items of such
lines. -/
structure Reader where
  marks : List Char
  item? : List Char → Option Item

namespace Reader
variable (r : Reader)

def read? (line : List Char) : Option Item :=
  if line.head?.any r.marks.contains then r.item? line else none

def reads (content : String) : List Item :=
  (Text.lines content.toList).filterMap fun line => r.read? (Text.strip line)

def listed (texts : List String) : List Item :=
  (linesOf texts).filterMap fun line => r.read? (Text.strip line)

def passes (line : List Char) : Bool :=
  line.all (· != '\n') && (r.read? (Text.strip line)).isNone

def passesFrom (line : List Char) : Bool :=
  line.all (· != '\n') && (Text.stripStart line).head?.any (!r.marks.contains ·)

section Lines
variable {r}

theorem listedAppend (a b : List String) : r.listed (a ++ b) = r.listed a ++ r.listed b := by
  rw [listed, linesAppend, List.filterMap_append]
  rfl

theorem emptySkipped : r.read? [] = none := rfl

theorem hiddenSkipped (lines : List (List Char)) :
    (lines.filter Format.shown).filterMap (fun line => r.read? (Text.strip line)) =
      lines.filterMap fun line => r.read? (Text.strip line) := by
  rw [List.filterMap_filter]
  refine List.filterMap_congr fun line _ => ?_
  split
  next => rfl
  next hidden =>
    rw [Format.shownIff, not_not] at hidden
    rw [Text.stripNone hidden, emptySkipped]

theorem shownRead (lines : List (List Char)) :
    (Format.shownLines lines).filterMap (fun line => r.read? (Text.strip line)) =
      lines.filterMap fun line => r.read? (Text.strip line) := by
  rw [Format.shownLines, hiddenSkipped, List.filterMap_map]
  exact List.filterMap_congr fun line _ => congrArg r.read? (Text.stripOfEnd line)

theorem readsRendered {label : String} {template : Template} {σ : Scope} {options : Options}
    {content : String} (feed : options.lineEnding = .text "\n")
    (rendered : renderFormatted label template σ options = .ok content) :
    ∃ texts, fillAll σ template = .ok texts ∧ r.reads content = r.listed texts := by
  obtain ⟨texts, filled, shown⟩ := renderShown feed rendered
  exact ⟨texts, filled, by rw [reads, ← hiddenSkipped, shown, shownRead, listed]⟩

theorem listedLine {s : String} (short : Short s) :
    r.listed [s] = (r.read? (Text.strip s.toList)).toList := by
  rw [listed, linesOne, Text.shortLines short]
  cases found : r.read? (Text.strip s.toList) <;> simp [found]

theorem listedFrom {line : List Char} (passes : r.passesFrom line = true) {tail : String}
    (short : Short tail) : r.listed [String.ofList line ++ tail] = [] := by
  rw [passesFrom, Bool.and_eq_true, List.all_eq_true, Option.any_eq_true] at passes
  obtain ⟨free, c, first, other⟩ := passes
  have front : Short (String.ofList line) := by
    rw [Short, String.toList_ofList]
    exact fun newline => by simpa using free _ newline
  have begins := Text.stripFirst first tail.toList
  rw [listedLine (Text.shortAppend front short), String.toList_append, String.toList_ofList, read?,
    begins, if_neg (by simpa using other), Option.toList_none]

end Lines

theorem listedWrap {name : String} (short : Short name) (heading : 'n' ∉ r.marks)
    (opening : r.read? ['\x7b'] = none) (closing : r.read? ['\x7d'] = none) (body : List String) :
    r.listed (wrap name body) = r.listed body := by
  have some (lines : List (List Char)) :
      Format.shownLines (Text.someLine lines) = Format.shownLines lines := by
    cases lines <;> rfl
  have first : r.listed ["namespace " ++ name] = [] := by
    have passes : r.passesFrom ['n', 'a', 'm', 'e', 's', 'p', 'a', 'c', 'e', ' '] = true := by
      have start : Text.stripStart ['n', 'a', 'm', 'e', 's', 'p', 'a', 'c', 'e', ' '] =
        ['n', 'a', 'm', 'e', 's', 'p', 'a', 'c', 'e', ' '] := by decide
      rw [passesFrom, start]
      simp [heading]
    exact listedFrom passes short
  have inner : ((Text.someLine (Format.trimEnd (linesOf body))).map (Text.indentLine 4)).filterMap
      (fun line => r.read? (Text.strip line)) = r.listed body := by
    rw [List.filterMap_map, listed, ← shownRead (linesOf body), ← Format.shownTrim, ← some, shownRead]
    exact List.filterMap_congr fun line _ => congrArg r.read? (Text.stripOfIndent 4 line)
  have second : r.listed ["\x7b"] = [] := (listedLine (by decide)).trans (congrArg _ opening)
  have last : r.listed ["\x7d"] = [] := (listedLine (by decide)).trans (congrArg _ closing)
  have front : r.listed ["namespace " ++ name, "\x7b"] = [] := by
    rw [← List.singleton_append, listedAppend, first, second, List.nil_append]
  rw [listed, linesWrap, List.filterMap_append, List.filterMap_append, inner]
  rw [listed] at front
  rw [front, List.nil_append]
  exact (congrArg _ last).trans (List.append_nil _)

inductive Spells : List String → List (List Char) → Prop where
  | nil : Spells [] []
  | cons {s cs texts more} (spelled : s = String.ofList cs) (later : Spells texts more) :
      Spells (s :: texts) (cs :: more)

inductive Silent (r : Reader) : Context Hint → List Block → Prop where
  | nil {Γ} : Silent r Γ []
  | lines {Γ texts css rest} (spelled : Spells texts css) (passes : css.all r.passes = true)
      (later : Silent r Γ rest) : Silent r Γ (.lines texts :: rest)
  | line {Γ s cs pieces rest} (spelled : s = String.ofList cs) (passes : r.passesFrom cs = true)
      (plain : pieces.all (Hint.wordPiece Γ) = true) (later : Silent r Γ rest) :
      Silent r Γ (.line (.text s :: pieces) :: rest)
  | when {Γ condition yes rest} (known : (Hint.of? Γ condition).isSome = true)
      (inner : Silent r Γ yes) (later : Silent r Γ rest) : Silent r Γ (.when condition yes :: rest)
  | each {Γ item source form body rest} (items : source.items? Γ = some form)
      (inner : Silent r ((item, form) :: Γ) body) (later : Silent r Γ rest) :
      Silent r Γ (.each item source body :: rest)

def Lists (r : Reader) (σ : Scope) (blocks : List Block) (items : List Item) : Prop :=
  ∃ texts, fillAll σ blocks = .ok texts ∧ r.listed texts = items

namespace Lists
variable {r : Reader} {σ : Scope} {block : Block} {rest : List Block} {xs ys : List Item}

theorem nil : Lists r σ [] [] := ⟨[], rfl, rfl⟩

theorem cons (here : Lists r σ [block] xs) (later : Lists r σ rest ys) :
    Lists r σ (block :: rest) (xs ++ ys) := by
  obtain ⟨l, first, rfl⟩ := here
  obtain ⟨m, more, rfl⟩ := later
  exact ⟨l ++ m, fillCons (fillSole first) more, listedAppend l m⟩

theorem lines {texts : List String} {css : List (List Char)} (spelled : Spells texts css)
    (short : css.all (·.all (· != '\n')) = true) :
    Lists r σ [.lines texts] (css.filterMap fun line => r.read? (Text.strip line)) := by
  refine ⟨texts, fillOne (fillLines texts), ?_⟩
  induction spelled with
  | nil => rfl
  | @cons s cs texts more spelled _ ih =>
    subst spelled
    rw [List.all_cons, Bool.and_eq_true, List.all_eq_true] at short
    have free : Short (String.ofList cs) := by
      rw [Short, String.toList_ofList]
      exact fun newline => by simpa using short.1 _ newline
    rw [← List.singleton_append, listedAppend, ih short.2, listedLine free, String.toList_ofList]
    cases found : r.read? (Text.strip cs) <;> simp [found]

theorem fixed {texts : List String} {css : List (List Char)} {items : List Item}
    (spelled : Spells texts css) (read : (css.all (·.all (· != '\n')) &&
      css.filterMap (fun line => r.read? (Text.strip line)) == items) = true) :
    Lists r σ [.lines texts] items := by
  rw [Bool.and_eq_true, beq_iff_eq] at read
  exact read.2 ▸ .lines spelled read.1

theorem passed {texts : List String} {css : List (List Char)} (spelled : Spells texts css)
    (passes : css.all r.passes = true) : Lists r σ [.lines texts] [] := by
  rw [List.all_eq_true] at passes
  have short : css.all (·.all (· != '\n')) = true :=
    List.all_eq_true.mpr fun line member => (Bool.and_eq_true_iff.mp (passes line member)).1
  have none : css.filterMap (fun line => r.read? (Text.strip line)) = [] :=
    List.filterMap_eq_nil_iff.mpr fun line member =>
      Option.isNone_iff_eq_none.mp (Bool.and_eq_true_iff.mp (passes line member)).2
  exact none ▸ .lines spelled short

theorem line {pieces : List Piece} {s : String} (filled : fillLine σ pieces = .ok s) (short : Short s)
    {item : Item} (found : r.read? (Text.strip s.toList) = some item) :
    Lists r σ [.line pieces] [item] := by
  refine ⟨[s], fillOne (fillLineBlock filled), ?_⟩
  rw [listedLine short, found]
  rfl

theorem decided {condition : Source} {value : Value} (read : condition.read σ = .ok value)
    {yes : List Block} (inner : value.truthy = true → Lists r σ yes xs) :
    Lists r σ [.when condition yes] (if value.truthy then xs else []) := by
  cases truth : value.truthy with
  | true =>
    obtain ⟨l, filled, said⟩ := inner truth
    exact ⟨l, fillOne (by rw [fillWhen read, if_pos truth, filled]), by rw [said, if_pos rfl]⟩
  | false =>
    exact ⟨[], fillOne (by rw [fillWhen read, if_neg (by simp [truth])]), rfl⟩

theorem forEach {α : Type} {item : String} {body : List Block} {rows : List α} {view : α → Value}
    {said : α → List Item} (every : ∀ x ∈ rows, Lists r ((item, view x) :: σ) body (said x)) :
    ∃ texts, Template.forEach (fun inner => fillAll inner body) item σ (rows.map view) = .ok texts ∧
      r.listed texts = rows.flatMap said := by
  induction rows with
  | nil => exact ⟨[], rfl, rfl⟩
  | cons x rest ih =>
    obtain ⟨here, later⟩ := List.forall_mem_cons.mp every
    obtain ⟨l, first, said⟩ := here
    obtain ⟨m, more, others⟩ := ih later
    refine ⟨l ++ m, ?_, ?_⟩
    · rw [List.map_cons, Template.forEach, first, more]
      rfl
    · rw [listedAppend, said, others, List.flatMap_cons]

theorem each {α : Type} {item : String} {source : Source} {body : List Block} {rows : List α}
    {view : α → Value} {said : α → List Item}
    (read : source.read σ = .ok (.list (rows.map view)))
    (every : ∀ x ∈ rows, Lists r ((item, view x) :: σ) body (said x)) :
    Lists r σ [.each item source body] (rows.flatMap said) := by
  obtain ⟨texts, filled, said⟩ := forEach every
  refine ⟨texts, fillOne ?_, said⟩
  rw [Block.fill, read]
  exact filled

theorem within {source : Source} {name : String} {body : List Block}
    (read : source.read σ = .ok (.text name)) (short : Short name) (heading : 'n' ∉ r.marks)
    (opening : r.read? ['\x7b'] = none) (closing : r.read? ['\x7d'] = none)
    (inner : Lists r σ body xs) : Lists r σ [.within source body] xs := by
  obtain ⟨l, filled, said⟩ := inner
  refine ⟨_, fillOne (fillWithin read filled), ?_⟩
  split
  next => exact (listedWrap r short heading opening closing l).trans said
  next =>
    have blank : Short "" := List.not_mem_nil
    have gap : r.read? (Text.strip "".toList) = none := emptySkipped
    rw [listedAppend, said, listedLine blank, gap, Option.toList_none, List.append_nil]

end Lists

theorem silentLists {r : Reader} {Γ : Context Hint} {blocks : List Block} (silent : Silent r Γ blocks)
    {σ : Scope} (holds : ScopesHold Hint.Relates Γ σ σ) : Lists r σ blocks [] := by
  induction silent generalizing σ with
  | nil => exact .nil
  | lines spelled passes _ later => exact (Lists.passed spelled passes).cons (later holds)
  | @line Γ s cs pieces rest spelled passes plain _ later =>
    subst spelled
    obtain ⟨tail, filled, _, short⟩ := Hint.wordLine holds plain
    have said : fillLine σ (.text (String.ofList cs) :: pieces) = .ok (String.ofList cs ++ tail) := by
      rw [fillLine, filled]
      rfl
    exact Lists.cons ⟨_, fillOne (fillLineBlock said), listedFrom passes short⟩ (later holds)
  | when known _ _ inner later =>
    obtain ⟨hint, given⟩ := Option.isSome_iff_exists.mp known
    obtain ⟨v, _, read, _⟩ := Hint.ofHolds holds given
    have none := Lists.decided read fun _ => inner holds
    rw [ite_self] at none
    exact none.cons (later holds)
  | @each Γ item source form body rest items _ _ inner later =>
    obtain ⟨v, w, left, right, vs, ws, first, second, related⟩ := itemsHold holds items
    cases left.symm.trans right
    cases first.symm.trans second
    have every : ∀ x ∈ vs, Lists r ((item, x) :: σ) body [] := fun x member =>
      inner (.cons (List.forall₂_same.mp related x member) holds)
    obtain ⟨texts, filled, none⟩ := Lists.forEach every
    rw [List.flatMap_eq_nil_iff.mpr fun _ _ => rfl] at none
    rw [List.map_id'] at filled
    refine Lists.cons ⟨texts, fillOne ?_, none⟩ (later holds)
    rw [Block.fill, left]
    simpa [bind, Except.bind, first] using filled

theorem Lists.skips {r : Reader} {σ : Scope} {Γ : Context Hint} {blocks : List Block} {items : List Item}
    (n : Nat) (holds : ScopesHold Hint.Relates Γ σ σ) (silent : Silent r Γ (blocks.take n))
    (later : Lists r σ (blocks.drop n) items) : Lists r σ blocks items := by
  obtain ⟨l, first, none⟩ := silentLists silent holds
  obtain ⟨m, more, said⟩ := later
  refine ⟨l ++ m, ?_, by rw [listedAppend, none, said, List.nil_append]⟩
  rw [← fillAllAppend _ first more, List.take_append_drop]

theorem Lists.ends {r : Reader} {σ : Scope} {Γ : Context Hint} {block : Block} {rest : List Block}
    {items : List Item} (holds : ScopesHold Hint.Relates Γ σ σ) (silent : Silent r Γ rest)
    (here : Lists r σ [block] items) : Lists r σ (block :: rest) items := by
  simpa using here.cons (silentLists silent holds)

theorem Lists.framed {r : Reader} {σ : Scope} (width : Nat) {pieces : List Piece} {s : String}
    (filled : fillLine σ pieces = .ok s) (short : Short s) {c : Char} {mid tail : List Char}
    (cut : s.toList = List.replicate width ' ' ++ c :: (mid ++ tail)) (first : Text.isBlank c = false)
    (solid : Text.stripEnd tail = tail) (some : tail ≠ []) {item : Item}
    (read : r.read? (c :: (mid ++ tail)) = .some item) : Lists r σ [.line pieces] [item] :=
  .line filled short (by rw [cut, Text.stripFramed first solid some, read])

end Reader

theorem fillTwice {σ : Scope} {v w : Value} {s t : String} {source source' : Source}
    {style style' : Style} {opening between closing : String} (read : source.read σ = .ok v)
    (written : style.write v = .ok s) (read' : source'.read σ = .ok w)
    (written' : style'.write w = .ok t) : fillLine σ [.text opening, .hole source style,
      .text between, .hole source' style', .text closing] =
        .ok (opening ++ s ++ (between ++ t ++ closing)) := by
  have back := fillBetween source' style' between closing read' written'
  rw [fillLine, fillLine, Piece.fill, Piece.fill, read, back]
  simp [written, bind, Except.bind, pure, Except.pure, String.append_assoc]

end EntityForge
