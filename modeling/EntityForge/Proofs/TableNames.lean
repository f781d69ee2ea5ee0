import EntityForge.Proofs.Columns
import EntityForge.Proofs.Frames
import EntityForge.Proofs.SharedLayout

/-! Where the table name of an entity stands. The class of every target has it in one line of its own,
which declares the table, and with comments those of Entity Framework also in their summary. Names
without line breaks stay there; the name is not kept from ending the comment it is put into. -/
namespace EntityForge
open Template Layout
open List (Forall₂)

namespace Text

theorem doubledShort (s : String) : Short (doubled s) ↔ Short s := by
  have inner (cs : List Char) : '\n' ∈ doubleQuotes cs ↔ '\n' ∈ cs := by
    induction cs with
    | nil => rfl
    | cons c rest ih =>
      unfold doubleQuotes
      split
      next quote => simp [quote, ih]
      next => simp [ih]
  simp [Short, doubled, inner]

theorem literalShort (s : String) : Short (literal s) ↔ Short s := by
  have inner (cs : List Char) : '\n' ∈ escapeLiteral cs ↔ '\n' ∈ cs := by
    induction cs with
    | nil => rfl
    | cons c rest ih =>
      unfold escapeLiteral
      split <;> simp [ih]
  simp [Short, literal, inner]

theorem doubledBetween (front s back : String) : (front ++ doubled s ++ back).toList =
    front.toList ++ '"' :: (doubleQuotes s.toList ++ '"' :: back.toList) := by
  simp [doubled]

theorem endsBehind {front back : List Char} (free : '/' ∉ front) (other : back.head? ≠ some '/') :
    ['*', '/'] <:+: front ++ back ↔ ['*', '/'] <:+: back := by
  induction front with
  | nil => rfl
  | cons c rest ih =>
    simp only [List.mem_cons, not_or] at free
    have next : ¬ ['/'] <+: rest ++ back := by
      cases rest with
      | nil =>
        rintro ⟨more, rfl⟩
        exact other rfl
      | cons d more =>
        intro slash
        exact free.2 (List.mem_cons.mpr (.inl (List.cons_prefix_cons.mp slash).1))
    rw [List.cons_append, List.infix_cons_iff, List.cons_prefix_cons, ih free.2]
    simp [next]

theorem doubledEnds (s tail : List Char) :
    ['*', '/'] <:+: doubleQuotes s ++ '"' :: tail ↔ ['*', '/'] <:+: s ∨ ['*', '/'] <:+: tail := by
  induction s with
  | nil => simp [doubleQuotes, List.infix_cons_iff, List.cons_prefix_cons]
  | cons c rest ih =>
    by_cases quote : c = '"'
    · subst quote
      simp [doubleQuotes, List.infix_cons_iff, List.cons_prefix_cons, ih]
    · have next : ['/'] <+: doubleQuotes rest ++ '"' :: tail ↔ ['/'] <+: rest := by
        cases rest with
        | nil => simp [doubleQuotes, List.cons_prefix_cons]
        | cons d more =>
          by_cases quote : d = '"' <;> simp [doubleQuotes, quote, List.cons_prefix_cons]
      rw [doubleQuotes, if_neg quote, List.cons_append, List.infix_cons_iff, List.infix_cons_iff,
        List.cons_prefix_cons, List.cons_prefix_cons, next, ih, or_assoc]

end Text

def annotationLine (table : String) : String := " * @Entity @Table(name=" ++ Text.doubled table ++ ")"

def summaryLine (table : String) : String := "/// An entity of the '" ++ table ++ "' table."

def classicLine (table : String) : String :=
  "[global::System.Data.Linq.Mapping.Table(Name = " ++ Text.literal table ++ ")]"

def coreLine (table : String) : String :=
  "[" ++ Emit.EntityFramework.annotations ++ ".Schema.Table(" ++ Text.literal table ++ ")]"

def Target.tableLines (t : Target) (options : Options) : List (String → String) :=
  match t with
  | .doctrine => [annotationLine]
  | .entityFramework => (if options.comments then [summaryLine] else []) ++ [classicLine]
  | .entityFrameworkCore => (if options.comments then [summaryLine] else []) ++ [coreLine]

def commentEnd : List Char := ['*', '/']

theorem annotationEnds (table : String) :
    commentEnd <:+: (annotationLine table).toList ↔ commentEnd <:+: table.toList := by
  have opening : '/' ∉ " * @Entity @Table(name=".toList := by decide +kernel
  have bracket : ¬ commentEnd <:+: ")".toList := by decide +kernel
  have cut : (annotationLine table).toList = _ :=
    Text.doubledBetween " * @Entity @Table(name=" table ")"
  rewrite [cut]
  refine (Text.endsBehind opening (by simp)).trans ?_
  rw [List.infix_cons_iff, List.cons_prefix_cons, Text.doubledEnds]
  exact ⟨fun ends => (ends.resolve_left (by simp)).resolve_right bracket, fun ends => .inr (.inl ends)⟩

theorem annotationPlace : Place annotationLine fun s => Text.lines (annotationLine s).toList :=
  .between Text.doubledShort ⟨by decide, by decide⟩ (by decide) ⟨')', by decide, by decide⟩

theorem summaryPlace : Place summaryLine fun s => Text.lines (summaryLine s).toList :=
  .between (fun _ => Iff.rfl) ⟨by decide, by decide⟩ (by decide) ⟨'.', by decide, by decide⟩

theorem classicPlace : Place classicLine fun s => Text.lines (classicLine s).toList :=
  .between Text.literalShort ⟨by decide, by decide⟩ (by decide) ⟨']', by decide, by decide⟩

theorem corePlace : Place coreLine fun s => Text.lines (coreLine s).toList :=
  .between Text.literalShort ⟨by decide, by decide⟩ (by decide) ⟨']', by decide, by decide⟩

namespace Template

theorem linesOne (s : String) : linesOf [s] = Text.lines s.toList := List.append_nil _

theorem trimSome {lines : List String} {s : String} (member : s ∈ lines) (short : Text.Short s)
    (visible : Visible s.toList) : Format.trimEnd (linesOf lines) ≠ [] := by
  intro none
  have single : s.toList ∈ linesOf lines :=
    List.mem_flatMap.mpr ⟨s, member, by simp [Text.shortLines short]⟩
  exact visible (Format.trimNil.mp none _ single)

end Template

namespace Emit.Doctrine

def tableScope (e : Entity) (options : Options) (columns : List (String × Column × String))
    (table : String) : Scope := scope { e with table } options columns

theorem tableScopeHolds (e : Entity) (options : Options) (columns : List (String × Column × String))
    (s : String) : ScopesHold agreement.alike
      (Context.without ["table_name"] (context true true true))
      (tableScope e options columns "") (tableScope e options columns s) := by
  refine holdsWithout (scopeSelf _ options columns) ?_
  simp [tableScope, scope, Entity.qualifiedName]

theorem classCut : ∃ front back, phpClass = front ++
    (.line [.text " * @Entity @Table(name=", .hole (.name "table_name") .doubled, .text ")"] ::
      .lines [" **/"] :: back) ∧
    agreement.admitsAll (Context.without ["table_name"] (context true true true)) front = true ∧
    agreement.admitsAll (Context.without ["table_name"] (context true true true)) back = true :=
  ⟨phpClass.take 5, phpClass.drop 7, rfl, by decide +kernel, by decide +kernel⟩

theorem classFramed (e : Entity) (options : Options) (columns : List (String × Column × String)) :
    ∃ f back, Framed [annotationLine] f ∧ Format.trimEnd back ≠ [] ∧
      ∀ s, ∃ lines, fillAll (tableScope e options columns s) phpClass = .ok lines ∧
        linesOf lines = f s ++ back := by
  obtain ⟨front, back, cut, first, last⟩ := classCut
  obtain ⟨l, before⟩ := fillFixed (tableScopeHolds e options columns) first
  obtain ⟨m, behind⟩ := fillFixed (tableScopeHolds e options columns) last
  refine ⟨fun s => linesOf l ++ Text.lines (annotationLine s).toList, linesOf (" **/" :: m),
    .append (.fixed _) (.place annotationPlace), ?_, fun s => ⟨l ++ annotationLine s :: " **/" :: m, ?_, ?_⟩⟩
  · exact trimSome (s := " **/") List.mem_cons_self (by decide) (by decide)
  · rw [cut]
    refine fillAllAppend front (before s) ?_
    have declared := fillBetween (σ := tableScope e options columns s) (.name "table_name") .doubled
      " * @Entity @Table(name=" ")" rfl rfl
    exact fillCons (fillLineBlock declared) (fillCons (fillLines [" **/"]) (behind s))
  · rw [linesAppend, List.append_assoc]
    rfl

end Emit.Doctrine

namespace Emit.EntityFramework

def tableScope (flavor : Flavor) (e : Entity) (options : Options)
    (columns : List (String × Column × String)) (table : String) : Scope :=
  scope flavor { e with table } options columns

def tableContext : Context Bool :=
  Context.without ["table_name", "class_attributes"]
    (context true true true (.many true) (.many true))

section Class
variable (flavor : Flavor) (e : Entity) (options : Options) (columns : List (String × Column × String))

theorem tableScopeHolds (s : String) : ScopesHold agreement.alike tableContext
    (tableScope flavor e options columns "") (tableScope flavor e options columns s) := by
  refine holdsWithout (scopeSelf flavor _ options columns) ?_
  simp [tableScope, scope]

def summaryBlock : Block :=
  .when (.name "add_comments") [
    .lines ["/// <summary>"],
    .line [.text "/// An entity of the '", .hole (.name "table_name") .plain, .text "' table."],
    .lines ["/// </summary>"]]

def attributesBlock : Block :=
  .each "attribute" (.name "class_attributes") [
    .line [.text "[", .hole (.name "attribute") .plain, .text "]"]]

theorem classCut : ∃ header head more rest, csharpClass = [header,
      .within (.name "cs_namespace")
        (summaryBlock :: attributesBlock :: .line head :: .lines ("\x7b" :: more) :: rest)] ∧
    agreement.admitsAll tableContext [header] = true ∧
    agreement.admitsAll tableContext [.line head] = true ∧
    agreement.admitsAll tableContext rest = true :=
  ⟨_, _, _, _, rfl, by decide +kernel, by decide +kernel, by decide +kernel⟩

theorem summaryFill (s : String) : summaryBlock.fill (tableScope flavor e options columns s) =
    .ok (if options.comments then ["/// <summary>", summaryLine s, "/// </summary>"] else []) := by
  have read : (Source.name "add_comments").read (tableScope flavor e options columns s) =
      .ok (.bool options.comments) := rfl
  rw [summaryBlock, Block.fill, read]
  cases options.comments with
  | false => rfl
  | true =>
    have said := fillBetween (σ := tableScope flavor e options columns s) (.name "table_name") .plain
      "/// An entity of the '" "' table." rfl rfl
    exact fillCons (fillLines _) (fillCons (fillLineBlock said) (fillOne (fillLines _)))

theorem summaryFramed : ∃ f, Framed (if options.comments then [summaryLine] else []) f ∧
    ∀ s, ∃ l, summaryBlock.fill (tableScope flavor e options columns s) = .ok l ∧
      linesOf l = f s := by
  have filled := summaryFill flavor e options columns
  cases comments : options.comments with
  | false =>
    simp only [comments] at filled
    exact ⟨fun _ => [], .fixed _, fun s => ⟨_, filled s, rfl⟩⟩
  | true =>
    simp only [comments] at filled
    exact ⟨_, .append (.fixed (linesOf ["/// <summary>"])) (.append (.place summaryPlace)
      (.fixed (linesOf ["/// </summary>"]))), fun s => ⟨_, filled s, rfl⟩⟩

theorem attributesFill (s : String) : attributesBlock.fill (tableScope flavor e options columns s) =
    .ok ((flavor.classAttributes s).map (bracketed "[")) := by
  have read : (Source.name "class_attributes").read (tableScope flavor e options columns s) =
      .ok (texts (flavor.classAttributes s)) := rfl
  rw [attributesBlock, Block.fill, read]
  exact Known.bracketsFill _ _ _ _

theorem bodyFilled {s : String} {head : List Piece} {more heads others l : List String}
    {rest : List Block} (said : summaryBlock.fill (tableScope flavor e options columns s) = .ok l)
    (headed : fillAll (tableScope flavor e options columns s) [.line head] = .ok heads)
    (behind : fillAll (tableScope flavor e options columns s) rest = .ok others) :
    fillAll (tableScope flavor e options columns s)
        (summaryBlock :: attributesBlock :: .line head :: .lines more :: rest) =
      .ok (l ++ ((flavor.classAttributes s).map (bracketed "[") ++ (heads ++ (more ++ others)))) :=
  fillCons said (fillCons (attributesFill flavor e options columns s)
    (fillAllAppend [_] headed (fillCons (fillLines more) behind)))

theorem namespaceFilled {s : String} {header : Block} {body : List Block} {banner lines : List String}
    (before : fillAll (tableScope flavor e options columns s) [header] = .ok banner)
    (filled : fillAll (tableScope flavor e options columns s) body = .ok lines) :
    fillAll (tableScope flavor e options columns s) [header, .within (.name "cs_namespace") body] =
      .ok (banner ++ if (Value.text (String.intercalate "." e.segments)).truthy then
        wrap (Value.text (String.intercalate "." e.segments)).display lines else lines ++ [""]) :=
  fillAllAppend [header] before (fillOne (fillWithin rfl filled))

theorem classFramed {declares : String → String}
    (declared : ∃ g, Framed [declares] g ∧
      ∀ s, linesOf ((flavor.classAttributes s).map (bracketed "[")) = g s) :
    ∃ f back, Framed ((if options.comments then [summaryLine] else []) ++ [declares]) f ∧
      Format.trimEnd back ≠ [] ∧
      ∀ s, ∃ lines, fillAll (tableScope flavor e options columns s) csharpClass = .ok lines ∧
        linesOf lines = f s ++ back := by
  obtain ⟨header, head, more, rest, cut, first, second, third⟩ := classCut
  obtain ⟨banner, before⟩ := fillFixed (tableScopeHolds flavor e options columns) first
  obtain ⟨heads, headed⟩ := fillFixed (tableScopeHolds flavor e options columns) second
  obtain ⟨others, behind⟩ := fillFixed (tableScopeHolds flavor e options columns) third
  obtain ⟨f, framed, summary⟩ := summaryFramed flavor e options columns
  obtain ⟨g, framed', attributes⟩ := declared
  let tail := heads ++ (("\x7b" :: more) ++ others)
  have visible : Format.trimEnd (linesOf tail) ≠ [] :=
    trimSome (s := "\x7b") (by simp [tail]) (by decide) (by decide)
  -- the body of the namespace, before it is indented
  have body (s : String) : ∃ lines, fillAll (tableScope flavor e options columns s)
      (summaryBlock :: attributesBlock :: .line head :: .lines ("\x7b" :: more) :: rest) = .ok lines ∧
        linesOf lines = (f s ++ g s) ++ linesOf tail := by
    obtain ⟨l, said, shown⟩ := summary s
    refine ⟨_, bodyFilled flavor e options columns said (headed s) (behind s), ?_⟩
    rw [linesAppend, linesAppend, shown, attributes, List.append_assoc]
  rw [cut]
  cases named : (Value.text (String.intercalate "." e.segments)).truthy with
  | false =>
    refine ⟨_, linesOf tail ++ [[]], (framed.append framed').behind (linesOf banner), ?_,
      fun s => ?_⟩
    · rwa [Format.trimBlankEnd]
    · obtain ⟨lines, filled, shown⟩ := body s
      refine ⟨_, namespaceFilled flavor e options columns (before s) filled, ?_⟩
      have blank : linesOf [""] = [[]] := rfl
      simp only [named, Bool.false_eq_true, if_false, linesAppend, shown, blank, List.append_assoc]
  | true =>
    obtain ⟨h, back, wrapped, some, inside⟩ := framedWrap (framed.append framed') visible
      (Value.text (String.intercalate "." e.segments)).display
    refine ⟨_, back, wrapped.behind (linesOf banner), some, fun s => ?_⟩
    obtain ⟨lines, filled, shown⟩ := body s
    refine ⟨_, namespaceFilled flavor e options columns (before s) filled, ?_⟩
    rw [if_pos named, linesAppend, inside s lines shown, List.append_assoc]

end Class

theorem bracketedBetween {opening closing front back : String} (s : String)
    (first : "[" ++ opening = front) (last : closing ++ "]" = back) :
    bracketed "[" (opening ++ s ++ closing) = front ++ s ++ back := by
  subst first last
  simp only [bracketed, String.append_assoc]

theorem classicDeclares : ∃ g, Framed [classicLine] g ∧
    ∀ s, linesOf ((classic.classAttributes s).map (bracketed "[")) = g s := by
  let contract := bracketed "[" "global::System.Runtime.Serialization.DataContract"
  let serial := bracketed "[" "global::System.Serializable"
  refine ⟨_, .append (.fixed (linesOf [contract])) (.append (.place classicPlace)
    (.fixed (linesOf [serial]))), fun s => ?_⟩
  have opening : "[" ++ "global::System.Data.Linq.Mapping.Table(Name = " =
      "[global::System.Data.Linq.Mapping.Table(Name = " := by decide +kernel
  have closing : ")" ++ "]" = ")]" := by decide
  have line := bracketedBetween (Text.literal s) opening closing
  show linesOf ([contract] ++ ([bracketed "[" _] ++ [serial])) = _
  rw [linesAppend, linesAppend, line]
  exact congrArg (fun l => linesOf [contract] ++ (l ++ linesOf [serial])) (linesOne (classicLine s))

theorem coreDeclares : ∃ g, Framed [coreLine] g ∧
    ∀ s, linesOf ((core.classAttributes s).map (bracketed "[")) = g s := by
  refine ⟨_, .place corePlace, fun s => ?_⟩
  have opening : "[" ++ (annotations ++ ".Schema.Table(") = "[" ++ annotations ++ ".Schema.Table(" :=
    String.append_assoc.symm
  have closing : ")" ++ "]" = ")]" := by decide
  have line := bracketedBetween (Text.literal s) opening closing
  show linesOf [bracketed "[" _] = _
  rw [line, linesOne, coreLine]

end Emit.EntityFramework

inductive Target.Framing (t : Target) (e : Entity) (options : Options) : Prop where
  | fails (failure : Failure) (same : ∀ s, t.emit { e with table := s } options = .error failure)
  | emits {f : String → List (List Char)} (head extension : Artifact)
      (framed : Framed (t.tableLines options) f)
      (files : ∀ s, ∃ content others, Text.lines content.toList = f s ∧
        t.emit { e with table := s } options = .ok ({ head with content } :: extension :: others))

theorem formattedLines {options : Options} (ending : options.lineEnding = .text "\n")
    (code : String) : ∃ content, formatted options code = .ok content ∧
      content.toList = Format.format ['\n'] code.toList := by
  refine ⟨_, by rw [formatted, ending], ?_⟩
  rw [String.toList_ofList]
  rfl

namespace Emit.Doctrine

theorem traitApart : agreement.admitsAll (Context.without ["table_name"] (context true true true))
    phpTrait = true := by decide +kernel

theorem framing (e : Entity) {options : Options} (ending : options.lineEnding = .text "\n") :
    Target.doctrine.Framing e options := by
  have same (s : String) : typed { e with table := s } = typed e := rfl
  have place (s : String) : mappingDir { e with table := s } options = mappingDir e options := rfl
  cases done : typed e with
  | error failure =>
    refine .fails failure fun s => ?_
    rw [Target.emit, Doctrine.artifacts, same, done]
    rfl
  | ok columns =>
    obtain ⟨f, back, framed, visible, filled⟩ := classFramed e options columns
    obtain ⟨g, framed, shown⟩ := framedFormat framed visible
    obtain ⟨trait, second⟩ := fillFixed (tableScopeHolds e options columns) traitApart
    obtain ⟨extension, extended, _⟩ := formattedLines ending (textOf trait)
    have emits (s : String) : ∃ content mapping, Text.lines content.toList = g s ∧
        Target.doctrine.emit { e with table := s } options =
          (do let dir ← mappingDir e options; return filesOf e content extension dir mapping) := by
      obtain ⟨lines, first, cut⟩ := filled s
      obtain ⟨code, third⟩ :=
        scopeRenders (t := xmlMapping) (by decide +kernel) { e with table := s } options columns
      obtain ⟨content, main, text⟩ := formattedLines ending (textOf lines)
      obtain ⟨mapping, last, _⟩ := formattedLines ending code
      refine ⟨content, mapping, by rw [text]; exact shown s lines cut, ?_⟩
      have made := artifactsRendered ((same s).trans done) (renderFilled first)
        (renderFilled (second s)) third
      refine made.trans ?_
      rw [filesFrom, main, extended, place, last]
      rfl
    cases found : mappingDir e options with
    | error failure =>
      refine .fails failure fun s => ?_
      obtain ⟨content, mapping, _, emitted⟩ := emits s
      rw [emitted, found]
      rfl
    | ok dir =>
      have files : ∃ head second : Artifact, ∀ content mapping, ∃ others,
          filesOf e content extension dir mapping = { head with content } :: second :: others :=
        ⟨{ path := e.classDir.child (e.name ++ ".php"), content := "" }, _, fun _ _ => ⟨_, rfl⟩⟩
      obtain ⟨head, second, files⟩ := files
      refine .emits head second framed fun s => ?_
      obtain ⟨content, mapping, text, emitted⟩ := emits s
      obtain ⟨others, same⟩ := files content mapping
      rw [found] at emitted
      exact ⟨content, others, text, emitted.trans (congrArg Except.ok same)⟩

end Emit.Doctrine

namespace Emit.EntityFramework

theorem extensionsApart : agreement.admitsAll tableContext csharpExtensions = true := by decide +kernel

theorem framing {t : Target} {flavor : Flavor} {e : Entity} {options : Options}
    {declares : String → String} (ending : options.lineEnding = .text "\n")
    (emit : ∀ e, t.emit e options = EntityFramework.artifacts flavor e options)
    (lines : t.tableLines options = (if options.comments then [summaryLine] else []) ++ [declares])
    (declared : ∃ g, Framed [declares] g ∧
      ∀ s, linesOf ((flavor.classAttributes s).map (bracketed "[")) = g s) : t.Framing e options := by
  have same (s : String) : typed flavor { e with table := s } = typed flavor e := rfl
  cases done : typed flavor e with
  | error failure =>
    refine .fails failure fun s => ?_
    rw [emit, EntityFramework.artifacts, same, done]
    rfl
  | ok columns =>
    obtain ⟨f, back, framed, visible, filled⟩ := classFramed flavor e options columns declared
    obtain ⟨g, framed, shown⟩ := framedFormat framed visible
    obtain ⟨part, other⟩ := fillFixed (tableScopeHolds flavor e options columns)
      extensionsApart
    obtain ⟨extension, extended, _⟩ := formattedLines ending (textOf part)
    let head : Artifact := { path := e.classDir.child (e.name ++ flavor.target.extension), content := "" }
    let second : Artifact := {
      path := e.classDir.child (e.name ++ ".Extensions" ++ flavor.target.extension)
      content := extension
      overwrite := false
      kind := "extension" }
    refine .emits head second (lines ▸ framed) fun s => ?_
    obtain ⟨lines, first, cut⟩ := filled s
    obtain ⟨content, main, text⟩ := formattedLines ending (textOf lines)
    refine ⟨content, [], by rw [text]; exact shown s lines cut, ?_⟩
    rw [emit]
    exact artifactsOk.mpr ⟨columns, content, extension, (same s).trans done,
      (formattedRender (renderFilled first)).trans main,
      (formattedRender (renderFilled (other s))).trans extended, rfl⟩

end Emit.EntityFramework

theorem Target.framing (t : Target) (e : Entity) {options : Options}
    (ending : options.lineEnding = .text "\n") : t.Framing e options := by
  cases t with
  | doctrine => exact Emit.Doctrine.framing e ending
  | entityFramework =>
    exact Emit.EntityFramework.framing ending (fun _ => rfl) rfl Emit.EntityFramework.classicDeclares
  | entityFrameworkCore =>
    exact Emit.EntityFramework.framing ending (fun _ => rfl) rfl Emit.EntityFramework.coreDeclares

theorem normalizeTables {cwd : Location} {key a b : Value} {description : Description}
    {segments : List String} {outDir : Path} {e e' : Entity}
    (first : Entity.normalize cwd key { description with table := a } segments outDir = .ok e)
    (second : Entity.normalize cwd key { description with table := b } segments outDir = .ok e') :
    e' = { e with table := e'.table } := by
  obtain ⟨name, entries, read, given, _, _, rfl⟩ :=
    Entity.ofDescriptionOk.mp (Entity.normalizeIff.mp first).1
  obtain ⟨name', entries', read', given', _, _, rfl⟩ :=
    Entity.ofDescriptionOk.mp (Entity.normalizeIff.mp second).1
  cases read.symm.trans read'
  cases given.symm.trans given'
  rfl

/- Two table names, the first without line breaks: either none of them gives files, or the extension is
the same and the class differs in the lines that say the name and in nothing else, exactly if the second
has no line breaks either. A comment around the name ends there exactly if the name ends it. -/
theorem tableStays {cwd : Location} {key a b : Value} (description : Description)
    {segments : List String} {outDir : Path} {e e' : Entity} (t : Target) {options : Options}
    (first : Entity.normalize cwd key { description with table := a } segments outDir = .ok e)
    (second : Entity.normalize cwd key { description with table := b } segments outDir = .ok e')
    (ending : options.lineEnding = .text "\n") (short : Text.Short e.table) :
    ((∃ failure, t.emit e options = .error failure ∧ t.emit e' options = .error failure) ∨
      ∃ main content extension others others',
        t.emit e options = .ok (main :: extension :: others) ∧
        t.emit e' options = .ok ({ main with content } :: extension :: others') ∧
        (SameBut e.table e'.table (t.tableLines options) (Text.lines main.content.toList)
          (Text.lines content.toList) ↔ Text.Short e'.table)) ∧
      (commentEnd <:+: (annotationLine e.table).toList ↔ commentEnd <:+: e.table.toList) := by
  refine ⟨?_, annotationEnds e.table⟩
  have same := normalizeTables first second
  cases t.framing e ending with
  | fails failure fails =>
    refine .inl ⟨failure, fails e.table, ?_⟩
    rw [same]
    exact fails e'.table
  | emits head extension framed files =>
    obtain ⟨content, others, text, emitted⟩ := files e.table
    obtain ⟨content', others', text', emitted'⟩ := files e'.table
    have some : t.tableLines options ≠ [] := by cases t <;> simp [Target.tableLines]
    refine .inr ⟨{ head with content }, content', extension, others, others', emitted, ?_, ?_⟩
    · rw [same]
      exact emitted'
    · rw [text, text']
      exact framed.sameIff some short

def tableUser (segments : List String) (table : String) : Entity where
  name := "User"
  segments
  table
  columns := []
  outDir := ⟨.root, ["w", "out"]⟩

theorem usersStay :
    Entity.normalize [] (.text "User") { table := .text " users " } ["App"] (.ofText "/w/out") =
        .ok (tableUser ["App"] "users") ∧
      Entity.normalize [] (.text "User") { table := .text "people" } ["App"] (.ofText "/w/out") =
        .ok (tableUser ["App"] "people") ∧
      ({} : Options).lineEnding = .text "\n" ∧ Text.Short "users" ∧
      ∃ main content extension others others',
        Target.entityFramework.emit (tableUser ["App"] "users") {} = .ok (main :: extension :: others) ∧
        Target.entityFramework.emit (tableUser ["App"] "people") {} =
          .ok ({ main with content } :: extension :: others') ∧
        SameBut "users" "people" [summaryLine, classicLine] (Text.lines main.content.toList)
          (Text.lines content.toList) := by
  have first : Entity.normalize [] (.text "User") { table := .text " users " } ["App"]
      (.ofText "/w/out") = .ok (tableUser ["App"] "users") := rfl
  have second : Entity.normalize [] (.text "User") { table := .text "people" } ["App"]
      (.ofText "/w/out") = .ok (tableUser ["App"] "people") := rfl
  have ending : ({} : Options).lineEnding = .text "\n" := rfl
  have short : Text.Short "users" := by decide
  refine ⟨first, second, ending, short, ?_⟩
  rcases (tableStays {} .entityFramework first second ending short).1 with
    ⟨failure, failed, _⟩ | ⟨main, content, extension, others, others', emitted, emitted', same⟩
  · obtain ⟨artifacts, emitted⟩ : ∃ artifacts,
        Target.entityFramework.emit (tableUser ["App"] "users") {} = .ok artifacts :=
      Target.entityFramework.emitAccepted plainDefault (by decide)
    cases emitted.symm.trans failed
  · exact ⟨main, content, extension, others, others', emitted, emitted', same.mpr (by decide)⟩

theorem tableBreaks :
    Entity.normalize [] (.text "User") { table := .text "a b" } [] (.ofText "/w/out") =
        .ok (tableUser [] "a b") ∧
      Entity.normalize [] (.text "User") { table := .text "a\nb" } [] (.ofText "/w/out") =
        .ok (tableUser [] "a\nb") ∧
      (∃ main main' others others',
        Target.doctrine.emit (tableUser [] "a b") {} = .ok (main :: others) ∧
        Target.doctrine.emit (tableUser [] "a\nb") {} = .ok (main' :: others') ∧
        (Text.lines main.content.toList).length < (Text.lines main'.content.toList).length) ∧
      commentEnd <:+: (annotationLine "a*/b").toList := by
  refine ⟨rfl, rfl, ?_, (annotationEnds "a*/b").mpr (by decide)⟩
  have ending : ({} : Options).lineEnding = .text "\n" := rfl
  cases Target.doctrine.framing (tableUser [] "a b") ending with
  | fails failure fails =>
    obtain ⟨artifacts, emitted⟩ : ∃ artifacts,
        Target.doctrine.emit (tableUser [] "a b") {} = .ok artifacts :=
      Target.doctrine.emitAccepted plainDefault (by decide)
    cases emitted.symm.trans (fails "a b")
  | emits head extension framed files =>
    obtain ⟨content, others, text, emitted⟩ := files "a b"
    obtain ⟨content', others', text', emitted'⟩ := files "a\nb"
    refine ⟨_, _, _, _, emitted, emitted', ?_⟩
    rw [text, text']
    exact framed.longer (by decide) (by decide)

end EntityForge
