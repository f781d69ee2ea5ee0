import EntityForge.Proofs.NormalForm
import EntityForge.Proofs.TableNames

/-! Classes in a namespace. A namespace is put around the body of a C# file and indents it: the banner in
front of it stays, every line of the body that is not blank moves to the right, and the formatter sees
the same blank lines as before. -/
namespace EntityForge
open Template Layout

namespace Text

def unlines (lines : List (List Char)) : List Char := lines.flatMap (· ++ ['\n'])

theorem unlinesJoin (pieces : List (List Char)) :
    join ['\n'] pieces ++ ['\n'] = unlines (someLine pieces) := by
  induction pieces with
  | nil => rfl
  | cons piece rest ih =>
    cases rest with
    | nil => simp [join, unlines, someLine]
    | cons next others =>
      have some : someLine (piece :: next :: others) = piece :: someLine (next :: others) := rfl
      rw [joinCons, some, List.append_assoc, ih, unlines, unlines, List.flatMap_cons]

structure Single (s : String) : Prop where
  short : Short s
  solid : stripEnd s.toList = s.toList
  some : s.toList ≠ []

namespace Single

theorem visible {s : String} (single : Single s) : stripEnd s.toList ≠ [] :=
  single.solid.symm ▸ single.some

theorem behind {front back : String} (single : Single back) (short : Short front) :
    Single (front ++ back) where
  short := shortAppend short single.short
  solid := by rw [String.toList_append, stripEndSolid single.visible, single.solid]
  some := by simp [single.some]

theorem joined {separator : String} (short : Short separator) {items : List String} (some : items ≠ [])
    (each : ∀ item ∈ items, Single item) : Single (String.intercalate separator items) := by
  induction items with
  | nil => exact absurd rfl some
  | cons item rest ih =>
    obtain ⟨here, later⟩ := List.forall_mem_cons.mp each
    cases rest with
    | nil => simpa using here
    | cons next others =>
      rw [String.intercalate_cons_cons]
      exact (ih (List.cons_ne_nil _ _) later).behind (shortAppend here.short short)

end Single

end Text

theorem parsedSingle {raw : Value} {segment : String} (member : segment ∈ parseNamespace raw)
    (short : Text.Short segment) : Text.Single segment := by
  obtain ⟨piece, kept, rfl⟩ := List.mem_map.mp member
  obtain ⟨stripped, some⟩ := List.mem_filter.mp kept
  obtain ⟨raw, _, rfl⟩ := List.mem_map.mp stripped
  refine ⟨short, ?_, ?_⟩ <;> rw [String.toList_ofList]
  · exact Text.stripEndIdem _
  · simpa using some

namespace Format

theorem stripIndentLine (width : Nat) (line : List Char) :
    Text.stripEnd (Text.indentLine width line) = Text.indentLine width (Text.stripEnd line) := by
  rw [Alike.stripIndent, Text.indentLine, Text.allBlankStrip]
  by_cases gap : Text.stripEnd line = []
  · rw [if_pos gap, if_pos (Text.allBlankIff.mpr gap), gap]
  · rw [if_neg gap, if_neg (mt Text.allBlankIff.mp gap)]

theorem squeezeIndent (width blanks : Nat) (lines : List (List Char)) :
    squeeze blanks (lines.map (Text.indentLine width)) =
      (squeeze blanks lines).map (Text.indentLine width) := by
  have empty : Text.indentLine width [] = [] := rfl
  induction lines generalizing blanks with
  | nil => rfl
  | cons line rest ih =>
    by_cases gap : Text.stripEnd line = []
    · have blank : Text.stripEnd (Text.indentLine width line) = [] := by
        rw [Alike.stripIndent, if_pos gap]
      rw [List.map_cons, squeezeBlank blank, squeezeBlank gap, ih]
      split
      next => rw [List.map_cons, empty]
      next => rfl
    · rw [List.map_cons, squeezeVisible (visibleIndent gap width), squeezeVisible gap, List.map_cons,
        ih, stripIndentLine]

theorem squeezeBefore {line : List Char} (visible : Visible line) (blanks : Nat)
    (front rest : List (List Char)) : squeeze blanks (front ++ line :: rest) =
      squeeze blanks front ++ squeeze 0 (line :: rest) := by
  obtain ⟨after, cut⟩ := squeezeFront blanks front
  rw [cut, squeezeVisible visible, squeezeVisible visible]

theorem formatUnlines {texts : List String} (some : trimEnd (Template.linesOf texts) ≠ []) :
    format ['\n'] (textOf texts).toList =
      Text.unlines (squeeze 0 (trimEnd (Template.linesOf texts))) := by
  have kept : squeeze 0 (trimEnd (Template.linesOf texts)) ≠ [] := fun none => some (squeezeTrimNil none)
  rw [format, normalTrim, linesText, trimBlankEnd, Text.unlinesJoin]
  exact congrArg Text.unlines (Text.someLineOf kept)

end Format

namespace Template

/- What a namespace makes of a file: some lines stay in front, and those behind them are indented
between the opening of the namespace and its end. Every line has its own line break. -/
def Wraps (head : List (List Char)) (name : String) (bare wrapped : String) : Prop :=
  ∃ body, (∀ line ∈ head ++ body, '\n' ∉ line) ∧ bare.toList = Text.unlines (head ++ body) ∧
    wrapped.toList = Text.unlines (head ++ [("namespace " ++ name).toList, ['\x7b']] ++
      body.map (Text.indentLine 4) ++ [['\x7d']])

theorem linesShort {texts : List String} (short : ∀ s ∈ texts, Text.Short s) :
    linesOf texts = texts.map String.toList := by
  induction texts with
  | nil => rfl
  | cons s rest ih =>
    obtain ⟨here, later⟩ := List.forall_mem_cons.mp short
    rw [List.map_cons, ← ih later, ← List.singleton_append, linesAppend, linesOne,
      Text.shortLines here]
    rfl

def Opens (texts : List String) : Prop := ∃ line rest, linesOf texts = line :: rest ∧ Visible line

theorem Opens.append {l : List String} (opens : Opens l) (m : List String) : Opens (l ++ m) := by
  obtain ⟨line, rest, cut, visible⟩ := opens
  exact ⟨line, rest ++ linesOf m, by rw [linesAppend, cut, List.cons_append], visible⟩

theorem opensWith {s : String} {c : Char} {tail : List Char} (text : s.toList = c :: tail)
    (solid : Text.isBlank c = false) : Opens [s] := by
  have short : '\n' ∉ [c] := by
    rw [List.mem_singleton]
    rintro rfl
    exact absurd solid (by decide)
  obtain ⟨first, others, cut⟩ := List.exists_cons_of_ne_nil (Text.splitAtNonempty (· == '\n') tail)
  refine ⟨[c] ++ first, others, ?_, visibleAppend (by simp [Visible, Text.stripEnd, solid]) first⟩
  rw [linesOne, text]
  exact Text.linesAfter short cut

section Wrapping
variable (front : List String) {body : List String} {name : String}

theorem trimOpens (opens : Opens body) :
    ∃ line rest, Format.trimEnd (linesOf body) = line :: rest ∧ Visible line := by
  obtain ⟨first, others, cut, visible⟩ := opens
  obtain ⟨kept, same, trimmed⟩ := Alike.trimVisible visible others
  exact ⟨kept, _, cut ▸ trimmed, by rwa [Visible, same]⟩

theorem bareLines (opens : Opens body) : Format.squeeze 0 (Format.trimEnd
      (linesOf (front ++ (body ++ [""])))) = Format.squeeze 0 (linesOf front) ++
        Format.squeeze 0 (Format.trimEnd (linesOf body)) := by
  have blank : linesOf [""] = [[]] := rfl
  obtain ⟨line, rest, trimmed, visible⟩ := trimOpens opens
  have some : Format.trimEnd (linesOf body ++ [[]]) ≠ [] := by
    rw [Format.trimBlankEnd, trimmed]
    exact List.cons_ne_nil _ _
  rw [linesAppend, linesAppend, blank, Format.trimAppend some, Format.trimBlankEnd, trimmed,
    Format.squeezeBefore visible]

theorem wrappedLines (opens : Opens body) (single : Text.Single name) :
    Format.squeeze 0 (Format.trimEnd (linesOf (front ++ wrap name body))) =
      Format.squeeze 0 (linesOf front) ++ [("namespace " ++ name).toList, ['\x7b']] ++
        (Format.squeeze 0 (Format.trimEnd (linesOf body))).map (Text.indentLine 4) ++ [['\x7d']] := by
  obtain ⟨line, rest, trimmed, _⟩ := trimOpens opens
  have ending : Visible ['\x7d'] := by decide
  have opening : Text.Single ("namespace " ++ name) := single.behind (by decide)
  have visible : Visible ("namespace " ++ name).toList := opening.visible
  have head : linesOf ["namespace " ++ name, "\x7b"] = [("namespace " ++ name).toList, ['\x7b']] :=
    congrArg (· ++ [['\x7b']]) (Text.shortLines opening.short)
  have close : Format.trimEnd [['\x7d']] = [['\x7d']] := by decide
  have brace : Visible ['\x7b'] := by decide
  rw [linesAppend, linesWrap, head, Text.someLineOf (by simp [trimmed]), ← List.append_assoc,
    Format.trimAppend (by decide), close]
  simp only [List.append_assoc, List.cons_append, List.nil_append]
  rw [Format.squeezeBefore visible, Format.squeezeVisible visible, Format.squeezeVisible brace,
    Format.squeezeBefore ending, Format.squeezeIndent, opening.solid]
  rfl

theorem formattedFree (lines : List String) :
    ∀ line ∈ Format.squeeze 0 (Format.trimEnd (linesOf lines)), '\n' ∉ line := by
  have same : Format.normalLines (textOf lines).toList =
      Format.squeeze 0 (Format.trimEnd (linesOf lines)) := by
    rw [Format.normalTrim, linesText, Format.trimBlankEnd]
  intro line member
  exact Format.normalFree (same ▸ member)

theorem wrapsFormatted (opens : Opens body) (single : Text.Single name) :
    Wraps (Format.squeeze 0 (linesOf front)) name
      (String.ofList (Format.format ['\n'] (textOf (front ++ (body ++ [""]))).toList))
      (String.ofList (Format.format ['\n'] (textOf (front ++ wrap name body)).toList)) := by
  have bare := bareLines front opens
  have wrapped := wrappedLines front opens single
  have visible {texts : List String} {lines : List (List Char)}
      (shown : Format.squeeze 0 (Format.trimEnd (linesOf texts)) = lines) (some : lines ≠ []) :
      Format.format ['\n'] (textOf texts).toList = Text.unlines lines := by
    rw [← shown]
    refine Format.formatUnlines fun none => some ?_
    rw [← shown, none, Format.squeeze]
  refine ⟨Format.squeeze 0 (Format.trimEnd (linesOf body)), bare ▸ formattedFree _, ?_, ?_⟩
  · obtain ⟨line, rest, trimmed, seen⟩ := trimOpens opens
    rw [String.toList_ofList]
    refine visible bare ?_
    rw [trimmed, Format.squeezeVisible seen]
    simp
  · rw [String.toList_ofList]
    exact visible wrapped (by simp)

end Wrapping

end Template

def Target.banner (t : Target) (name : String) : List String := [
  "// <auto-generated>",
  "//     AUTO GENERATED FILE (" ++ t.displayName ++ ")",
  "//",
  "//     Changes to this file are overwritten on the next run.",
  "//     Put custom code into '" ++ name ++ ".Extensions.cs'.",
  "// </auto-generated>",
  ""]

def Target.heading (t : Target) (options : Options) (name : String) : List String :=
  if options.header then t.banner name else []

namespace Emit.EntityFramework

def spaceScope (flavor : Flavor) (e : Entity) (options : Options)
    (columns : List (String × Column × String)) (space : String) : Scope :=
  scope flavor { e with segments := [space] } options columns

def spaceContext : Context Bool :=
  Context.without ["cs_namespace"] (context true true true (.many true) (.many true))

def bannerBlock : Block :=
  .when (.name "add_header") [
    .lines ["// <auto-generated>"],
    .line [.text "//     AUTO GENERATED FILE (", .hole (.name "target_name") .plain, .text ")"],
    .lines ["//", "//     Changes to this file are overwritten on the next run."],
    .line [
      .text "//     Put custom code into '",
      .hole (.name "class_name") .plain,
      .text ".Extensions.cs'."],
    .lines ["// </auto-generated>", ""]]

theorem classSplit : ∃ rest, csharpClass =
      [bannerBlock, .within (.name "cs_namespace") (summaryBlock :: attributesBlock :: rest)] ∧
    agreement.admitsAll spaceContext rest = true := ⟨_, rfl, by decide +kernel⟩

theorem extensionsSplit : ∃ rest, csharpExtensions =
      [.within (.name "cs_namespace") (.lines ["/// <summary>"] :: rest)] ∧
    agreement.admitsAll spaceContext rest = true := ⟨_, rfl, by decide +kernel⟩

section Spaces
variable (flavor : Flavor) (e : Entity) (options : Options) (columns : List (String × Column × String))

theorem spaceScopeHolds (space : String) : ScopesHold agreement.alike spaceContext
    (spaceScope flavor e options columns "") (spaceScope flavor e options columns space) := by
  refine holdsWithout (scopeSelf flavor _ options columns) ?_
  simp [spaceScope, scope]

theorem bannerFill (space : String) : bannerBlock.fill (spaceScope flavor e options columns space) =
    .ok (flavor.target.heading options e.name) := by
  have read : (Source.name "add_header").read (spaceScope flavor e options columns space) =
      .ok (.bool options.header) := rfl
  rw [bannerBlock, Block.fill, read, Target.heading]
  cases options.header with
  | false => rfl
  | true =>
    have label := fillBetween (σ := spaceScope flavor e options columns space) (.name "target_name")
      .plain "//     AUTO GENERATED FILE (" ")" rfl rfl
    have place := fillBetween (σ := spaceScope flavor e options columns space) (.name "class_name")
      .plain "//     Put custom code into '" ".Extensions.cs'." rfl rfl
    exact fillCons (fillLines _) (fillCons (fillLineBlock label) (fillCons (fillLines _)
      (fillCons (fillLineBlock place) (fillOne (fillLines _)))))

theorem classBody {first : String} {others : List String}
    (declared : flavor.classAttributes e.table = first :: others) :
    ∃ body, Opens body ∧ ∀ space, fillAll (spaceScope flavor e options columns space) csharpClass =
      .ok ((flavor.target.heading options e.name) ++
        if (Value.text space).truthy then wrap space body else body ++ [""]) := by
  obtain ⟨rest, split, admitted⟩ := classSplit
  obtain ⟨l, behind⟩ := fillFixed (spaceScopeHolds flavor e options columns) admitted
  let summary :=
    if options.comments then ["/// <summary>", summaryLine e.table, "/// </summary>"] else []
  let attributes := (flavor.classAttributes e.table).map (bracketed "[")
  refine ⟨summary ++ (attributes ++ l), ?_, fun space => ?_⟩
  · have opens : Opens attributes := by
      have bracket : (bracketed "[" first).toList = '[' :: (first.toList ++ [']']) := by simp [bracketed]
      have start := (opensWith bracket (by decide)).append (others.map (bracketed "["))
      rwa [List.singleton_append, ← List.map_cons, ← declared] at start
    cases comments : options.comments with
    | false => simpa [summary, comments] using opens.append l
    | true =>
      have start : Opens ["/// <summary>"] := opensWith (c := '/') rfl (by decide)
      simpa [summary, comments] using start.append _
  · have said : summaryBlock.fill (spaceScope flavor e options columns space) = .ok summary :=
      summaryFill flavor { e with segments := [space] } options columns e.table
    have marked : attributesBlock.fill (spaceScope flavor e options columns space) = .ok attributes :=
      attributesFill flavor { e with segments := [space] } options columns e.table
    have filled := fillCons said (fillCons marked (behind space))
    rw [split]
    exact fillCons (bannerFill flavor e options columns space) (fillOne (fillWithin rfl filled))

theorem extensionsBody : ∃ body, Opens body ∧ ∀ space,
    fillAll (spaceScope flavor e options columns space) csharpExtensions =
      .ok ([] ++ if (Value.text space).truthy then wrap space body else body ++ [""]) := by
  obtain ⟨rest, split, admitted⟩ := extensionsSplit
  obtain ⟨l, behind⟩ := fillFixed (spaceScopeHolds flavor e options columns) admitted
  have start : Opens ["/// <summary>"] := opensWith (c := '/') rfl (by decide)
  refine ⟨["/// <summary>"] ++ l, start.append l, fun space => ?_⟩
  rw [split]
  exact fillOne (fillWithin rfl (fillCons (fillLines _) (behind space)))

end Spaces

theorem spacesWrap {template : Template} {σ : String → Scope} {front body : List String}
    {options : Options} (ending : options.lineEnding = .text "\n") (opens : Opens body)
    (filled : ∀ space, fillAll (σ space) template =
      .ok (front ++ if (Value.text space).truthy then wrap space body else body ++ [""]))
    {name : String} (single : Text.Single name) (label : String) :
    ∃ bare wrapped, renderFormatted label template (σ "") options = .ok bare ∧
      renderFormatted label template (σ name) options = .ok wrapped ∧
      Wraps (Format.squeeze 0 (linesOf front)) name bare wrapped := by
  have feed (code : String) : formatted options code =
      .ok (String.ofList (Format.format ['\n'] code.toList)) := by
    rw [formatted, ending]
    rfl
  have named : (Value.text name).truthy = true := by
    simpa [Value.truthy] using fun none : name = "" => single.some (by simp [none])
  have first := filled ""
  have second := filled name
  rw [if_pos named] at second
  exact ⟨_, _, (formattedRender (renderFilled first)).trans (feed _),
    (formattedRender (renderFilled second)).trans (feed _), wrapsFormatted front opens single⟩

theorem artifactsWrapped {flavor : Flavor} {e : Entity} {options : Options}
    (ending : options.lineEnding = .text "\n") {columns : List (String × Column × String)}
    (done : typed flavor e = .ok columns) (declared : flavor.classAttributes e.table ≠ [])
    {segments : List String} (single : Text.Single (String.intercalate "." segments)) :
    ∃ main extension main' extension',
      EntityFramework.artifacts flavor { e with segments := [] } options = .ok [main, extension] ∧
      EntityFramework.artifacts flavor { e with segments } options = .ok [main', extension'] ∧
      Wraps (Format.squeeze 0 (linesOf (flavor.target.heading options e.name)))
        (String.intercalate "." segments) main.content main'.content ∧
      Wraps [] (String.intercalate "." segments) extension.content extension'.content := by
  have typed (segments : List String) : typed flavor { e with segments } = .ok columns := done
  obtain ⟨first, others, declared⟩ := List.exists_cons_of_ne_nil declared
  obtain ⟨body, opens, filled⟩ := classBody flavor e options columns declared
  obtain ⟨bare, wrapped, class', class'', wraps⟩ :=
    spacesWrap ending opens filled single "class.cs.j2"
  obtain ⟨part, begins, filled⟩ := extensionsBody flavor e options columns
  obtain ⟨bare', wrapped', extension, extension', wraps'⟩ :=
    spacesWrap ending begins filled single "extensions.cs.j2"
  exact ⟨_, _, _, _, artifactsOk.mpr ⟨columns, bare, bare', typed [], class', extension, rfl⟩,
    artifactsOk.mpr ⟨columns, wrapped, wrapped', typed segments, class'', extension', rfl⟩, wraps,
    wraps'⟩

end Emit.EntityFramework

namespace Target

theorem headingLines (t : Target) (options : Options) {name : String} (short : Text.Short name) :
    Format.squeeze 0 (linesOf (t.heading options name)) =
      (t.heading options name).map String.toList := by
  have label : Text.Single ("//     AUTO GENERATED FILE (" ++ t.displayName ++ ")") :=
    .behind ⟨by decide, by decide, by decide⟩ (by cases t <;> decide)
  have place : Text.Single ("//     Put custom code into '" ++ name ++ ".Extensions.cs'.") :=
    .behind ⟨by decide, by decide, by decide⟩ (Text.shortAppend (by decide) short)
  unfold heading
  cases options.header with
  | false => rfl
  | true =>
    have fits : ∀ line ∈ t.banner name, Text.Short line := by
      simp [banner, label.short, place.short]
      decide
    rw [if_pos rfl, linesShort fits]
    refine Format.Normal.squeezed ?_
    exact .visible (by decide) (by decide) (.visible label.solid label.some (.visible (by decide)
      (by decide) (.visible (by decide) (by decide) (.visible place.solid place.some (.visible
      (by decide) (by decide) (.blank (by decide) .nil))))))

end Target

/- A namespace is put around both files of an entity. In front of it stays the banner of the class, which
the extension does without. -/
theorem namespaceWraps {e : Entity} {raw : Value} {t : Target} {options : Options}
    (sharp : t ≠ .doctrine) (accepted : ∀ column ∈ e.columns, t.types.accepts column.2 = true)
    (ending : options.lineEnding = .text "\n") (some : parseNamespace raw ≠ [])
    (short : ∀ segment ∈ parseNamespace raw, Text.Short segment) :
    ∃ main extension main' extension',
      t.emit { e with segments := [] } options = .ok [main, extension] ∧
      t.emit { e with segments := parseNamespace raw } options = .ok [main', extension'] ∧
      Wraps (Format.squeeze 0 (linesOf (t.heading options e.name)))
        (String.intercalate "." (parseNamespace raw)) main.content main'.content ∧
      Wraps [] (String.intercalate "." (parseNamespace raw)) extension.content extension'.content ∧
      (Text.Short e.name → Format.squeeze 0 (linesOf (t.heading options e.name)) =
        (t.heading options e.name).map String.toList) := by
  have none : t.types.refusedTag? e.sorted = none :=
    TypeTable.refusedNone.mpr fun column member => accepted column (Entity.memberSorted.mp member)
  have single : Text.Single (String.intercalate "." (parseNamespace raw)) :=
    .joined (by decide) some fun segment member => parsedSingle member (short segment member)
  obtain ⟨flavor, rfl, declared, same⟩ := Target.flavored sharp
  obtain ⟨columns, done, _⟩ | ⟨tag, _, refused⟩ := flavor.target.types.typedAll e.sorted
  · obtain ⟨main, extension, main', extension', emitted, emitted', wraps, wraps'⟩ :=
      Emit.EntityFramework.artifactsWrapped ending done (declared e.table) single
    rw [← same] at emitted emitted'
    exact ⟨main, extension, main', extension', emitted, emitted', wraps, wraps',
      Target.headingLines _ options⟩
  · cases none.symm.trans refused

theorem memoWrapped :
    Target.entityFrameworkCore ≠ .doctrine ∧
      (∀ column ∈ memoEntity.columns, Target.entityFrameworkCore.types.accepts column.2 = true) ∧
      ({} : Options).lineEnding = .text "\n" ∧ parseNamespace (.text "App. Db.") = ["App", "Db"] ∧
      (∀ segment ∈ ["App", "Db"], Text.Short segment) ∧ Text.Short "Memo" ∧
      ∃ main extension main' extension',
        Target.entityFrameworkCore.emit { memoEntity with segments := [] } {} =
          .ok [main, extension] ∧
        Target.entityFrameworkCore.emit memoEntity {} = .ok [main', extension'] ∧
        Wraps ((Target.entityFrameworkCore.banner "Memo").map String.toList) "App.Db" main.content
          main'.content ∧
        Wraps [] "App.Db" extension.content extension'.content := by
  have sharp : Target.entityFrameworkCore ≠ .doctrine := by decide
  have accepted : ∀ column ∈ memoEntity.columns,
      Target.entityFrameworkCore.types.accepts column.2 = true := by decide
  have parsed : parseNamespace (.text "App. Db.") = ["App", "Db"] := rfl
  have some : parseNamespace (.text "App. Db.") ≠ [] := by simp [parsed]
  have short : ∀ segment ∈ parseNamespace (.text "App. Db."), Text.Short segment := by decide
  have name : Text.Short "Memo" := by decide
  have ending : ({} : Options).lineEnding = .text "\n" := rfl
  obtain ⟨main, extension, main', extension', emitted, emitted', wraps, wraps', front⟩ :=
    namespaceWraps sharp accepted ending some short
  rw [front name] at wraps
  exact ⟨sharp, accepted, ending, parsed, short, name, main, extension, main', extension', emitted,
    emitted', wraps, wraps'⟩

end EntityForge
