import EntityForge.Proofs.Emission
import EntityForge.Proofs.Growth
import EntityForge.Proofs.Keys

/-! Empty types. A column without a type is stored as one with the documented default, on every target;
only the comments of a Doctrine class call the type of an id column without one by another name. -/
namespace EntityForge
open Template
open List (Forall₂)

def Column.explicit (c : Column) : Column :=
  { c with tag := if c.tag = "" then if c.id then "int32" else "string" else c.tag }

def Column.explicitPair (column : String × Column) : String × Column := (column.1, column.2.explicit)

def Column.Misnamed (c : Column) : Prop := c.tag = "" ∧ c.id = true

namespace Column

theorem explicitResolved (c : Column) :
    TypeTable.resolveTag c.explicit.tag c.explicit.id = TypeTable.resolveTag c.tag c.id := by
  unfold explicit TypeTable.resolveTag
  dsimp only
  split
  next => cases c.id <;> rfl
  next => rfl

theorem explicitJson (c : Column) : c.explicit.isJson = c.isJson := by
  unfold isJson explicit
  dsimp only
  split
  next empty =>
    rw [empty]
    cases c.id <;> decide +kernel
  next => rfl

theorem explicitRetags : Emit.Doctrine.Retags explicit :=
  ⟨fun _ => rfl, fun _ => rfl, fun _ => rfl, explicitJson⟩

theorem explicitDocs (c : Column) :
    Growth.TypesGrow (.text (TypeTable.docType c.tag)) (.text (TypeTable.docType c.explicit.tag)) := by
  have short (tag : String) : Text.Short (TypeTable.docType tag) := by
    unfold TypeTable.docType
    split
    · decide
    · split <;> decide
  refine ⟨_, _, rfl, rfl, short _, short _, ?_⟩
  unfold explicit
  dsimp only
  split
  next empty =>
    rw [empty]
    cases c.id <;> decide
  next => exact Nat.le_refl _

theorem explicitMisnamed {c : Column} (misnamed : c.Misnamed) :
    Text.ink (TypeTable.docType c.tag).toList < Text.ink (TypeTable.docType c.explicit.tag).toList := by
  have tag : c.explicit.tag = "int32" := by simp [explicit, misnamed.1, misnamed.2]
  rw [tag, misnamed.1]
  decide

theorem explicitNamed {c : Column} (named : ¬c.Misnamed) :
    TypeTable.docType c.explicit.tag = TypeTable.docType c.tag := by
  unfold explicit
  dsimp only
  split
  next empty =>
    rw [empty, Bool.eq_false_iff.mpr fun id => named ⟨empty, id⟩]
    decide
  next => rfl

end Column

namespace TypeTable

theorem mapExplicit (table : TypeTable) (c : Column) :
    table.mapColumn c.explicit = table.mapColumn c := by
  unfold mapColumn TypeTable.map
  rw [c.explicitResolved]
  rfl

theorem typedExplicit (table : TypeTable) (columns : List (String × Column)) :
    (columns.map Column.explicitPair).mapM table.typeColumn =
      (columns.mapM table.typeColumn).map (List.map (Emit.Doctrine.retagged Column.explicit)) := by
  induction columns with
  | nil => rfl
  | cons column rest ih =>
    rw [List.map_cons, List.mapM_cons, List.mapM_cons, ih, typeColumn, typeColumn,
      Column.explicitPair, mapExplicit]
    cases table.mapColumn column.2 with
    | error failure => rfl
    | ok native => cases rest.mapM table.typeColumn <;> rfl

end TypeTable

namespace Entity

def explicit (e : Entity) : Entity :=
  { e with columns := e.columns.map Column.explicitPair }

theorem sortedExplicit (e : Entity) : e.explicit.sorted = e.sorted.map Column.explicitPair := by
  refine (List.map_mergeSort (f := Column.explicitPair) ?_).symm
  exact fun _ _ _ _ => rfl

end Entity

theorem formattedForeign {options : Options} (other : ¬∃ ending, options.lineEnding = .text ending)
    (code : String) :
    formatted options code = .error (.foreign "line ending without text") := by
  unfold formatted
  split
  next ending given => exact absurd ⟨ending, given⟩ other
  next => rfl

/- The same failure, or the same files up to the text of the first one, the class; `kept` tells whether
that text is the same too. -/
inductive UpToClass (kept : Prop) :
    Except Failure (List Artifact) → Except Failure (List Artifact) → Prop where
  | failed (failure : Failure) : UpToClass kept (.error failure) (.error failure)
  | rendered {main : Artifact} {content : String} {rest : List Artifact} (kind : main.kind = "class")
      (same : content = main.content ↔ kept) :
      UpToClass kept (.ok (main :: rest)) (.ok ({ main with content } :: rest))

theorem UpToClass.sameIff {kept : Prop} {x y : Except Failure (List Artifact)}
    (upToClass : UpToClass kept x y) : y = x ↔ kept ∨ ∃ failure, x = .error failure := by
  cases upToClass with
  | failed failure => simp
  | @rendered main content rest _ same =>
    rw [← same]
    constructor
    · intro equal
      exact .inl (congrArg Artifact.content (List.cons.inj (Except.ok.inj equal)).1)
    · rintro (rfl | ⟨failure, impossible⟩)
      · rfl
      · cases impossible

namespace Emit.Doctrine

abbrev explicits (columns : List (String × Column × String)) : List (String × Column × String) :=
  columns.map (retagged Column.explicit)

def columnScope (e : Entity) (options : Options) (columns : List (String × Column × String))
    (column : String × Column × String) : Scope :=
  ("column", columnView column.1 column.2.1 column.2.2) :: scope e options columns

abbrev columnContext : Context Bool :=
  ("column", .row (columnFields true false)) :: context true true false

variable {e : Entity} {options : Options} {columns : List (String × Column × String)}

theorem explicitRenders (e : Entity) (options : Options) (columns : List (String × Column × String))
    {t : Template} (admitted : agreement.admitsAll (context true true false) t = true) :
    ∃ code, t.render (scope e options columns) = .ok code ∧
      t.render (scope e options (explicits columns)) = .ok code :=
  agreementRender (scopeHolds e options columns Column.explicitRetags (fun _ _ => rfl) (fun _ => rfl)
    fun _ _ read => absurd read Bool.false_ne_true) admitted

theorem quietClass (off : options.comments = false) :
    ∃ code, phpClass.render (scope e options columns) = .ok code ∧
      phpClass.render (scope e options (explicits columns)) = .ok code := by
  have holds : ScopesHold Growth.quiet.alike (context .same .off .unread) (scope e options columns)
      (scope e options (explicits columns)) :=
    scopeHolds e options columns Column.explicitRetags (fun _ => rfl) ⟨by rw [off], by rw [off]⟩
      fun _ _ => trivial
  obtain ⟨l, _, left, right, rfl⟩ := Growth.quiet.admitsAllFilled holds phpClass (by decide +kernel)
  exact ⟨textOf l, renderFilled left, renderFilled right⟩

theorem growthHolds (e : Entity) (options : Options) (columns : List (String × Column × String)) :
    ScopesHold Growth.likeness.alike (context true true false) (scope e options columns)
      (scope e options (explicits columns)) :=
  scopeHolds e options columns Column.explicitRetags (fun _ => rfl) rfl
    fun column _ => column.2.1.explicitDocs

theorem columnHolds (e : Entity) (options : Options) (columns : List (String × Column × String))
    (column : String × Column × String) : ScopesHold Growth.likeness.alike columnContext
      (columnScope e options columns column)
      (columnScope e options (explicits columns) (retagged Column.explicit column)) :=
  .cons (viewHolds Column.explicitRetags (fun _ => rfl) column.2.1.explicitDocs _ _)
    (growthHolds e options columns)

def columnComment : Block := .when (.name "add_comments") [
  .lines ["    /**"],
  .line [
    .text "     * Stores the value of '",
    .hole (.field "column" "name") .plain,
    .text "' column."],
  .lines ["     *"],
  .line [.text "     * @var ", .hole (.field "column" "php_type") .plain],
  .lines ["     **/"]]

theorem commentInClass :
    ∃ body, Block.each "column" (.name "columns") (columnComment :: body) ∈ phpClass := by
  apply Exists.intro
  repeat first | exact .head _ | apply List.Mem.tail

theorem commentGrows (comments : options.comments = true) {column : String × Column × String}
    (misnamed : column.2.1.Misnamed) : Filled Growth.More
      (columnComment.fill (columnScope e options columns column))
      (columnComment.fill
        (columnScope e options (explicits columns) (retagged Column.explicit column))) := by
  have holds := columnHolds e options columns column
  have asked (cs : List (String × Column × String)) (column : String × Column × String) :
      (Source.name "add_comments").read (columnScope e options cs column) = .ok (.bool true) := by
    rw [← comments]
    rfl
  have typeLine : Growth.typeLine columnContext
      (.line [.text "     * @var ", .hole (.field "column" "php_type") .plain]) = true := by
    decide +kernel
  obtain ⟨v, w, l, m, left, right, _, first, second, _, more⟩ := Growth.typeLineFill holds typeLine
  have read (cs : List (String × Column × String)) (column : String × Column × String) :
      (Source.field "column" "php_type").read (columnScope e options cs column) =
        .ok (.text (TypeTable.docType column.2.1.tag)) := rfl
  cases (read _ _).symm.trans left
  cases (read _ _).symm.trans right
  unfold columnComment
  rw [Block.fill, Block.fill, asked, asked]
  exact Likeness.fillAllStrict Growth.moreAbsorbs holds (by decide +kernel) (by simp)
    ⟨l, m, first, second, more (Column.explicitMisnamed misnamed)⟩

theorem classGrows (comments : options.comments = true)
    (misnamed : ∃ column ∈ columns, column.2.1.Misnamed) : Filled Growth.More
      (fillAll (scope e options columns) phpClass)
      (fillAll (scope e options (explicits columns)) phpClass) := by
  obtain ⟨column, member, misnamed⟩ := misnamed
  obtain ⟨body, inClass⟩ := commentInClass
  have holds := growthHolds e options columns
  have admitted : Growth.likeness.admitsAll (context true true false) phpClass = true := by
    decide +kernel
  refine Likeness.fillAllStrict Growth.moreAbsorbs holds admitted inClass ?_
  have inner : Growth.likeness.admitsAll columnContext (columnComment :: body) = true := by
    have each := Likeness.admitsMember admitted inClass
    rw [Likeness.admits, Bool.or_eq_true] at each
    exact each.resolve_right Bool.false_ne_true
  rw [Block.fill, Block.fill]
  have views (cs : List (String × Column × String)) :
      (Source.name "columns").read (scope e options cs) =
        .ok (.list (cs.map fun column => columnView column.1 column.2.1 column.2.2)) := rfl
  rw [views, views, List.map_map]
  refine Likeness.forEachStrict Growth.moreAbsorbs (fun column _ => ?_) member ?_
  · exact Likeness.admitsAllFilled (columnHolds e options columns column) _ inner
  · exact Likeness.fillAllStrict Growth.moreAbsorbs (columnHolds e options columns column) inner
      List.mem_cons_self (commentGrows comments misnamed)

theorem classCodes (e : Entity) (options : Options) (columns : List (String × Column × String)) :
    ∃ code code', phpClass.render (scope e options columns) = .ok code ∧
      phpClass.render (scope e options (explicits columns)) = .ok code' ∧
      ∀ ending, Format.format ending code'.toList = Format.format ending code.toList ↔
        ¬(options.comments = true ∧ ∃ column ∈ columns, column.2.1.Misnamed) := by
  cases comments : options.comments with
  | false =>
    obtain ⟨code, left, right⟩ := quietClass comments
    exact ⟨code, code, left, right, fun _ => by simp⟩
  | true =>
    by_cases misnamed : ∃ column ∈ columns, column.2.1.Misnamed
    · obtain ⟨l, m, left, right, grown⟩ := Growth.likeness.admitsAllFilled
        (growthHolds e options columns) phpClass (by decide +kernel)
      obtain ⟨_, _, left', right', more⟩ := classGrows (e := e) comments misnamed
      cases left.symm.trans left'
      cases right.symm.trans right'
      refine ⟨textOf l, textOf m, renderFilled left, renderFilled right, fun ending => ?_⟩
      have differs := Grown.formatDiffers grown more ending
      simpa [misnamed] using differs.symm
    · have holds : ScopesHold agreement.alike (context true true true) (scope e options columns)
          (scope e options (explicits columns)) :=
        scopeHolds e options columns Column.explicitRetags (fun _ _ => rfl) (fun _ => rfl)
          fun column member _ => by
            rw [Column.explicitNamed fun other => misnamed ⟨column, member, other⟩]
      obtain ⟨code, left, right⟩ := agreementRender holds (t := phpClass) (by decide +kernel)
      exact ⟨code, code, left, right, fun _ => by simp [misnamed]⟩

theorem typedMember (done : typed e = .ok columns) {p : Column → Prop} :
    (∃ column ∈ columns, p column.2.1) ↔ ∃ column ∈ e.columns, p column.2 := by
  have sources := TypeTable.typedColumns (TypeTable.typedIff.mp done)
  constructor
  · rintro ⟨column, member, holds⟩
    have there : column.2.1 ∈ e.sorted.map Prod.snd := sources ▸ List.mem_map_of_mem member
    obtain ⟨origin, place, same⟩ := List.mem_map.mp there
    exact ⟨origin, Entity.memberSorted.mp place, same ▸ holds⟩
  · rintro ⟨column, member, holds⟩
    have there : column.2 ∈ columns.map (fun column => column.2.1) :=
      sources ▸ List.mem_map_of_mem (Entity.memberSorted.mpr member)
    obtain ⟨entry, place, same⟩ := List.mem_map.mp there
    exact ⟨entry, place, same ▸ holds⟩

theorem filesUpToClass {kept : Prop} {code code' : String}
    (differs : ∀ ending, Format.format ending code'.toList = Format.format ending code.toList ↔ kept)
    (traitCode mappingCode : String) : UpToClass kept
      (filesFrom e options code traitCode mappingCode)
      (filesFrom e options code' traitCode mappingCode) := by
  unfold filesFrom
  by_cases plain : ∃ ending, options.lineEnding = .text ending
  · obtain ⟨ending, given⟩ := plain
    have text (code : String) : formatted options code =
        .ok (String.ofList (Format.format ending.toList code.toList)) := by
      rw [formatted, given]
    simp only [text]
    cases mappingDir e options with
    | error failure => exact .failed failure
    | ok dir =>
      have same : String.ofList (Format.format ending.toList code'.toList) =
          String.ofList (Format.format ending.toList code.toList) ↔ kept := by
        rw [String.ofList_inj, differs]
      exact .rendered rfl same
  · simp only [formattedForeign plain]
    exact .failed _

theorem artifactsExplicit (e : Entity) (options : Options) :
    UpToClass (¬(options.comments = true ∧ ∃ column ∈ e.columns, column.2.Misnamed))
      (artifacts e options) (artifacts e.explicit options) := by
  have both : typed e.explicit = (typed e).map (List.map (retagged Column.explicit)) := by
    rw [typedMap, typedMap, Entity.sortedExplicit, TypeTable.typedExplicit]
  cases done : typed e with
  | error failure =>
    rw [done] at both
    rw [artifacts, artifacts, done, both]
    exact .failed failure
  | ok columns =>
    rw [done] at both
    obtain ⟨code, code', left, right, differs⟩ := classCodes e options columns
    obtain ⟨traitCode, extension, extension'⟩ :=
      explicitRenders e options columns (t := phpTrait) (by decide +kernel)
    obtain ⟨mappingCode, mapping, mapping'⟩ :=
      explicitRenders e options columns (t := xmlMapping) (by decide +kernel)
    have files : artifacts e.explicit options = filesFrom e options code' traitCode mappingCode :=
      artifactsRendered both right extension' mapping'
    rw [files, artifactsRendered done left extension mapping]
    exact filesUpToClass (fun ending => by rw [differs, typedMember done]) traitCode mappingCode

end Emit.Doctrine

namespace Emit.EntityFramework

theorem artifactsExplicit {flavor : Flavor} (same : ∀ name c,
      flavor.propertyAttributes name c.explicit = flavor.propertyAttributes name c)
    (e : Entity) (options : Options) :
    artifacts flavor e.explicit options = artifacts flavor e options := by
  have both : typed flavor e.explicit =
      (typed flavor e).map (List.map (Doctrine.retagged Column.explicit)) := by
    rw [typedMap, typedMap, Entity.sortedExplicit, TypeTable.typedExplicit]
  have view (columns : List (String × Column × String)) :
      scope flavor e.explicit options (columns.map (Doctrine.retagged Column.explicit)) =
        scope flavor e options columns := by
    have columnSame (name : String) (c : Column) (native : String) :
        columnView flavor name c.explicit native = columnView flavor name c native := by
      unfold columnView
      rw [same]
      rfl
    unfold scope
    rw [List.map_map]
    simp only [Function.comp_def, Doctrine.retagged, columnSame]
    rfl
  rw [artifacts, artifacts, both]
  cases typed flavor e with
  | error failure => rfl
  | ok columns =>
    simp only [Except.map, bind, Except.bind, view]
    rfl

theorem classFirst {flavor : Flavor} {e : Entity} {options : Options} {files : List Artifact}
    (emitted : artifacts flavor e options = .ok files) :
    ∃ main rest, files = main :: rest ∧ main.kind = "class" := by
  obtain ⟨_, _, _, _, _, _, rfl⟩ := artifactsOk.mp emitted
  exact ⟨_, _, rfl, rfl⟩

end Emit.EntityFramework

namespace Entries

theorem fieldInsert (entries : Entries) (name other : String) (v : Value) :
    field? (insert entries (.text name) v) other =
      if name = other then some v else field? entries other := by
  rw [field?, getInsert, Value.textKey]
  by_cases same : name = other <;> simp [same, field?]

end Entries

def Column.explicitValue (v : Value) : Value :=
  if (ofValue v).tag = "" then
    match v.opened with
    | .map entries => .map (Entries.insert entries (.text "type")
        (.text (if (ofValue v).id then "int32" else "string")))
    | _ => .text "string"
  else v

def Description.explicit (d : Description) : Description :=
  { d with columns := match d.columns.opened with
      | .map entries => .map (entries.map fun entry => (entry.1, Column.explicitValue entry.2))
      | _ => d.columns }

theorem Column.explicitRead (v : Value) : ofValue (explicitValue v) = (ofValue v).explicit := by
  have defaults : (Value.text "int32").folded = "int32" ∧ (Value.text "string").folded = "string" := by
    decide +kernel
  unfold explicitValue
  by_cases empty : (ofValue v).tag = ""
  · rw [if_pos empty]
    unfold explicit
    rw [empty, if_pos rfl]
    split
    next entries mapping =>
      have same : ofValue v = ofValue (.map entries) := by
        unfold ofValue
        rw [mapping]
        rfl
      rw [same]
      cases id : (ofValue (.map entries)).id <;>
        simpa [ofValue, Entries.fieldInsert, defaults] using id
    next other =>
      have bare : ofValue v = { tag := v.folded } := by
        unfold ofValue
        split
        next entries mapping => exact absurd mapping (other entries)
        next => rfl
      rw [bare]
      simp [ofValue, defaults]
  · rw [if_neg empty]
    simp [explicit, empty]

namespace Entity

theorem explicitColumns (entity : String) (found : List (String × Column)) (entries : Entries) :
    readColumns entity (found.map Column.explicitPair)
        (entries.map fun entry => (entry.1, Column.explicitValue entry.2)) =
      (readColumns entity found entries).map (List.map Column.explicitPair) := by
  induction entries generalizing found with
  | nil => rfl
  | cons entry rest ih =>
    have known (name : String) :
        ((found.map Column.explicitPair).lookup name).isSome = (found.lookup name).isSome := by
      rw [Bool.eq_iff_iff, List.lookup_isSome_iff, List.lookup_isSome_iff]
      simp [Column.explicitPair]
    rw [List.map_cons, readColumns, readColumns]
    cases readName entry.1 "column" with
    | error failure => rfl
    | ok name =>
      dsimp only
      rw [known, Column.explicitRead]
      split
      · rfl
      · rw [← ih, List.map_append]
        rfl

theorem explicitNormalize (cwd : Location) (key : Value) (description : Description)
    (segments : List String) (outDir : Path) :
    normalize cwd key description.explicit segments outDir =
      (normalize cwd key description segments outDir).map explicit := by
  have described : ofDescription key description.explicit segments (outDir.resolve cwd) =
      (ofDescription key description segments (outDir.resolve cwd)).map explicit := by
    unfold ofDescription Description.explicit
    cases readName key "class" with
    | error failure => rfl
    | ok name =>
      simp only [bind, Except.bind]
      cases shape : description.columns.opened with
      | map entries =>
        dsimp only [Value.opened]
        have columns := explicitColumns name [] entries
        rw [List.map_nil] at columns
        rw [columns]
        cases readColumns name [] entries <;> rfl
      | _ =>
        dsimp only
        rw [shape]
        rfl
  unfold normalize
  rw [described]
  cases ofDescription key description segments (outDir.resolve cwd) with
  | error failure => rfl
  | ok e => cases outDir.hasNul <;> rfl

end Entity

def Target.Misnames (t : Target) (options : Options) (e : Entity) : Prop :=
  t = .doctrine ∧ options.comments = true ∧ ∃ column ∈ e.columns, column.2.Misnamed

theorem Target.emitExplicit (t : Target) (e : Entity) (options : Options) :
    UpToClass (¬t.Misnames options e) (t.emit e options) (t.emit e.explicit options) := by
  have framework {flavor : Emit.EntityFramework.Flavor} (other : t ≠ .doctrine)
      (same : ∀ name c, flavor.propertyAttributes name c.explicit = flavor.propertyAttributes name c) :
      UpToClass (¬t.Misnames options e) (Emit.EntityFramework.artifacts flavor e options)
        (Emit.EntityFramework.artifacts flavor e.explicit options) := by
    rw [Emit.EntityFramework.artifactsExplicit same]
    cases emitted : Emit.EntityFramework.artifacts flavor e options with
    | error failure => exact .failed failure
    | ok files =>
      obtain ⟨main, rest, rfl, kind⟩ := Emit.EntityFramework.classFirst emitted
      exact .rendered kind (by simp [Misnames, other])
  cases t with
  | doctrine =>
    have misnames : Target.doctrine.Misnames options e ↔
        options.comments = true ∧ ∃ column ∈ e.columns, column.2.Misnamed :=
      ⟨And.right, fun misnamed => ⟨rfl, misnamed⟩⟩
    rw [misnames]
    exact Emit.Doctrine.artifactsExplicit e options
  | entityFramework => exact framework (by decide) fun _ _ => rfl
  | entityFrameworkCore => exact framework (by decide) fun _ _ => rfl

/- With the defaults named, on any target and with any options, nothing changes but the text of a
Doctrine class; and that one changes exactly if there are comments and an id column without a type.
Naming the defaults in a description is naming them in the checked entity. -/
theorem defaultTypes (t : Target) (options : Options) (e : Entity) :
    (t.emit e.explicit options = t.emit e options ↔
        ¬t.Misnames options e ∨ ∃ failure, t.emit e options = .error failure) ∧
      UpToClass (¬t.Misnames options e) (t.emit e options) (t.emit e.explicit options) ∧
      ∀ (cwd : Location) (key : Value) (description : Description) (segments : List String)
        (outDir : Path), Entity.normalize cwd key description.explicit segments outDir =
          (Entity.normalize cwd key description segments outDir).map Entity.explicit := by
  have upToClass := t.emitExplicit e options
  exact ⟨upToClass.sameIff, upToClass, Entity.explicitNormalize⟩

def idDescription : Description := .ofValue (.map [(.text "columns", .map [
  (.text "id", .map [(.text "id", .bool true)])])])

def idEntity : Entity where
  name := "User"
  segments := []
  table := "User"
  columns := [("id", { tag := "", id := true })]
  outDir := ⟨.root, ["w", "out"]⟩

theorem idTypeShows :
    Entity.normalize [] (.text "User") idDescription [] (.ofText "/w/out") = .ok idEntity ∧
      Entity.normalize [] (.text "User") idDescription.explicit [] (.ofText "/w/out") =
        .ok idEntity.explicit ∧
      Target.doctrine.emit idEntity.explicit {} ≠ Target.doctrine.emit idEntity {} := by
  have checked : Entity.normalize [] (.text "User") idDescription [] (.ofText "/w/out") =
      .ok idEntity := rfl
  refine ⟨checked, by rw [Entity.explicitNormalize, checked]; rfl, ?_⟩
  obtain ⟨artifacts, emitted⟩ : ∃ artifacts, Target.doctrine.emit idEntity {} = .ok artifacts :=
    Target.doctrine.emitAccepted plainDefault (by decide)
  intro same
  rcases (Target.doctrine.emitExplicit idEntity {}).sameIff.mp same with named | ⟨failure, failed⟩
  · exact named ⟨rfl, rfl, _, List.mem_cons_self, rfl, rfl⟩
  · cases emitted.symm.trans failed

end EntityForge
