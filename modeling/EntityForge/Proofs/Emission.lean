import EntityForge.Proofs.Columns
import EntityForge.Proofs.Templates

/-! Rendering the files of an entity. The scopes offer what the templates read, so with plain options
only a type without a native one stands in the way, and the first such column is the one named. -/
namespace EntityForge
open Template
open List (Forall₂)

namespace TypeTable

def accepts (table : TypeTable) (c : Column) : Bool :=
  (table.native? (resolveTag c.tag c.id)).isSome

def mapColumn (table : TypeTable) (c : Column) : Except Failure String :=
  table.map c.tag c.id c.nullable

def typeColumn (table : TypeTable) (column : String × Column) :
    Except Failure (String × Column × String) := do
  return (column.1, column.2, ← table.mapColumn column.2)

def refusedTag? (table : TypeTable) (columns : List (String × Column)) : Option String :=
  (columns.find? fun column => !table.accepts column.2).map fun column =>
    resolveTag column.2.tag column.2.id

variable {table : TypeTable} {c : Column} {columns : List (String × Column)}

theorem mapAccepted (accepted : table.accepts c = true) :
    ∃ native, table.mapColumn c = .ok native := by
  obtain ⟨native, found⟩ := Option.isSome_iff_exists.mp accepted
  unfold mapColumn TypeTable.map
  dsimp only
  rw [found]
  exact ⟨_, rfl⟩

theorem mapRefused (refused : table.accepts c = false) :
    table.mapColumn c = .error (.unsupportedType (resolveTag c.tag c.id) table.target) := by
  have missing : table.native? (resolveTag c.tag c.id) = none := by
    simpa [accepts] using refused
  unfold mapColumn TypeTable.map
  dsimp only
  rw [missing]

theorem refusedCons (column : String × Column) (rest : List (String × Column)) :
    table.refusedTag? (column :: rest) = if table.accepts column.2 then table.refusedTag? rest
      else some (resolveTag column.2.tag column.2.id) := by
  unfold refusedTag?
  rw [List.find?_cons]
  cases table.accepts column.2 <;> rfl

theorem refusedNone :
    table.refusedTag? columns = none ↔ ∀ column ∈ columns, table.accepts column.2 = true := by
  simp [refusedTag?]

theorem typedAll (table : TypeTable) (columns : List (String × Column)) :
    (∃ typed, columns.mapM table.typeColumn = .ok typed ∧ table.refusedTag? columns = none) ∨
      ∃ tag, columns.mapM table.typeColumn = .error (.unsupportedType tag table.target) ∧
        table.refusedTag? columns = some tag := by
  induction columns with
  | nil => exact .inl ⟨[], rfl, rfl⟩
  | cons column rest ih =>
    rw [List.mapM_cons, refusedCons]
    cases accepted : table.accepts column.2 with
    | false =>
      refine .inr ⟨_, ?_, rfl⟩
      rw [typeColumn, mapRefused accepted]
      rfl
    | true =>
      obtain ⟨native, mapped⟩ := mapAccepted accepted
      rw [typeColumn, mapped]
      rcases ih with ⟨typed, done, fine⟩ | ⟨tag, failed, first⟩
      · exact .inl ⟨_, by rw [done]; rfl, fine⟩
      · exact .inr ⟨tag, by rw [failed]; rfl, first⟩

structure Typed (table : TypeTable) (column : String × Column) (entry : String × Column × String) :
    Prop where
  name : entry.1 = column.1
  same : entry.2.1 = column.2
  native : table.mapColumn column.2 = .ok entry.2.2

theorem typedIff {typed : List (String × Column × String)} :
    columns.mapM table.typeColumn = .ok typed ↔ Forall₂ (Typed table) columns typed := by
  constructor
  · refine fun done => (mapMEach done).imp fun column entry ⟨_, typed⟩ => ?_
    obtain ⟨native, mapped, made⟩ := exceptBindOk typed
    cases made
    exact ⟨rfl, rfl, mapped⟩
  · intro all
    induction all with
    | nil => rfl
    | @cons column entry _ _ here _ ih =>
      obtain ⟨name, c, native⟩ := entry
      obtain ⟨rfl, rfl, mapped⟩ := here
      rw [List.mapM_cons, typeColumn, mapped, ih]
      rfl

theorem typedEntries {typed : List (String × Column × String)}
    (all : Forall₂ (Typed table) columns typed) :
    typed.map (fun entry => (entry.1, entry.2.1)) = columns ∧
      ∀ entry ∈ typed, table.mapColumn entry.2.1 = .ok entry.2.2 := by
  induction all with
  | nil => exact ⟨rfl, List.forall_mem_nil _⟩
  | cons here _ ih =>
    obtain ⟨name, same, native⟩ := here
    exact ⟨by rw [List.map_cons, ih.1, name, same], List.forall_mem_cons.mpr ⟨same ▸ native, ih.2⟩⟩

theorem typedColumns {typed : List (String × Column × String)}
    (all : Forall₂ (Typed table) columns typed) :
    typed.map (fun entry => entry.2.1) = columns.map Prod.snd := by
  rw [← (typedEntries all).1, List.map_map]
  rfl

end TypeTable

namespace Emit.Doctrine

theorem typedMap (e : Entity) : typed e = e.sorted.mapM TypeTable.doctrine.typeColumn := rfl

section Scopes
variable {κ : Type} (same comments doc : κ)

def columnFields : List (String × Shape κ) := [
  ("name", .one same), ("doctrine_type", .one same), ("php_type", .one doc), ("is_id", .one same),
  ("is_auto", .one same), ("nullable", .one same), ("is_json", .one same), ("getter", .one same),
  ("setter", .one same)]

def context : Context κ := [
  ("add_header", .plain (.one same)), ("add_comments", .plain (.one comments)),
  ("class_name", .plain (.one same)), ("table_name", .plain (.one same)),
  ("php_namespace", .plain (.one same)), ("trait_namespace", .plain (.one same)),
  ("entity_name", .plain (.one same)), ("columns", .rows (columnFields same doc)),
  ("mapping_columns", .rows (columnFields same doc)), ("xmlns", .plain (.one same)),
  ("xsd", .plain (.one same))]

variable {same comments doc} {alike : κ → Value → Value → Prop}

def retagged (retag : Column → Column) (column : String × Column × String) :
    String × Column × String :=
  (column.1, retag column.2.1, column.2.2)

structure Retags (retag : Column → Column) : Prop where
  id c : (retag c).id = c.id
  auto c : (retag c).auto = c.auto
  nullable c : (retag c).nullable = c.nullable
  json c : (retag c).isJson = c.isJson

theorem viewHolds {retag : Column → Column} (retags : Retags retag) (refl : ∀ v, alike same v v)
    {c : Column} (docs : alike doc (.text (TypeTable.docType c.tag))
      (.text (TypeTable.docType (retag c).tag))) (name native : String) :
    RowHolds alike (columnFields same doc) (columnView name c native)
      (columnView name (retag c) native) := by
  unfold columnView
  rw [retags.id, retags.auto, retags.nullable, retags.json]
  exact ⟨_, _, rfl, rfl, .cons (refl _) (.cons (refl _) (.cons docs (.cons (refl _)
    (.cons (refl _) (.cons (refl _) (.cons (refl _) (.cons (refl _) (.cons (refl _) .nil))))))))⟩

theorem scopeHolds (e : Entity) (options : Options) (columns : List (String × Column × String))
    {retag : Column → Column} (retags : Retags retag) (refl : ∀ v, alike same v v)
    (remarks : alike comments (.bool options.comments) (.bool options.comments))
    (docs : ∀ column ∈ columns, alike doc (.text (TypeTable.docType column.2.1.tag))
      (.text (TypeTable.docType (retag column.2.1).tag))) :
    ScopesHold alike (context same comments doc) (scope e options columns)
      (scope e options (columns.map (retagged retag))) := by
  have views {cs : List (String × Column × String)} (part : cs ⊆ columns) :
      ItemsHold (RowHolds alike (columnFields same doc))
        (.list (cs.map fun column => columnView column.1 column.2.1 column.2.2))
        (.list ((cs.map (retagged retag)).map fun column =>
          columnView column.1 column.2.1 column.2.2)) := by
    refine ⟨_, _, rfl, rfl, ?_⟩
    rw [List.map_map, List.forall₂_map_left_iff, List.forall₂_map_right_iff, List.forall₂_same]
    exact fun column member => viewHolds retags refl (docs column (part member)) column.1 column.2.2
  have sorted : (columns.map (retagged retag)).mergeSort mappingBefore =
      (columns.mergeSort mappingBefore).map (retagged retag) := by
    refine (List.map_mergeSort fun a _ b _ => ?_).symm
    simp only [mappingBefore, retagged, retags.id]
  unfold scope
  rw [sorted]
  exact .cons (refl _) (.cons remarks (.cons (refl _) (.cons (refl _) (.cons (refl _) (.cons (refl _)
    (.cons (refl _) (.cons (views (List.Subset.refl _)) (.cons (views (List.mergeSort_perm _ _).subset)
    (.cons (refl _) (.cons (refl _) .nil))))))))))

end Scopes

end Emit.Doctrine

namespace Emit.EntityFramework

theorem typedMap (flavor : Flavor) (e : Entity) :
    typed flavor e = e.sorted.mapM flavor.target.types.typeColumn := rfl

section Scopes
variable {κ : Type} (same name label : κ) (bases attributes : Shape κ)

def columnFields : List (String × Shape κ) := [
  ("name", .one same), ("clr_type", .one same), ("field", .one same), ("property", .one same),
  ("is_id", .one same), ("is_auto", .one same), ("has_setter", .one same), ("attributes", attributes)]

def context : Context κ := [
  ("add_header", .plain (.one same)), ("add_comments", .plain (.one same)),
  ("target_name", .plain (.one label)), ("class_name", .plain (.one name)),
  ("table_name", .plain (.one same)), ("cs_namespace", .plain (.one same)),
  ("class_attributes", .plain attributes), ("base_types", .plain bases),
  ("columns", .rows (columnFields same attributes))]

variable {same name label bases attributes} {alike : κ → Value → Value → Prop}

structure Related (alike : κ → Value → Value → Prop) (same name label : κ) (bases attributes : Shape κ)
    (f g : Flavor) (e : Entity) (columns : List (String × Column × String)) : Prop where
  refl v : alike same v v
  name : alike name (.text e.name) (.text e.name)
  label : alike label (.text f.target.displayName) (.text g.target.displayName)
  bases : bases.Holds alike (texts f.baseTypes) (texts g.baseTypes)
  ofClass : attributes.Holds alike (texts (f.classAttributes e.table))
    (texts (g.classAttributes e.table))
  ofProperty : ∀ column ∈ columns, attributes.Holds alike
    (texts (f.propertyAttributes column.1 column.2.1))
    (texts (g.propertyAttributes column.1 column.2.1))

theorem scopeHolds {f g : Flavor} {e : Entity} (options : Options)
    {columns : List (String × Column × String)}
    (related : Related alike same name label bases attributes f g e columns) :
    ScopesHold alike (context same name label bases attributes) (scope f e options columns)
      (scope g e options columns) := by
  have refl := related.refl
  have views : ItemsHold (RowHolds alike (columnFields same attributes))
      (.list (columns.map fun column => columnView f column.1 column.2.1 column.2.2))
      (.list (columns.map fun column => columnView g column.1 column.2.1 column.2.2)) := by
    refine ⟨_, _, rfl, rfl, ?_⟩
    rw [List.forall₂_map_left_iff, List.forall₂_map_right_iff, List.forall₂_same]
    intro column member
    exact ⟨_, _, rfl, rfl, .cons (refl _) (.cons (refl _) (.cons (refl _) (.cons (refl _)
      (.cons (refl _) (.cons (refl _) (.cons (refl _) (.cons (related.ofProperty column member)
      .nil)))))))⟩
  exact .cons (refl _) (.cons (refl _) (.cons related.label (.cons related.name (.cons (refl _)
    (.cons (refl _) (.cons related.ofClass (.cons related.bases (.cons views .nil))))))))

end Scopes

end Emit.EntityFramework

def formatted (options : Options) (code : String) : Except Failure String :=
  match options.lineEnding with
  | .text ending => .ok (String.ofList (Format.format ending.toList code.toList))
  | _ => .error (.foreign "line ending without text")

theorem formattedRender {name : String} {template : Template} {scope : Scope} {options : Options}
    {code : String} (rendered : template.render scope = .ok code) :
    renderFormatted name template scope options = formatted options code := by
  unfold renderFormatted renderPlain formatted
  rw [rendered]
  cases options.lineEnding <;> rfl

theorem renderedLines {name : String} {template : Template} {scope : Scope} {options : Options}
    {content : String} (rendered : renderFormatted name template scope options = .ok content) :
    ∃ texts, fillAll scope template = .ok texts ∧ formatted options (textOf texts) = .ok content := by
  cases filled : fillAll scope template with
  | error fault =>
    have failed : template.render scope = .error fault := by
      rw [Template.render, filled]
      rfl
    rw [renderFormatted, renderPlain, failed] at rendered
    cases fault <;> cases rendered
  | ok texts => exact ⟨texts, rfl, (formattedRender (renderFilled filled)).symm.trans rendered⟩

structure Options.Plain (options : Options) : Prop where
  ending : ∃ text, options.lineEnding = .text text
  xmlOutDir : options.xmlOutDir = .null ∨ ∃ text, options.xmlOutDir = .text text

theorem Options.Plain.formatted {options : Options} (plain : options.Plain) (code : String) :
    ∃ content, formatted options code = .ok content := by
  obtain ⟨text, given⟩ := plain.ending
  exact ⟨_, by rw [EntityForge.formatted, given]⟩

namespace Emit.Doctrine

theorem scopeSelf (e : Entity) (options : Options) (columns : List (String × Column × String)) :
    ScopesHold agreement.alike (context true true true) (scope e options columns)
      (scope e options columns) := by
  have kept : columns.map (retagged id) = columns := List.map_id columns
  have holds : ScopesHold agreement.alike (context true true true) (scope e options columns)
      (scope e options (columns.map (retagged id))) :=
    scopeHolds e options columns ⟨fun _ => rfl, fun _ => rfl, fun _ => rfl, fun _ => rfl⟩
      (fun _ _ => rfl) (fun _ => rfl) (fun _ _ _ => rfl)
  rwa [kept] at holds

theorem scopeRenders {t : Template}
    (admitted : agreement.admitsAll (context true true true) t = true) (e : Entity)
    (options : Options) (columns : List (String × Column × String)) :
    ∃ code, t.render (scope e options columns) = .ok code := by
  obtain ⟨code, rendered, _⟩ := agreementRender (scopeSelf e options columns) admitted
  exact ⟨code, rendered⟩

theorem mappingDirPlain {options : Options} (plain : options.Plain) (e : Entity) :
    ∃ dir, mappingDir e options = .ok dir := by
  rcases plain.xmlOutDir with given | ⟨text, given⟩
  · exact ⟨e.outDir, by rw [mappingDir, given]; rfl⟩
  · exact ⟨_, by rw [mappingDir, given]⟩

def filesFrom (e : Entity) (options : Options) (phpCode traitCode mappingCode : String) :
    Except Failure (List Artifact) := do
  let main ← formatted options phpCode
  let extension ← formatted options traitCode
  let dir ← mappingDir e options
  let mapping ← formatted options mappingCode
  return filesOf e main extension dir mapping

theorem artifactsRendered {e : Entity} {options : Options} {columns : List (String × Column × String)}
    {phpCode traitCode mappingCode : String} (done : typed e = .ok columns)
    (first : phpClass.render (scope e options columns) = .ok phpCode)
    (second : phpTrait.render (scope e options columns) = .ok traitCode)
    (third : xmlMapping.render (scope e options columns) = .ok mappingCode) :
    Doctrine.artifacts e options = filesFrom e options phpCode traitCode mappingCode := by
  unfold Doctrine.artifacts filesFrom filesOf
  simp only [done, formattedRender first, formattedRender second, formattedRender third, bind,
    Except.bind]

theorem artifactsTyped {e : Entity} {options : Options} (plain : options.Plain)
    {columns : List (String × Column × String)} (done : typed e = .ok columns) :
    ∃ artifacts, Doctrine.artifacts e options = .ok artifacts := by
  obtain ⟨phpCode, first⟩ := scopeRenders (t := phpClass) (by decide +kernel) e options columns
  obtain ⟨traitCode, second⟩ := scopeRenders (t := phpTrait) (by decide +kernel) e options columns
  obtain ⟨mappingCode, third⟩ := scopeRenders (t := xmlMapping) (by decide +kernel) e options columns
  obtain ⟨_, main⟩ := plain.formatted phpCode
  obtain ⟨_, extension⟩ := plain.formatted traitCode
  obtain ⟨_, last⟩ := plain.formatted mappingCode
  obtain ⟨_, dir⟩ := mappingDirPlain plain e
  rw [artifactsRendered done first second third, filesFrom, main, extension, dir, last]
  exact ⟨_, rfl⟩

end Emit.Doctrine

namespace Emit.EntityFramework

theorem scopeSelf (flavor : Flavor) (e : Entity) (options : Options)
    (columns : List (String × Column × String)) :
    ScopesHold agreement.alike (context true true true (.many true) (.many true))
      (scope flavor e options columns) (scope flavor e options columns) := by
  have list (items : List String) :
      (Shape.many true).Holds agreement.alike (texts items) (texts items) :=
    ⟨_, _, rfl, rfl, List.forall₂_same.mpr fun _ _ _ => rfl⟩
  exact scopeHolds options
    ⟨fun _ _ => rfl, fun _ => rfl, fun _ => rfl, list _, list _, fun _ _ => list _⟩

theorem scopeRenders {t : Template} (flavor : Flavor)
    (admitted : agreement.admitsAll (context true true true (.many true) (.many true)) t = true)
    (e : Entity) (options : Options) (columns : List (String × Column × String)) :
    ∃ code, t.render (scope flavor e options columns) = .ok code := by
  obtain ⟨code, rendered, _⟩ := agreementRender (scopeSelf flavor e options columns) admitted
  exact ⟨code, rendered⟩

theorem artifactsTyped {flavor : Flavor} {e : Entity} {options : Options} (plain : options.Plain)
    {columns : List (String × Column × String)} (done : typed flavor e = .ok columns) :
    ∃ artifacts, EntityFramework.artifacts flavor e options = .ok artifacts := by
  obtain ⟨main, first⟩ := scopeRenders flavor (t := csharpClass) (by decide +kernel) e options columns
  obtain ⟨extensions, second⟩ :=
    scopeRenders flavor (t := csharpExtensions) (by decide +kernel) e options columns
  obtain ⟨_, main⟩ := plain.formatted main
  obtain ⟨_, extension⟩ := plain.formatted extensions
  exact ⟨_, artifactsOk.mpr ⟨columns, _, _, done, (formattedRender first).trans main,
    (formattedRender second).trans extension, rfl⟩⟩

end Emit.EntityFramework

namespace Target

theorem flavored {t : Target} (sharp : t ≠ .doctrine) : ∃ flavor : Emit.EntityFramework.Flavor,
    flavor.target = t ∧ (∀ table, flavor.classAttributes table ≠ []) ∧
      ∀ e options, t.emit e options = Emit.EntityFramework.artifacts flavor e options := by
  cases t with
  | doctrine => exact absurd rfl sharp
  | entityFramework =>
    exact ⟨Emit.EntityFramework.classic, rfl, fun _ => List.cons_ne_nil _ _, fun _ _ => rfl⟩
  | entityFrameworkCore =>
    exact ⟨Emit.EntityFramework.core, rfl, fun _ => List.cons_ne_nil _ _, fun _ _ => rfl⟩

theorem emitPlain (t : Target) (e : Entity) {options : Options} (plain : options.Plain) :
    (∃ artifacts, t.emit e options = .ok artifacts ∧ t.types.refusedTag? e.sorted = none) ∨
      ∃ tag, t.emit e options = .error (.unsupportedType tag t.displayName) ∧
        t.types.refusedTag? e.sorted = some tag := by
  rcases t.types.typedAll e.sorted with ⟨columns, done, fine⟩ | ⟨tag, failed, first⟩
  · refine .inl ?_
    cases t with
    | doctrine =>
      obtain ⟨artifacts, emitted⟩ := Emit.Doctrine.artifactsTyped (e := e) plain done
      exact ⟨artifacts, emitted, fine⟩
    | entityFramework =>
      have typed : Emit.EntityFramework.typed Emit.EntityFramework.classic e = .ok columns := done
      obtain ⟨artifacts, emitted⟩ := Emit.EntityFramework.artifactsTyped plain typed
      exact ⟨artifacts, emitted, fine⟩
    | entityFrameworkCore =>
      have typed : Emit.EntityFramework.typed Emit.EntityFramework.core e = .ok columns := done
      obtain ⟨artifacts, emitted⟩ := Emit.EntityFramework.artifactsTyped plain typed
      exact ⟨artifacts, emitted, fine⟩
  · refine .inr ⟨tag, ?_, first⟩
    cases t with
    | doctrine =>
      rw [emit, Emit.Doctrine.artifacts, Emit.Doctrine.typedMap]
      exact congrArg (· >>= _) failed
    | entityFramework =>
      rw [emit, Emit.EntityFramework.artifacts, Emit.EntityFramework.typedMap]
      exact congrArg (· >>= _) failed
    | entityFrameworkCore =>
      rw [emit, Emit.EntityFramework.artifacts, Emit.EntityFramework.typedMap]
      exact congrArg (· >>= _) failed

theorem emitAccepted (t : Target) {e : Entity} {options : Options} (plain : options.Plain)
    (accepted : ∀ column ∈ e.columns, t.types.accepts column.2 = true) :
    ∃ artifacts, t.emit e options = .ok artifacts := by
  rcases t.emitPlain e plain with ⟨artifacts, emitted, _⟩ | ⟨tag, _, refused⟩
  · exact ⟨artifacts, emitted⟩
  · have none : t.types.refusedTag? e.sorted = none :=
      TypeTable.refusedNone.mpr fun column member => accepted column (Entity.memberSorted.mp member)
    cases none.symm.trans refused

end Target

namespace TypeTable
variable {table other : TypeTable}

theorem acceptsKey (table : TypeTable) (c : Column) :
    table.accepts c = true ↔ resolveTag c.tag c.id ∈ table.natives.map Prod.fst := by
  simp [accepts, native?, List.lookup_isSome_iff]

theorem acceptsMore (more : table.natives.map Prod.fst ⊆ other.natives.map Prod.fst) {c : Column}
    (accepted : table.accepts c = true) : other.accepts c = true :=
  (acceptsKey other c).mpr (more ((acceptsKey table c).mp accepted))

theorem refusedSame (same : table.natives.map Prod.fst = other.natives.map Prod.fst)
    (columns : List (String × Column)) : table.refusedTag? columns = other.refusedTag? columns := by
  have accepts : table.accepts = other.accepts := by
    funext c
    rw [Bool.eq_iff_iff, acceptsKey, acceptsKey, same]
  rw [refusedTag?, refusedTag?, accepts]

def FirstRefused (table : TypeTable) (e : Entity) (tag : String) : Prop :=
  ∃ before name after c, e.columnNames = before ++ name :: after ∧
    e.columns.lookup name = some c ∧ table.accepts c = false ∧ tag = resolveTag c.tag c.id ∧
    ∀ earlier ∈ before, ∃ d, e.columns.lookup earlier = some d ∧ table.accepts d = true

theorem firstRefusedIff {e : Entity} (apart : (e.columns.map Prod.fst).Nodup) {tag : String} :
    table.FirstRefused e tag ↔ table.refusedTag? e.sorted = some tag := by
  have found {column : String × Column} (member : column ∈ e.sorted) :
      e.columns.lookup column.1 = some column.2 :=
    lookupApart apart (Entity.memberSorted.mp member)
  constructor
  · rintro ⟨before, name, after, c, order, here, refused, rfl, earlier⟩
    obtain ⟨front, rest, split, rfl, back⟩ := List.map_eq_append_iff.mp order
    obtain ⟨column, behind, rfl, rfl, rfl⟩ := List.map_eq_cons_iff.mp back
    have member : column ∈ e.sorted := by simp [split]
    obtain rfl : column.2 = c := Option.some.inj ((found member).symm.trans here)
    refine Option.map_eq_some_iff.mpr ⟨_, List.find?_eq_some_iff_append.mpr ⟨by simpa using refused,
      front, behind, split, fun column member => ?_⟩, rfl⟩
    obtain ⟨d', there, fine⟩ := earlier column.1 (List.mem_map_of_mem member)
    rw [found (by simp [split, member])] at there
    cases there
    simpa using fine
  · intro first
    obtain ⟨⟨name, c⟩, met, rfl⟩ := Option.map_eq_some_iff.mp first
    obtain ⟨refused, front, behind, split, earlier⟩ := List.find?_eq_some_iff_append.mp met
    have member : (name, c) ∈ e.sorted := by simp [split]
    refine ⟨front.map Prod.fst, name, behind.map Prod.fst, c, by simp [Entity.columnNames, split],
      found member, by simpa using refused, rfl, fun n member => ?_⟩
    obtain ⟨column, there, rfl⟩ := List.mem_map.mp member
    exact ⟨column.2, found (by simp [split, there]), by simpa using earlier column there⟩

end TypeTable

/- With plain options the files of a checked entity are rendered exactly if every column has a native
type; the failure names the tag of the first column without one. What Doctrine can store, Entity
Framework Core can, and the other way round; Entity Framework stores no more than these. -/
theorem emitRefuses {cwd : Location} {key : Value} {description : Description}
    {segments : List String} {outDir : Path} {e : Entity}
    (checked : Entity.normalize cwd key description segments outDir = .ok e) :
    (∀ name ∈ e.columnNames, ∃ c, e.columns.lookup name = some c) ∧
      (∀ (t : Target) (options : Options), options.Plain →
        ((∃ artifacts, t.emit e options = .ok artifacts) ↔
          ∀ column ∈ e.columns, t.types.accepts column.2 = true) ∧
        ∀ failure, t.emit e options = .error failure ↔
          ∃ tag, t.types.FirstRefused e tag ∧ failure = .unsupportedType tag t.displayName) ∧
      ∀ options options' : Options, options.Plain → options'.Plain →
        (∀ tag, Target.doctrine.emit e options = .error (.unsupportedType tag "Doctrine") ↔
          Target.entityFrameworkCore.emit e options' =
            .error (.unsupportedType tag "Entity Framework Core")) ∧
        ((∃ artifacts, Target.entityFramework.emit e options = .ok artifacts) →
          (∃ artifacts, Target.entityFrameworkCore.emit e options' = .ok artifacts) ∧
          ∃ artifacts, Target.doctrine.emit e options' = .ok artifacts) := by
  have apart := Entity.normalizeApart checked
  have named (name : String) (member : name ∈ e.columnNames) :
      ∃ c, e.columns.lookup name = some c := by
    obtain ⟨column, there, rfl⟩ := List.mem_map.mp member
    exact ⟨column.2, lookupApart apart (Entity.memberSorted.mp there)⟩
  have accepted (t : Target) : t.types.refusedTag? e.sorted = none ↔
      ∀ column ∈ e.columns, t.types.accepts column.2 = true := by
    rw [TypeTable.refusedNone]
    exact ⟨fun all column member => all column (Entity.memberSorted.mpr member),
      fun all column member => all column (Entity.memberSorted.mp member)⟩
  -- each target by the first tag that its table refuses; the rest compares the tables
  have outcome (t : Target) (options : Options) (plain : options.Plain) :
      ((∃ artifacts, t.emit e options = .ok artifacts) ↔ t.types.refusedTag? e.sorted = none) ∧
        ∀ failure, t.emit e options = .error failure ↔ ∃ tag,
          t.types.refusedTag? e.sorted = some tag ∧ failure = .unsupportedType tag t.displayName := by
    rcases t.emitPlain e plain with ⟨artifacts, emitted, none⟩ | ⟨tag, emitted, some⟩
    · simp [emitted, none]
    · simp [emitted, some, eq_comm]
  have tagged (t : Target) (options : Options) (plain : options.Plain) (tag : String) :
      t.emit e options = .error (.unsupportedType tag t.displayName) ↔
        t.types.refusedTag? e.sorted = some tag := by
    rw [(outcome t options plain).2]
    simp [eq_comm]
  refine ⟨named, fun t options plain => ?_, fun options options' plain plain' => ⟨fun tag => ?_, ?_⟩⟩
  · simp only [TypeTable.firstRefusedIff apart, ← accepted]
    exact outcome t options plain
  · have same : TypeTable.doctrine.refusedTag? e.sorted =
        TypeTable.entityFrameworkCore.refusedTag? e.sorted :=
      TypeTable.refusedSame (by decide) e.sorted
    exact (tagged .doctrine options plain tag).trans
      (same ▸ (tagged .entityFrameworkCore options' plain' tag).symm)
  · rw [(outcome .entityFramework options plain).1, (outcome .entityFrameworkCore options' plain').1,
      (outcome .doctrine options' plain').1, accepted, accepted, accepted]
    exact fun all => ⟨fun column member => TypeTable.acceptsMore (by decide) (all column member),
      fun column member => TypeTable.acceptsMore (by decide) (all column member)⟩

def priceDescription : Description := .ofValue (.map [(.text "columns", .map [
  (.text " code", .text "uuid"), (.text "Amount", .text "Decimal "),
  (.text "id", .map [(.text "id", .bool true)])])])

def priceEntity : Entity where
  name := "Price"
  segments := ["App"]
  table := "Price"
  columns := [("code", { tag := "uuid" }), ("Amount", { tag := "decimal" }),
    ("id", { tag := "", id := true })]
  outDir := ⟨.root, ["out"]⟩

theorem plainDefault : Options.Plain {} := ⟨⟨"\n", rfl⟩, .inl rfl⟩

theorem priceRefuses :
    Entity.normalize [] (.text "Price") priceDescription ["App"] (.ofText "out") = .ok priceEntity ∧
      Options.Plain {} ∧
      Target.entityFramework.emit priceEntity {} =
        .error (.unsupportedType "decimal" "Entity Framework") ∧
      Target.doctrine.emit priceEntity {} = .error (.unsupportedType "uuid" "Doctrine") ∧
      Target.entityFrameworkCore.emit priceEntity {} =
        .error (.unsupportedType "uuid" "Entity Framework Core") := by
  have checked : Entity.normalize [] (.text "Price") priceDescription ["App"] (.ofText "out") =
      .ok priceEntity := rfl
  obtain ⟨_, outcome, agree⟩ := emitRefuses checked
  have order : priceEntity.columnNames = ["Amount", "code", "id"] := by
    have sorted : priceEntity.sorted = [("Amount", { tag := "decimal" }), ("code", { tag := "uuid" }),
        ("id", { tag := "", id := true })] :=
      Entity.sortedOf (by decide) (by decide +kernel) (by decide +kernel)
    rw [Entity.columnNames, sorted]
    rfl
  have framework := ((outcome .entityFramework {} plainDefault).2 _).mpr
    ⟨"decimal", ⟨[], _, _, _, order, rfl, rfl, rfl, nofun⟩, rfl⟩
  have doctrine := ((outcome .doctrine {} plainDefault).2 _).mpr
    ⟨"uuid", ⟨["Amount"], _, _, _, order, rfl, rfl, rfl, by
      simp only [List.forall_mem_singleton]
      exact ⟨_, rfl, rfl⟩⟩, rfl⟩
  exact ⟨checked, plainDefault, framework, doctrine,
    ((agree {} {} plainDefault plainDefault).1 "uuid").mp doctrine⟩

end EntityForge
