import EntityForge.Proofs.Members

/-! Generated files by their lines. What is filled into a template has no line breaks if the names of the
entity have none, so a line of the template is a line of the file; the formatter leaves the lines that
are not blank, and a namespace puts its own lines around them. The options do not decide on more than
the banner, the comments and the directory of the mapping. -/
namespace EntityForge
open Template
open Text (Short)
open List (Forall₂)

namespace Text

theorem stripOfEnd (s : List Char) : strip (stripEnd s) = strip s := by
  obtain ⟨back, blank, cut⟩ := stripEndCut s
  conv_rhs => rw [cut]
  simpa using (stripAround .nil blank (stripEnd s)).symm

theorem stripOfIndent (width : Nat) (line : List Char) :
    strip (indentLine width line) = strip line := by
  unfold indentLine
  split
  next => rfl
  next =>
    have blank : Blank (List.replicate width ' ') := by simp [Blank, isBlank]
    simpa using stripAround blank .nil line

theorem stripNone {s : List Char} (gap : stripEnd s = []) : strip s = [] := by
  rw [← stripOfEnd, gap]
  rfl

theorem stripExtends {mark s : List Char} (begins : mark <+: strip s) (tail : List Char) :
    mark <+: strip (s ++ tail) := by
  cases start : stripStart s with
  | nil =>
    rw [strip, start] at begins
    exact List.prefix_nil.mp begins ▸ List.nil_prefix
  | cons c rest =>
    have longer : stripStart (s ++ tail) = stripStart s ++ tail := by
      rw [stripStart, List.dropWhile_append, ← stripStart, if_neg (by simp [start])]
    rw [strip, longer]
    exact begins.trans (stripEndExtends _ tail)

theorem escapedShort {s : String} (short : Short s) : Short (escaped s) := by
  have reference (c : Char) (other : c ≠ '\n') : '\n' ∉ (reference? c).getD [c] := by
    unfold reference?
    split_ifs <;> simp [Ne.symm other]
  simp only [Short, escaped, escapeAttribute, String.toList_ofList, List.mem_flatMap, not_exists,
    not_and]
  exact fun c member => reference c fun newline => short (newline ▸ member)

end Text

/- What is known of a value in two scopes: that it is there, that it is the same one, or that it is the
same and its text has no line breaks. -/
inductive Hint where
  | free
  | same
  | word
  deriving DecidableEq

namespace Hint

def Relates : Hint → Value → Value → Prop
  | free, _, _ => True
  | same, v, w => v = w
  | word, v, w => v = w ∧ Short v.display

def known (hint : Hint) : Bool := hint != free

theorem knownEq {hint : Hint} {v w : Value} (known : hint.known = true) (alike : Relates hint v w) :
    v = w := by
  cases hint with
  | free => cases known
  | same => exact alike
  | word => exact alike.1

def of? (Γ : Context Hint) (source : Source) : Option Hint :=
  match source.shape? Γ with
  | some (.one hint) => some hint
  | _ => none

def wordPiece (Γ : Context Hint) : Piece → Bool
  | .text s => decide (Short s)
  | .hole source (.joined separator) =>
    decide (Short separator) && match source.shape? Γ with
      | some (.many hint) => hint == word
      | _ => false
  | .hole source _ => of? Γ source == some word
  | .when condition s => decide (Short s) && (of? Γ condition).any known

section Filling
variable {Γ : Context Hint} {σ τ : Scope}

theorem ofHolds {source : Source} {hint : Hint} (holds : ScopesHold Relates Γ σ τ)
    (given : of? Γ source = some hint) :
    ∃ v w, source.read σ = .ok v ∧ source.read τ = .ok w ∧ Relates hint v w := by
  unfold of? at given
  split at given
  next shape =>
    cases given
    exact readHolds holds shape
  next => cases given

theorem wordsSame {vs ws : List Value} (items : Forall₂ (Relates word) vs ws) :
    vs = ws ∧ ∀ s ∈ vs.map Value.display, Short s := by
  induction items with
  | nil => exact ⟨rfl, nofun⟩
  | cons here _ ih => exact ⟨by rw [here.1, ih.1], List.forall_mem_cons.mpr ⟨here.2, ih.2⟩⟩

theorem wordFill {piece : Piece} (holds : ScopesHold Relates Γ σ τ) (plain : wordPiece Γ piece = true) :
    ∃ s, piece.fill σ = .ok s ∧ piece.fill τ = .ok s ∧ Short s := by
  have hole {source : Source} {style : Style} {write : String → String}
      (given : of? Γ source = some word) (writes : ∀ v, style.write v = .ok (write v.display))
      (keeps : ∀ s, Short s → Short (write s)) : ∃ s, (Piece.hole source style).fill σ = .ok s ∧
        (Piece.hole source style).fill τ = .ok s ∧ Short s := by
    obtain ⟨v, _, left, right, rfl, short⟩ := ofHolds holds given
    exact ⟨_, by rw [Piece.fill, left]; exact writes v, by rw [Piece.fill, right]; exact writes v,
      keeps _ short⟩
  cases piece with
  | text s => exact ⟨s, rfl, rfl, of_decide_eq_true plain⟩
  | «when» condition s =>
    rw [wordPiece, Bool.and_eq_true, decide_eq_true_eq, Option.any_eq_true_iff_get] at plain
    obtain ⟨short, some, known⟩ := plain
    obtain ⟨v, w, left, right, alike⟩ := ofHolds holds (Option.some_get some).symm
    obtain rfl := knownEq known alike
    refine ⟨if v.truthy then s else "", by rw [Piece.fill, left]; rfl, by rw [Piece.fill, right]; rfl, ?_⟩
    split
    · exact short
    · exact List.not_mem_nil
  | hole source style =>
    cases style with
    | joined separator =>
      rw [wordPiece, Bool.and_eq_true, decide_eq_true_eq] at plain
      obtain ⟨single, plain⟩ := plain
      split at plain
      next hint shape =>
        obtain rfl := eq_of_beq plain
        obtain ⟨v, w, left, right, vs, ws, first, second, items⟩ := readHolds holds shape
        obtain ⟨rfl, short⟩ := wordsSame items
        refine ⟨String.intercalate separator (vs.map Value.display), ?_, ?_,
          Text.shortJoined single short⟩
        · rw [Piece.fill, left]
          simp [bind, Except.bind, Style.write, first]
        · rw [Piece.fill, right]
          simp [bind, Except.bind, Style.write, second]
      next => cases plain
    | plain => exact hole (eq_of_beq plain) (fun _ => rfl) fun _ => id
    | literal => exact hole (eq_of_beq plain) (fun _ => rfl) fun s => (Text.literalShort s).mpr
    | doubled => exact hole (eq_of_beq plain) (fun _ => rfl) fun s => (Text.doubledShort s).mpr
    | escaped => exact hole (eq_of_beq plain) (fun _ => rfl) fun _ => Text.escapedShort

theorem wordLine {pieces : List Piece} (holds : ScopesHold Relates Γ σ τ)
    (plain : pieces.all (wordPiece Γ) = true) :
    ∃ s, fillLine σ pieces = .ok s ∧ fillLine τ pieces = .ok s ∧ Short s := by
  induction pieces with
  | nil => exact ⟨"", rfl, rfl, List.not_mem_nil⟩
  | cons piece rest ih =>
    rw [List.all_cons, Bool.and_eq_true] at plain
    obtain ⟨s, left, right, short⟩ := wordFill holds plain.1
    obtain ⟨more, later, later', shorter⟩ := ih plain.2
    exact ⟨s ++ more, by rw [fillLine, left, later]; rfl, by rw [fillLine, right, later']; rfl,
      Text.shortAppend short shorter⟩

end Filling

end Hint

structure Entity.Lined (e : Entity) : Prop where
  name : Short e.name
  table : Short e.table
  segments : ∀ segment ∈ e.segments, Short segment
  columns : ∀ column ∈ e.columns, Name.wellFormed column.1.toList = true

section Checked
variable {cwd : Location} {key : Value} {description : Description} {segments : List String}
  {outDir : Path} {e : Entity}

theorem Entity.normalizeLined (checked : Entity.normalize cwd key description segments outDir = .ok e)
    (table : Short e.table) (spaces : ∀ segment ∈ segments, Short segment) : e.Lined where
  name := Name.wordFree (readNameOk (normalizeOk checked).1).1 (by decide)
  table := table
  segments := (normalizeOk checked).2.1 ▸ spaces
  columns := Entity.normalizeWords checked

end Checked

namespace Entity.Lined
variable {e : Entity}

theorem joined (lined : e.Lined) {separator : String} (short : Short separator) :
    Short (String.intercalate separator e.segments) := Text.shortJoined short lined.segments

theorem qualified (lined : e.Lined) {separator : String} (short : Short separator) :
    Short (e.qualifiedName separator) := by
  refine Text.shortJoined short fun segment member => ?_
  rcases List.mem_append.mp member with there | last
  · exact lined.segments segment there
  · exact List.mem_singleton.mp last ▸ lined.name

theorem typed (lined : e.Lined) {t : Target} {columns : List (String × Column × String)}
    (done : e.sorted.mapM t.types.typeColumn = .ok columns) :
    ∀ column ∈ columns, Name.wellFormed column.1.toList = true ∧ Short column.2.2 := by
  obtain ⟨entries, natives⟩ := TypeTable.typedEntries (TypeTable.typedIff.mp done)
  intro column member
  refine ⟨lined.columns (column.1, column.2.1) ?_, t.nativeShort (natives column member)⟩
  rw [← Entity.memberSorted, ← entries]
  exact List.mem_map_of_mem member

end Entity.Lined

namespace Emit.Doctrine

def columnHints : List (String × Shape Hint) := [
  ("name", .one .word), ("doctrine_type", .one .word), ("php_type", .one .word), ("is_id", .one .same),
  ("is_auto", .one .same), ("nullable", .one .same), ("is_json", .one .same), ("getter", .one .word),
  ("setter", .one .word)]

def hints : Context Hint := [
  ("add_header", .plain (.one .free)), ("add_comments", .plain (.one .free)),
  ("class_name", .plain (.one .word)), ("table_name", .plain (.one .word)),
  ("php_namespace", .plain (.one .word)), ("trait_namespace", .plain (.one .word)),
  ("entity_name", .plain (.one .word)), ("columns", .rows columnHints),
  ("mapping_columns", .rows columnHints), ("xmlns", .plain (.one .word)), ("xsd", .plain (.one .word))]

theorem viewHints {column : String × Column × String}
    (plain : Name.wellFormed column.1.toList = true ∧ Short column.2.2) :
    RowHolds Hint.Relates columnHints (columnView column.1 column.2.1 column.2.2)
      (columnView column.1 column.2.1 column.2.2) := by
  obtain ⟨words, native⟩ := plain
  have documented (tag : String) : Short (TypeTable.docType tag) := by
    unfold TypeTable.docType
    split_ifs <;> decide
  have accessor {kind : String} (short : Short kind) : Short (kind ++ Name.accessorOf column.1) :=
    Text.shortAppend short (accessorShort words)
  have setter : Short (if column.2.1.auto then Value.null
      else .text ("set" ++ Name.accessorOf column.1)).display := by
    split
    · decide
    · exact accessor (by decide)
  exact ⟨_, _, rfl, rfl, .cons ⟨rfl, Name.wordFree words (by decide)⟩ (.cons ⟨rfl, native⟩
    (.cons ⟨rfl, documented _⟩ (.cons rfl (.cons rfl (.cons rfl (.cons rfl
    (.cons ⟨rfl, accessor (by decide)⟩ (.cons ⟨rfl, setter⟩ .nil))))))))⟩

theorem scopeHints {e : Entity} (lined : e.Lined) (options options' : Options)
    {columns : List (String × Column × String)}
    (plain : ∀ column ∈ columns, Name.wellFormed column.1.toList = true ∧ Short column.2.2) :
    ScopesHold Hint.Relates hints (scope e options columns) (scope e options' columns) := by
  have views {cs : List (String × Column × String)} (part : cs ⊆ columns) :
      ItemsHold (RowHolds Hint.Relates columnHints)
        (.list (cs.map fun column => columnView column.1 column.2.1 column.2.2))
        (.list (cs.map fun column => columnView column.1 column.2.1 column.2.2)) := by
    refine ⟨_, _, rfl, rfl, ?_⟩
    rw [List.forall₂_map_left_iff, List.forall₂_map_right_iff, List.forall₂_same]
    exact fun column member => viewHints (plain column (part member))
  have space : Short (String.intercalate "\\" (e.segments ++ ["Extensions"])) := by
    refine Text.shortJoined (by decide) fun segment member => ?_
    rcases List.mem_append.mp member with there | last
    · exact lined.segments segment there
    · exact List.mem_singleton.mp last ▸ by decide
  exact .cons trivial (.cons trivial (.cons ⟨rfl, lined.name⟩ (.cons ⟨rfl, lined.table⟩
    (.cons ⟨rfl, lined.joined (by decide)⟩ (.cons ⟨rfl, space⟩
    (.cons ⟨rfl, lined.qualified (by decide)⟩ (.cons (views (List.Subset.refl _))
    (.cons (views (List.mergeSort_perm _ _).subset) (.cons ⟨rfl, by decide +kernel⟩
    (.cons ⟨rfl, by decide +kernel⟩ .nil))))))))))

end Emit.Doctrine

namespace Emit.EntityFramework

def columnHints : List (String × Shape Hint) := [
  ("name", .one .word), ("clr_type", .one .word), ("field", .one .word), ("property", .one .word),
  ("is_id", .one .same), ("is_auto", .one .same), ("has_setter", .one .same),
  ("attributes", .many .word)]

def hints : Context Hint := [
  ("add_header", .plain (.one .free)), ("add_comments", .plain (.one .free)),
  ("target_name", .plain (.one .word)), ("class_name", .plain (.one .word)),
  ("table_name", .plain (.one .word)), ("cs_namespace", .plain (.one .word)),
  ("class_attributes", .plain (.many .word)), ("base_types", .plain (.many .word)),
  ("columns", .rows columnHints)]

structure Flavor.Lined (flavor : Flavor) : Prop where
  ofClass table : Short table → ∀ s ∈ flavor.classAttributes table, Short s
  bases : ∀ s ∈ flavor.baseTypes, Short s
  ofProperty name c : Short name → ∀ s ∈ flavor.propertyAttributes name c, Short s

theorem literalBetween {front back s : String} (first : Short front) (last : Short back)
    (short : Short s) : Short (front ++ Text.literal s ++ back) :=
  Text.shortAppend (Text.shortAppend first ((Text.literalShort s).mpr short)) last

theorem classicLined : classic.Lined where
  ofClass table short := by
    simp only [classic, List.forall_mem_cons]
    exact ⟨by decide +kernel, literalBetween (by decide +kernel) (by decide) short, by decide +kernel,
      List.forall_mem_nil _⟩
  bases := by decide +kernel
  ofProperty name c short :=
    List.forall_mem_singleton.mpr (literalBetween (by decide +kernel) (by decide) short)

theorem coreLined : core.Lined where
  ofClass table short := by
    have place : Short (annotations ++ ".Schema.Table(") := shortAnnotation (by decide +kernel)
    exact List.forall_mem_singleton.mpr (literalBetween place (by decide) short)
  bases := by decide +kernel
  ofProperty name c short := by
    have place : Short (annotations ++ ".Schema.Column(") := shortAnnotation (by decide +kernel)
    have column : Short (annotations ++ ".Schema.Column(" ++ Text.literal name ++ ")") :=
      literalBetween place (by decide) short
    have key : Short (annotations ++ ".Key") := shortAnnotation (by decide)
    have generated : Short (annotations ++ ".Schema.DatabaseGenerated(" ++ annotations ++
        ".Schema.DatabaseGeneratedOption.Identity)") := by decide +kernel
    cases auto : c.auto <;> cases id : c.id <;> simp [core, auto, id, column, key, generated]

theorem textsHold {items : List String} (short : ∀ s ∈ items, Short s) :
    (Shape.many Hint.word).Holds Hint.Relates (texts items) (texts items) :=
  ⟨_, _, rfl, rfl, List.forall₂_same.mpr fun v member => by
    obtain ⟨s, there, rfl⟩ := List.mem_map.mp member
    exact ⟨rfl, short s there⟩⟩

theorem viewHints {flavor : Flavor} (fine : flavor.Lined) {column : String × Column × String}
    (plain : Name.wellFormed column.1.toList = true ∧ Short column.2.2) :
    RowHolds Hint.Relates columnHints (columnView flavor column.1 column.2.1 column.2.2)
      (columnView flavor column.1 column.2.1 column.2.2) := by
  obtain ⟨words, native⟩ := plain
  have name : Short column.1 := Name.wordFree words (by decide)
  exact ⟨_, _, rfl, rfl, .cons ⟨rfl, name⟩ (.cons ⟨rfl, native⟩
    (.cons ⟨rfl, Text.shortAppend (by decide) name⟩ (.cons ⟨rfl, accessorShort words⟩
    (.cons rfl (.cons rfl (.cons rfl
    (.cons (textsHold (fine.ofProperty column.1 column.2.1 name)) .nil)))))))⟩

theorem scopeHints {flavor : Flavor} (fine : flavor.Lined) {e : Entity} (lined : e.Lined)
    (options options' : Options) {columns : List (String × Column × String)}
    (plain : ∀ column ∈ columns, Name.wellFormed column.1.toList = true ∧ Short column.2.2) :
    ScopesHold Hint.Relates hints (scope flavor e options columns)
      (scope flavor e options' columns) := by
  have views : ItemsHold (RowHolds Hint.Relates columnHints)
      (.list (columns.map fun column => columnView flavor column.1 column.2.1 column.2.2))
      (.list (columns.map fun column => columnView flavor column.1 column.2.1 column.2.2)) := by
    refine ⟨_, _, rfl, rfl, ?_⟩
    rw [List.forall₂_map_left_iff, List.forall₂_map_right_iff, List.forall₂_same]
    exact fun column member => viewHints fine (plain column member)
  have label : Short flavor.target.displayName := by cases flavor.target <;> decide
  exact .cons trivial (.cons trivial (.cons ⟨rfl, label⟩ (.cons ⟨rfl, lined.name⟩
    (.cons ⟨rfl, lined.table⟩ (.cons ⟨rfl, lined.joined (by decide)⟩
    (.cons (textsHold (fine.ofClass _ lined.table)) (.cons (textsHold fine.bases)
    (.cons views .nil))))))))

end Emit.EntityFramework

theorem renderShown {label : String} {template : Template} {σ : Scope} {options : Options}
    {content : String} (feed : options.lineEnding = .text "\n")
    (rendered : renderFormatted label template σ options = .ok content) :
    ∃ texts, fillAll σ template = .ok texts ∧
      (Text.lines content.toList).filter Format.shown = Format.shownLines (linesOf texts) := by
  have blank : Format.shownLines [[]] = [] := rfl
  obtain ⟨texts, filled, made⟩ := renderedLines rendered
  rw [formatted, feed] at made
  cases made
  refine ⟨texts, filled, ?_⟩
  have free : '\n' ∉ ([] : List Char) := List.not_mem_nil
  have seen := Format.formatShown free (textOf texts).toList .nil
  simp only [List.nil_append, List.append_nil, List.map_id'] at seen
  rw [String.toList_ofList]
  exact seen.trans (by rw [Format.visibleLines, linesText, Format.shownAppend, blank, List.append_nil])

def Target.Takes (t : Target) (options : Options) : Prop :=
  t = .doctrine → options.xmlOutDir.truthy = true → (∃ dir, options.xmlOutDir = .text dir) ∨
    ∃ data, options.xmlOutDir = .bytes data ∧ data.all Emit.Doctrine.isBlankByte = true

theorem Emit.Doctrine.mappingDirTaken {e : Entity} {options : Options} :
    (∃ dir, mappingDir e options = .ok dir) ↔ Target.doctrine.Takes options := by
  unfold mappingDir Target.Takes
  split
  next dir given => simp [given]
  next data given =>
    by_cases blank : data.all isBlankByte = true
    · exact iff_of_true ⟨_, if_pos blank⟩ fun _ _ => .inr ⟨data, given, blank⟩
    · have there : (Value.bytes data).truthy = true := by
        cases data with
        | nil => exact absurd rfl blank
        | cons => rfl
      refine iff_of_false (fun ⟨dir, ok⟩ => ?_) fun takes => ?_
      · rw [if_neg blank] at ok
        cases ok
      · rcases takes rfl (by rw [given]; exact there) with ⟨dir, text⟩ | ⟨other, same, all⟩
        · rw [given] at text
          cases text
        · rw [given] at same
          cases same
          exact blank all
  next noText noBytes =>
    split
    next some => simp_all
    next none => simp [none]

theorem Target.emitTaken (t : Target) {e : Entity} {options : Options}
    (accepted : ∀ column ∈ e.columns, t.types.accepts column.2 = true)
    (feed : options.lineEnding = .text "\n") :
    (∃ files, t.emit e options = .ok files) ↔ t.Takes options := by
  let bare : Options := { options with xmlOutDir := .null }
  obtain ⟨files, emitted⟩ : ∃ files, t.emit e bare = .ok files :=
    t.emitAccepted ⟨⟨_, feed⟩, .inl rfl⟩ accepted
  cases t with
  | doctrine =>
    rw [← Emit.Doctrine.mappingDirTaken (e := e)]
    constructor
    · rintro ⟨files, emitted⟩
      obtain ⟨_, _, _, dir, _, _, _, _, place, _⟩ := Emit.Doctrine.artifactsOk.mp emitted
      exact ⟨dir, place⟩
    · rintro ⟨dir, place⟩
      obtain ⟨columns, main, extension, _, mapping, done, first, second, _, third, _⟩ :=
        Emit.Doctrine.artifactsOk.mp emitted
      exact ⟨_, Emit.Doctrine.artifactsOk.mpr
        ⟨columns, main, extension, dir, mapping, done, first, second, place, third, rfl⟩⟩
  | entityFramework => exact ⟨fun _ => nofun, fun _ => ⟨files, emitted⟩⟩
  | entityFrameworkCore => exact ⟨fun _ => nofun, fun _ => ⟨files, emitted⟩⟩

end EntityForge
