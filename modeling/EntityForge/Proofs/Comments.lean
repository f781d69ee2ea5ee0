import EntityForge.Proofs.Clashes
import EntityForge.Proofs.Readings

/-! Banner and comments of generated files. Both are lines of their own that the options switch on and
off; the other lines of a file that are not blank do not depend on them, and extension files have
neither. -/
namespace EntityForge
open Template
open Text (Short)
open List (Forall₂)

/- What the comment lines of a language look like without the blanks around them: what they begin with,
or all they say. -/
structure Comments where
  marks : List String
  whole : List String

namespace Comments

def csharp : Comments := ⟨["//"], []⟩

def php : Comments := ⟨["*"], ["/**"]⟩

def xml : Comments := ⟨[], ["<!-- AUTO GENERATED FILE -->"]⟩

def covers (c : Comments) (line : List Char) : Bool :=
  c.marks.any (fun mark => mark.toList.isPrefixOf (Text.strip line)) ||
    c.whole.any fun whole => whole.toList == Text.strip line

def codeLines (c : Comments) (content : String) : List (List Char) :=
  (Text.lines content.toList).filter fun line => !Text.allBlank line && !c.covers line

def code (c : Comments) (lines : List (List Char)) : List (List Char) :=
  (Format.shownLines lines).filter fun line => !c.covers line

section Lines
variable {c : Comments}

theorem codeAppend (a b : List (List Char)) : c.code (a ++ b) = c.code a ++ c.code b := by
  rw [code, Format.shownAppend, List.filter_append]
  rfl

theorem coversIndent (width : Nat) (line : List Char) :
    c.covers (Text.indentLine width line) = c.covers line := by
  rw [covers, Text.stripOfIndent, ← covers]

theorem coversEnd (line : List Char) : c.covers (Text.stripEnd line) = c.covers line := by
  rw [covers, Text.stripOfEnd, ← covers]

theorem codeWrap (name : String) (body : List String) : c.code (linesOf (wrap name body)) =
    c.code (linesOf ["namespace " ++ name, "\x7b"]) ++
      (c.code (linesOf body)).map (Text.indentLine 4) ++ c.code [['\x7d']] := by
  have some (lines : List (List Char)) :
      Format.shownLines (Text.someLine lines) = Format.shownLines lines := by
    cases lines <;> rfl
  have moved (lines : List (List Char)) : c.code (lines.map (Text.indentLine 4)) =
      (c.code lines).map (Text.indentLine 4) := by
    rw [code, Format.shownIndent, List.filter_map, code]
    congr 2
    funext line
    rw [Function.comp_apply, coversIndent]
  rw [linesWrap, codeAppend, codeAppend, moved]
  congr 3
  rw [code, some, Format.shownTrim, ← code]

theorem coversBehind {s : String} (begins : c.marks.any (fun mark =>
    mark.toList.isPrefixOf (Text.strip s.toList)) = true) (tail : String) :
    c.covers (s ++ tail).toList = true := by
  rw [covers, Bool.or_eq_true]
  refine .inl ?_
  rw [List.any_eq_true] at begins ⊢
  obtain ⟨mark, member, start⟩ := begins
  refine ⟨mark, member, ?_⟩
  rw [List.isPrefixOf_iff_prefix] at start ⊢
  rw [String.toList_append]
  exact Text.stripExtends start tail.toList

theorem codeCovered {s : String} (short : Short s) (covered : c.covers s.toList = true) :
    c.code (linesOf [s]) = [] := by
  rw [linesOne, Text.shortLines short, code, Format.shownLines, List.map_singleton,
    List.filter_eq_nil_iff]
  intro line member
  obtain rfl := List.mem_singleton.mp (List.mem_of_mem_filter member)
  rw [coversEnd, covered]
  exact Bool.false_ne_true

end Lines

def commentBlock (c : Comments) (Γ : Context Hint) : Block → Bool
  | .lines texts => (c.code (linesOf texts)).isEmpty
  | .line (.text s :: rest) => c.marks.any (fun mark => mark.toList.isPrefixOf (Text.strip s.toList)) &&
    (.text s :: rest).all (Hint.wordPiece Γ)
  | _ => false

def switched (c : Comments) (Γ : Context Hint) : Block → Bool
  | .when condition yes => (Hint.of? Γ condition).isSome && yes.all (c.commentBlock Γ)
  | _ => false

section Filling
variable {c : Comments} {Γ : Context Hint} {σ τ : Scope}

theorem commentFill {block : Block} (holds : ScopesHold Hint.Relates Γ σ τ)
    (comment : c.commentBlock Γ block = true) :
    ∃ l, block.fill σ = .ok l ∧ block.fill τ = .ok l ∧ c.code (linesOf l) = [] := by
  unfold commentBlock at comment
  split at comment
  next texts => exact ⟨texts, fillLines _, fillLines _, List.isEmpty_iff.mp comment⟩
  next s rest =>
    rw [Bool.and_eq_true, List.all_cons, Bool.and_eq_true] at comment
    obtain ⟨begins, first, others⟩ := comment
    have single : Short s := of_decide_eq_true first
    obtain ⟨more, left, right, short⟩ := Hint.wordLine holds others
    refine ⟨[s ++ more], ?_, ?_,
      codeCovered (Text.shortAppend single short) (coversBehind begins more)⟩
    · exact fillLineBlock (by rw [fillLine, left]; rfl)
    · exact fillLineBlock (by rw [fillLine, right]; rfl)
  next => cases comment

theorem commentsFill {blocks : List Block} (holds : ScopesHold Hint.Relates Γ σ τ)
    (comments : blocks.all (c.commentBlock Γ) = true) :
    ∃ l, fillAll σ blocks = .ok l ∧ fillAll τ blocks = .ok l ∧ c.code (linesOf l) = [] := by
  induction blocks with
  | nil => exact ⟨[], rfl, rfl, rfl⟩
  | cons block rest ih =>
    rw [List.all_cons, Bool.and_eq_true] at comments
    obtain ⟨l, left, right, none⟩ := commentFill holds comments.1
    obtain ⟨m, left', right', none'⟩ := ih comments.2
    refine ⟨l ++ m, fillCons left left', fillCons right right', ?_⟩
    rw [linesAppend, codeAppend, none, none']
    rfl

theorem switchedFilled {block : Block} (holds : ScopesHold Hint.Relates Γ σ τ)
    (comments : c.switched Γ block = true) :
    Filled (fun l m => c.code (linesOf l) = c.code (linesOf m)) (block.fill σ) (block.fill τ) := by
  unfold switched at comments
  split at comments
  next condition yes =>
    rw [Bool.and_eq_true] at comments
    obtain ⟨hint, given⟩ := Option.isSome_iff_exists.mp comments.1
    obtain ⟨v, w, left, right, _⟩ := Hint.ofHolds holds given
    obtain ⟨l, first, second, none⟩ := commentsFill holds comments.2
    have either (u : Value) {x : Except Fault (List String)} (filled : x = .ok l) :
        ∃ m, (if u.truthy then x else .ok []) = .ok m ∧ c.code (linesOf m) = [] := by
      split
      · exact ⟨l, filled, none⟩
      · exact ⟨[], rfl, rfl⟩
    obtain ⟨m, here, said⟩ := either v first
    obtain ⟨m', there, said'⟩ := either w second
    exact ⟨m, m', (fillWhen left yes).trans here, (fillWhen right yes).trans there, said.trans said'.symm⟩
  next => cases comments

end Filling

def likeness (c : Comments) : Likeness Hint where
  alike := Hint.Relates
  same := Hint.known
  lines l m := c.code (linesOf l) = c.code (linesOf m)
  wraps := true
  special := c.switched
  sameEq := Hint.knownEq
  refl _ := rfl
  append first next := by rw [linesAppend, linesAppend, codeAppend, codeAppend, first, next]
  wrap name _ same := by rw [codeWrap, codeWrap, same]
  specialFilled := switchedFilled

def unswitched : Likeness Hint :=
  .exact Hint.Relates Hint.known Hint.knownEq (fun _ _ => false) fun _ impossible =>
    absurd impossible Bool.false_ne_true

theorem codeRendered {c : Comments} {label : String} {template : Template} {σ : Scope}
    {options : Options} {content : String} (feed : options.lineEnding = .text "\n")
    (rendered : renderFormatted label template σ options = .ok content) :
    ∃ texts, fillAll σ template = .ok texts ∧ c.codeLines content = c.code (linesOf texts) := by
  obtain ⟨texts, filled, shown⟩ := renderShown feed rendered
  refine ⟨texts, filled, ?_⟩
  rw [code, ← shown, List.filter_filter, codeLines]
  simp only [Format.shown, Bool.and_comm]

theorem codeSame {c : Comments} {Γ : Context Hint} {template : Template} {σ τ : Scope}
    (holds : ScopesHold Hint.Relates Γ σ τ) (admitted : c.likeness.admitsAll Γ template = true)
    {label : String} {options options' : Options} {content content' : String}
    (feed : options.lineEnding = .text "\n") (feed' : options'.lineEnding = .text "\n")
    (left : renderFormatted label template σ options = .ok content)
    (right : renderFormatted label template τ options' = .ok content') :
    c.codeLines content = c.codeLines content' := by
  obtain ⟨l, m, first, second, same⟩ := c.likeness.admitsAllFilled holds template admitted
  obtain ⟨texts, filled, code⟩ := codeRendered (c := c) feed left
  obtain ⟨texts', filled', code'⟩ := codeRendered (c := c) feed' right
  cases first.symm.trans filled
  cases second.symm.trans filled'
  rw [code, code']
  exact same

theorem contentSame {Γ : Context Hint} {template : Template} {σ τ : Scope}
    (holds : ScopesHold Hint.Relates Γ σ τ) (admitted : unswitched.admitsAll Γ template = true)
    {label : String} {options options' : Options} {content content' : String}
    (feed : options.lineEnding = .text "\n") (feed' : options'.lineEnding = .text "\n")
    (left : renderFormatted label template σ options = .ok content)
    (right : renderFormatted label template τ options' = .ok content') : content = content' := by
  obtain ⟨l, _, first, second, rfl⟩ := unswitched.admitsAllFilled holds template admitted
  rw [formattedRender (renderFilled first), formatted, feed] at left
  rw [formattedRender (renderFilled second), formatted, feed'] at right
  exact Except.ok.inj (left.symm.trans right)

end Comments

def Target.comments (t : Target) (kind : String) : Comments :=
  match t with
  | .doctrine => if kind = "mapping" then .xml else .php
  | _ => .csharp

structure SameCode (t : Target) (a b : Artifact) : Prop where
  path : a.path = b.path
  kind : a.kind = b.kind
  overwrite : a.overwrite = b.overwrite
  code : (t.comments a.kind).codeLines a.content = (t.comments a.kind).codeLines b.content
  extension : a.kind = "extension" → a.content = b.content

section Options
variable {e : Entity} {options options' : Options} {files files' : List Artifact}

theorem Emit.Doctrine.sameCode (lined : e.Lined) (feed : options.lineEnding = .text "\n")
    (feed' : options'.lineEnding = .text "\n") (dirs : options.xmlOutDir = options'.xmlOutDir)
    (emitted : Doctrine.artifacts e options = .ok files)
    (emitted' : Doctrine.artifacts e options' = .ok files') :
    Forall₂ (SameCode .doctrine) files files' := by
  obtain ⟨columns, main, extension, dir, mapping, done, first, second, place, third, rfl⟩ :=
    artifactsOk.mp emitted
  obtain ⟨columns', main', extension', dir', mapping', done', first', second', place', third', rfl⟩ :=
    artifactsOk.mp emitted'
  cases done.symm.trans done'
  have there : mappingDir e options = mappingDir e options' := by rw [mappingDir, mappingDir, dirs]
  cases place.symm.trans (there.trans place')
  have holds := scopeHints lined options options' (lined.typed (t := .doctrine) done)
  have code := Comments.codeSame (c := .php) holds (by decide +kernel) feed feed' first first'
  have same := Comments.contentSame holds (by decide +kernel) feed feed' second second'
  have entries := Comments.codeSame (c := .xml) holds (by decide +kernel) feed feed' third third'
  have main : "class" ≠ "extension" := by decide
  have mapping : "mapping" ≠ "extension" := by decide
  exact .cons ⟨rfl, rfl, rfl, code, fun other => absurd other main⟩
    (.cons ⟨rfl, rfl, rfl, congrArg _ same, fun _ => same⟩
    (.cons ⟨rfl, rfl, rfl, entries, fun other => absurd other mapping⟩ .nil))

theorem Emit.EntityFramework.sameCode {flavor : Flavor} (fine : flavor.Lined)
    (sharp : flavor.target ≠ .doctrine) (lined : e.Lined) (feed : options.lineEnding = .text "\n")
    (feed' : options'.lineEnding = .text "\n")
    (emitted : EntityFramework.artifacts flavor e options = .ok files)
    (emitted' : EntityFramework.artifacts flavor e options' = .ok files') :
    Forall₂ (SameCode flavor.target) files files' := by
  obtain ⟨columns, main, extension, done, first, second, rfl⟩ := artifactsOk.mp emitted
  obtain ⟨columns', main', extension', done', first', second', rfl⟩ := artifactsOk.mp emitted'
  cases done.symm.trans done'
  have holds := scopeHints fine lined options options' (lined.typed done)
  have slashes (kind : String) : flavor.target.comments kind = .csharp := by
    cases target : flavor.target with
    | doctrine => exact absurd target sharp
    | _ => rfl
  have code := Comments.codeSame (c := .csharp) holds (by decide +kernel) feed feed' first first'
  have same := Comments.contentSame holds (by decide +kernel) feed feed' second second'
  have main : "class" ≠ "extension" := by decide
  exact .cons ⟨rfl, rfl, rfl, slashes "class" ▸ code, fun other => absurd other main⟩
    (.cons ⟨rfl, rfl, rfl, congrArg _ same, fun _ => same⟩ .nil)

end Options

theorem Target.flavoredLined {t : Target} (sharp : t ≠ .doctrine) :
    ∃ flavor : Emit.EntityFramework.Flavor, flavor.target = t ∧ flavor.Lined ∧
      ∀ e options, t.emit e options = Emit.EntityFramework.artifacts flavor e options := by
  cases t with
  | doctrine => exact absurd rfl sharp
  | entityFramework =>
    exact ⟨Emit.EntityFramework.classic, rfl, Emit.EntityFramework.classicLined, fun _ _ => rfl⟩
  | entityFrameworkCore => exact ⟨Emit.EntityFramework.core, rfl, Emit.EntityFramework.coreLined, fun _ _ => rfl⟩

/- Banner and comments may be left out or not. The files are there either way, unless the directory of
the mappings stands in the way, at the same places and with the same code. -/
theorem commentsAside {cwd : Location} {key : Value} {description : Description}
    {segments : List String} {outDir : Path} {e : Entity} {t : Target} {options : Options}
    (checked : Entity.normalize cwd key description segments outDir = .ok e)
    (accepted : ∀ column ∈ e.columns, t.types.accepts column.2 = true) (table : Short e.table)
    (spaces : ∀ segment ∈ segments, Short segment) (feed : options.lineEnding = .text "\n") :
    (∀ header comments, (∃ files, t.emit e { options with header, comments } = .ok files) ↔
      t.Takes options) ∧
    ∀ header comments header' comments' files files',
      t.emit e { options with header, comments } = .ok files →
      t.emit e { options with header := header', comments := comments' } = .ok files' →
      Forall₂ (SameCode t) files files' := by
  have lined := Entity.normalizeLined checked table spaces
  refine ⟨fun header comments => ?_, fun header comments header' comments' files files' emitted
    emitted' => ?_⟩
  · have fed : ({ options with header, comments } : Options).lineEnding = .text "\n" := feed
    exact t.emitTaken accepted fed
  let first : Options := { options with header, comments }
  let second : Options := { options with header := header', comments := comments' }
  have fed : first.lineEnding = .text "\n" := feed
  have fed' : second.lineEnding = .text "\n" := feed
  by_cases sharp : t = .doctrine
  · subst sharp
    exact Emit.Doctrine.sameCode lined fed fed' rfl emitted emitted'
  · obtain ⟨flavor, rfl, fine, same⟩ := Target.flavoredLined sharp
    rw [same] at emitted emitted'
    exact Emit.EntityFramework.sameCode fine sharp lined fed fed' emitted emitted'

theorem accountComments :
    Entity.normalize [] (.text "Account") accountDescription ["App"] (.ofText "/w/out") =
        .ok accountEntity ∧
      (∀ column ∈ accountEntity.columns, Target.doctrine.types.accepts column.2 = true) ∧
      Short accountEntity.table ∧ (∀ segment ∈ ["App"], Short segment) ∧
      ∃ files bare, Target.doctrine.emit accountEntity { header := true, comments := true } = .ok files ∧
        Target.doctrine.emit accountEntity { header := false, comments := false } = .ok bare ∧
        Forall₂ (SameCode .doctrine) files bare := by
  have accepted : ∀ column ∈ accountEntity.columns,
      Target.doctrine.types.accepts column.2 = true := by decide
  have table : Short accountEntity.table := by decide
  have spaces : ∀ segment ∈ ["App"], Short segment := by decide
  have feed : ({} : Options).lineEnding = .text "\n" := rfl
  have takes : Target.doctrine.Takes {} := fun _ given => absurd given Bool.false_ne_true
  obtain ⟨there, same⟩ := commentsAside accountNormal accepted table spaces feed
  obtain ⟨files, emitted⟩ := (there true true).mpr takes
  obtain ⟨bare, emitted'⟩ := (there false false).mpr takes
  exact ⟨accountNormal, accepted, table, spaces, files, bare, emitted, emitted',
    same true true false false files bare emitted emitted'⟩

end EntityForge
