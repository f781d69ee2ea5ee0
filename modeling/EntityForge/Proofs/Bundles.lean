import EntityForge.Proofs.Calls

/-! The files of an entity and where they go. All entities of a call share the directory of the
classes, that of the extensions and that of the mappings; the names tell the entities apart, and
the suffixes tell the files of an entity apart. -/
namespace EntityForge

namespace Path

def under (dir : Path) (name : String) : Path := ⟨dir.anchor, dir.parts ++ [name]⟩

theorem underParent (dir : Path) (name : String) : (dir.under name).parent = dir := by
  simp [under, parent]

theorem underName (dir : Path) (s : String) : (dir.under s).name = s := by
  simp [under, name]

theorem underPlace (dir : Path) {name : String} (named : name ≠ "..") :
    (dir.under name).place = dir.place ++ [name] := by
  simp [place, under, FileTree.stepName named]

end Path

namespace Name

theorem wordFree {s : List Char} (words : wellFormed s = true) {c : Char} (free : isWordChar c = false) :
    c ∉ s := by
  cases s with
  | nil => simp
  | cons head rest =>
    simp only [wellFormed, Bool.and_eq_true, List.all_eq_true] at words
    intro member
    rcases List.mem_cons.mp member with rfl | later
    · simp [words.1.1] at free
    · simp [words.2 c later] at free

theorem wellFormedFileName {s : String} (words : wellFormed s.toList = true) : FileName s := by
  refine ⟨wordFree words (by decide), ?_⟩
  cases chars : s.toList with
  | nil => simp [chars, wellFormed] at words
  | cons head rest =>
    refine ⟨_, List.getLast?_eq_some_getLast (by simp), fun dot => ?_⟩
    have member := List.getLast_mem (l := head :: rest) (by simp)
    rw [dot, ← chars] at member
    exact wordFree words (by decide) member

end Name

namespace FileName

theorem suffixed {name suffix : String} (words : Name.wellFormed name.toList = true)
    (file : FileName suffix) : FileName (name ++ suffix) :=
  file.append name (Name.wordFree words (by decide))

theorem php : FileName ".php" := ⟨by decide, 'p', rfl, by decide⟩
theorem cs : FileName ".cs" := ⟨by decide, 's', rfl, by decide⟩
theorem extensionsCs : FileName (".Extensions" ++ ".cs") := ⟨by decide, 's', rfl, by decide⟩
theorem mapping : FileName ".dcm.xml" := ⟨by decide, 'l', rfl, by decide⟩
theorem extensions : FileName "Extensions" := ⟨by decide, 's', rfl, by decide⟩

end FileName

theorem Target.suffixFile (t : Target) : FileName t.extension := by
  cases t
  · exact FileName.php
  · exact FileName.cs
  · exact FileName.cs

namespace Call

def root (c : Call) : Path := c.outDir.resolve c.cwd

def home (c : Call) : Path := c.segments.foldl Path.child c.root

def annex (c : Call) : Path :=
  match c.target with
  | .doctrine => c.home.child "Extensions"
  | _ => c.home

def extensionSuffix (c : Call) : String :=
  match c.target with
  | .doctrine => ".php"
  | _ => ".Extensions" ++ ".cs"

def stem (c : Call) : String := String.intercalate "." (c.segments ++ [""])

theorem homeAbsolute (c : Call) : c.home.anchor ≠ .relative := by
  have start : c.root.anchor ≠ .relative := by simp [root, Path.resolve, Path.ofLocation]
  unfold home
  generalize c.root = dir at start
  induction c.segments generalizing dir with
  | nil => exact start
  | cons segment rest ih => exact ih _ (Path.childAbsolute start segment)

theorem annexAbsolute (c : Call) : c.annex.anchor ≠ .relative := by
  unfold annex
  split
  · exact Path.childAbsolute c.homeAbsolute _
  · exact c.homeAbsolute

end Call

inductive Role where
  | main
  | extension
  | mapping
  deriving DecidableEq, Repr

def Role.always : Role → Bool
  | .extension => false
  | _ => true

def Call.folder (c : Call) (shelf : Path) : Role → Path
  | .main => c.home
  | .extension => c.annex
  | .mapping => shelf

def Call.file (c : Call) (label name : String) : Role → String
  | .main => name ++ c.target.extension
  | .extension => name ++ c.extensionSuffix
  | .mapping => label ++ (name ++ ".dcm.xml")

def Call.site (c : Call) (shelf : Path) (label name : String) (role : Role) : Path :=
  (c.folder shelf role).under (c.file label name role)

structure Filed (c : Call) (shelf : Path) (label name : String) (role : Role) (a : Artifact) : Prop where
  path : a.path = c.site shelf label name role
  overwrite : a.overwrite = role.always

inductive Bundle (c : Call) (shelf : Path) (label name : String) : List Artifact → Prop where
  | mk {main extension : Artifact} {rest : List Artifact}
      (first : Filed c shelf label name .main main)
      (second : Filed c shelf label name .extension extension)
      (others : ∀ a ∈ rest, Filed c shelf label name .mapping a) (single : rest.length ≤ 1) :
      Bundle c shelf label name (main :: extension :: rest)

theorem intercalateLast (separator : String) (xs : List String) (last : String) :
    String.intercalate separator (xs ++ [last]) =
      String.intercalate separator (xs ++ [""]) ++ last := by
  induction xs with
  | nil => simp
  | cons x rest ih =>
    rw [List.cons_append, List.cons_append, String.intercalate_cons_of_ne_nil (by simp),
      String.intercalate_cons_of_ne_nil (by simp), ih, String.append_assoc, String.append_assoc,
      String.append_assoc]

theorem intercalateFree {free : Char} {xs : List String} (each : ∀ x ∈ xs, free ∉ x.toList)
    (other : free ≠ '.') : free ∉ (String.intercalate "." (xs ++ [""])).toList := by
  induction xs with
  | nil => simp
  | cons x rest ih =>
    obtain ⟨first, later⟩ := List.forall_mem_cons.mp each
    have tail := ih later
    rw [List.cons_append, String.intercalate_cons_of_ne_nil (by simp), String.toList_append,
      String.toList_append]
    simp only [List.mem_append, not_or]
    exact ⟨⟨first, by simpa using other⟩, tail⟩

theorem readOk {raw : Value} {name : String} (read : Name.read? raw = some name) :
    Name.wellFormed name.toList = true ∧ name = Text.trim raw.plain := by
  unfold Name.read? at read
  dsimp only at read
  split at read
  next words =>
    cases read
    exact ⟨by simpa using words, rfl⟩
  next => cases read

theorem readNameRead {raw : Value} {kind name : String} (ok : Entity.readName raw kind = .ok name) :
    Name.read? raw = some name := by
  unfold Entity.readName at ok
  split at ok
  next found => rw [found, Except.ok.inj ok]
  next => cases ok

theorem readNameOk {raw : Value} {kind name : String} (ok : Entity.readName raw kind = .ok name) :
    Name.wellFormed name.toList = true ∧ name = Text.trim raw.plain :=
  readOk (readNameRead ok)

theorem nameOfRead {key : Value} {kind name : String} (ok : Entity.readName key kind = .ok name) :
    Call.nameOf key = name := by
  obtain ⟨words, trimmed⟩ := readNameOk ok
  cases key with
  | null =>
    have absent : Name.wellFormed (Text.trim (Value.plain .null)).toList = false := by decide
    rw [trimmed, absent] at words
    cases words
  | _ => exact trimmed.symm

theorem normalizeOk {cwd : Location} {key : Value} {description : Description}
    {segments : List String} {outDir : Path} {e : Entity}
    (ok : Entity.normalize cwd key description segments outDir = .ok e) :
    Entity.readName key "class" = .ok e.name ∧ e.segments = segments ∧
      e.outDir = outDir.resolve cwd := by
  obtain ⟨checked, described, last⟩ := exceptBindOk ok
  split at last
  · cases last
  · cases last
    obtain ⟨name, read, columns⟩ := exceptBindOk described
    split at columns
    · obtain ⟨found, _, made⟩ := exceptBindOk columns
      cases made
      exact ⟨read, rfl, rfl⟩
    · cases columns

namespace Emit.EntityFramework
open Template

def filesOf (flavor : Flavor) (e : Entity) (main extension : String) : List Artifact := [
  { path := e.classDir.child (e.name ++ flavor.target.extension), content := main, kind := "class" },
  { path := e.classDir.child (e.name ++ ".Extensions" ++ flavor.target.extension),
    content := extension, overwrite := false, kind := "extension" }]

theorem artifactsOk {flavor : Flavor} {e : Entity} {options : Options} {files : List Artifact} :
    artifacts flavor e options = .ok files ↔ ∃ columns main extension, typed flavor e = .ok columns ∧
      renderFormatted "class.cs.j2" csharpClass (scope flavor e options columns) options = .ok main ∧
      renderFormatted "extensions.cs.j2" csharpExtensions (scope flavor e options columns) options =
        .ok extension ∧ files = filesOf flavor e main extension := by
  constructor
  · intro made
    obtain ⟨columns, done, made⟩ := exceptBindOk made
    obtain ⟨main, first, made⟩ := exceptBindOk made
    obtain ⟨extension, second, made⟩ := exceptBindOk made
    cases made
    exact ⟨columns, main, extension, done, first, second, rfl⟩
  · rintro ⟨columns, main, extension, done, first, second, rfl⟩
    rw [artifacts, done]
    simp only [first, second, bind, Except.bind]
    rfl

end Emit.EntityFramework

namespace Emit.Doctrine
open Template

def filesOf (e : Entity) (phpClass phpTrait : String) (dir : Path) (mapping : String) :
    List Artifact := [
  { path := e.classDir.child (e.name ++ Target.doctrine.extension), content := phpClass,
    kind := "class" },
  { path := (e.classDir.child "Extensions").child (e.name ++ Target.doctrine.extension),
    content := phpTrait, overwrite := false, kind := "extension" },
  { path := dir.child (e.qualifiedName "." ++ ".dcm.xml"), content := mapping, kind := "mapping" }]

theorem artifactsOk {e : Entity} {options : Options} {files : List Artifact} :
    artifacts e options = .ok files ↔ ∃ columns main extension dir mapping, typed e = .ok columns ∧
      renderFormatted "class.php.j2" phpClass (scope e options columns) options = .ok main ∧
      renderFormatted "trait.php.j2" phpTrait (scope e options columns) options = .ok extension ∧
      mappingDir e options = .ok dir ∧
      renderFormatted "mapping.dcm.xml.j2" xmlMapping (scope e options columns) options = .ok mapping ∧
      files = filesOf e main extension dir mapping := by
  constructor
  · intro made
    obtain ⟨columns, done, made⟩ := exceptBindOk made
    obtain ⟨main, first, made⟩ := exceptBindOk made
    obtain ⟨extension, second, made⟩ := exceptBindOk made
    obtain ⟨dir, place, made⟩ := exceptBindOk made
    obtain ⟨mapping, third, made⟩ := exceptBindOk made
    cases made
    exact ⟨columns, main, extension, dir, mapping, done, first, second, place, third, rfl⟩
  · rintro ⟨columns, main, extension, dir, mapping, done, first, second, place, third, rfl⟩
    rw [artifacts, done]
    simp only [first, second, place, third, bind, Except.bind]
    rfl

end Emit.Doctrine

theorem frameworkBundle {c : Call} {e : Entity} {artifacts : List Artifact} {shelf : Path}
    {label : String} (flavor : Emit.EntityFramework.Flavor)
    (emitted : Emit.EntityFramework.artifacts flavor e c.options = .ok artifacts)
    (target : c.target ≠ .doctrine) (suffix : flavor.target.extension = ".cs")
    (words : Name.wellFormed e.name.toList = true) (home : e.classDir = c.home) :
    Bundle c shelf label e.name artifacts := by
  obtain ⟨columns, main, extension, _, _, _, rfl⟩ := Emit.EntityFramework.artifactsOk.mp emitted
  have sharp : c.target.extension = ".cs" ∧ c.annex = c.home ∧
      c.extensionSuffix = ".Extensions" ++ ".cs" := by
    cases chosen : c.target with
    | doctrine => exact absurd chosen target
    | entityFramework => simp [Call.annex, Call.extensionSuffix, chosen, Target.extension]
    | entityFrameworkCore => simp [Call.annex, Call.extensionSuffix, chosen, Target.extension]
  refine .mk ⟨?_, rfl⟩ ⟨?_, rfl⟩ (by simp) (by simp)
  · simp only [Call.site, Call.folder, Call.file, sharp.1, suffix, home]
    exact Path.childFileName _ (FileName.suffixed words FileName.cs)
  · simp only [Call.site, Call.folder, Call.file, sharp.2.1, sharp.2.2, suffix, home,
      String.append_assoc]
    exact Path.childFileName _ (FileName.suffixed words FileName.extensionsCs)

theorem emitBundle {c : Call} {e : Entity} {artifacts : List Artifact} {shelf : Path} {label : String}
    (emitted : c.target.emit e c.options = .ok artifacts)
    (words : Name.wellFormed e.name.toList = true) (segments : e.segments = c.segments)
    (outDir : e.outDir = c.root)
    (shelving : ∀ dir, Emit.Doctrine.mappingDir e c.options = .ok dir →
      ∀ tail, FileName tail → dir.child (c.stem ++ tail) = shelf.under (label ++ tail)) :
    Bundle c shelf label e.name artifacts := by
  have home : e.classDir = c.home := by rw [Entity.classDir, segments, outDir]; rfl
  cases target : c.target with
  | doctrine =>
    have php := FileName.suffixed words FileName.php
    have qualified : e.qualifiedName "." ++ ".dcm.xml" = c.stem ++ (e.name ++ ".dcm.xml") := by
      rw [Entity.qualifiedName, segments, intercalateLast, String.append_assoc]
      rfl
    rw [target] at emitted
    obtain ⟨columns, main, extension, dir, mapping, _, _, _, mappingDir, _, rfl⟩ :=
      Emit.Doctrine.artifactsOk.mp emitted
    refine .mk ⟨?_, rfl⟩ ⟨?_, rfl⟩ (fun a member => ?_) (by simp)
    · simp only [Call.site, Call.folder, Call.file, target, home]
      exact Path.childFileName _ php
    · simp only [Call.site, Call.folder, Call.file, Call.annex, Call.extensionSuffix, target, home]
      exact Path.childFileName _ php
    · obtain rfl := List.mem_singleton.mp member
      refine ⟨?_, rfl⟩
      dsimp only [Call.site]
      rw [qualified]
      exact shelving dir mappingDir _ (FileName.suffixed words FileName.mapping)
  | entityFramework =>
    rw [target] at emitted
    exact frameworkBundle _ emitted (by simp [target]) rfl words home
  | entityFrameworkCore =>
    rw [target] at emitted
    exact frameworkBundle _ emitted (by simp [target]) rfl words home

namespace Call
variable {c : Call} {key raw : Value} {e : Entity} {artifacts : List Artifact}

theorem renderOk (ok : c.render key raw = .ok (e, artifacts)) :
    nameOf key = e.name ∧ Name.wellFormed e.name.toList = true ∧ e.segments = c.segments ∧
      e.outDir = c.root ∧ c.target.emit e c.options = .ok artifacts := by
  obtain ⟨normal, normalized, ok⟩ := exceptBindOk ok
  obtain ⟨emitted, emit, ok⟩ := exceptBindOk ok
  cases ok
  obtain ⟨read, segments, outDir⟩ := normalizeOk normalized
  exact ⟨nameOfRead read, (readNameOk read).1, segments, outDir, emit⟩

def mappingDir (c : Call) : Except Failure Path :=
  match c.options.xmlOutDir with
  | .text s => .ok (if Text.trim s = "" then c.root else c.root.child (Text.trim s))
  | .bytes data =>
    if data.all Emit.Doctrine.isBlankByte then .ok c.root
    else .error (.foreign "mapping directory without text")
  | v => if v.truthy then .error (.foreign "mapping directory without text") else .ok c.root

theorem mappingDirOf (outDir : e.outDir = c.root) :
    Emit.Doctrine.mappingDir e c.options = c.mappingDir := by
  unfold Emit.Doctrine.mappingDir mappingDir
  cases c.options.xmlOutDir <;> simp [outDir]

theorem mappingDirAbsolute {dir : Path} (ok : c.mappingDir = .ok dir) : dir.anchor ≠ .relative := by
  have start : c.root.anchor ≠ .relative := by simp [root, Path.resolve, Path.ofLocation]
  unfold mappingDir at ok
  split at ok
  · cases ok
    split
    · exact start
    · exact Path.childAbsolute start _
  all_goals
    split at ok <;> cases ok
    exact start

def Shelved (c : Call) (shelf : Path) (label : String) : Prop :=
  ∀ key raw e artifacts, c.render key raw = .ok (e, artifacts) →
    Bundle c shelf label e.name artifacts

theorem bundled (c : Call) :
    ∃ shelf : Path, ∃ label : String, shelf.anchor ≠ .relative ∧ c.Shelved shelf label := by
  cases chosen : c.mappingDir with
  | error failure =>
    refine ⟨c.home, "", c.homeAbsolute, fun key raw e artifacts ok => ?_⟩
    obtain ⟨_, words, segments, outDir, emitted⟩ := renderOk ok
    refine emitBundle emitted words segments outDir fun dir found => ?_
    rw [mappingDirOf outDir, chosen] at found
    cases found
  | ok dir =>
    obtain ⟨shelf, label, absolute, shelved⟩ := Path.childShelf (mappingDirAbsolute chosen) c.stem
    refine ⟨shelf, label, absolute, fun key raw e artifacts ok => ?_⟩
    obtain ⟨_, words, segments, outDir, emitted⟩ := renderOk ok
    refine emitBundle emitted words segments outDir fun found same => ?_
    rw [mappingDirOf outDir, chosen] at same
    cases same
    exact shelved

/- Without slashes in the namespace and without a directory of their own, mappings go straight to the
output directory. -/
theorem bundledFlat {c : Call} (whole : ∀ segment ∈ c.segments, '/' ∉ segment.toList)
    (plain : c.mappingDir = .ok c.root) (ok : c.render key raw = .ok (e, artifacts)) :
    Bundle c c.root c.stem e.name artifacts := by
  obtain ⟨_, words, segments, outDir, emitted⟩ := renderOk ok
  refine emitBundle emitted words segments outDir fun dir found tail file => ?_
  rw [mappingDirOf outDir, plain] at found
  cases found
  exact Path.childFileName _ (file.append _ (intercalateFree whole (by decide)))

end Call

section Places
variable {c : Call} {shelf : Path} {label name : String}

theorem extensionSuffixFile (c : Call) : FileName c.extensionSuffix := by
  unfold Call.extensionSuffix
  split
  · exact FileName.php
  · exact FileName.extensionsCs

theorem fileNamed (words : Name.wellFormed name.toList = true) (role : Role) :
    c.file label name role ≠ ".." := by
  cases role with
  | main => exact (c.target.suffixFile.label name).2.2
  | extension => exact ((extensionSuffixFile c).label name).2.2
  | mapping => exact ((FileName.suffixed words FileName.mapping).label label).2.2

theorem sitePlain (absolute : shelf.anchor ≠ .relative) (words : Name.wellFormed name.toList = true)
    (role : Role) : (c.site shelf label name role).Plain := by
  refine Path.plainOf ?_ _ (fileNamed words role)
  cases role with
  | main => exact c.homeAbsolute
  | extension => exact c.annexAbsolute
  | mapping => exact absolute

theorem sitePlace (words : Name.wellFormed name.toList = true) (role : Role) :
    (c.site shelf label name role).place =
      (c.folder shelf role).place ++ [c.file label name role] :=
  Path.underPlace _ (fileNamed words role)

theorem annexCases (c : Call) : (c.target = .doctrine ∧ c.extensionSuffix = c.target.extension ∧
      c.annex = c.home.under "Extensions") ∨
    (c.target.extension = ".cs" ∧ c.extensionSuffix = ".Extensions" ++ c.target.extension ∧
      c.annex = c.home) := by
  cases target : c.target with
  | doctrine =>
    refine .inl ⟨rfl, ?_, ?_⟩
    · simp [Call.extensionSuffix, target, Target.extension]
    · simp only [Call.annex, target]
      exact Path.childFileName _ FileName.extensions
  | entityFramework =>
    exact .inr (by simp [Call.annex, Call.extensionSuffix, target, Target.extension])
  | entityFrameworkCore =>
    exact .inr (by simp [Call.annex, Call.extensionSuffix, target, Target.extension])

theorem fileEnds (c : Call) (label name : String) (role : Role) :
    ∃ x, (c.file label name role).toList.getLast? = some x ∧ (x = 'l' ↔ role = .mapping) := by
  have ending {head suffix : String} {x : Char} (last : suffix.toList.getLast? = some x) :
      (head ++ suffix).toList.getLast? = some x := by
    simp [List.getLast?_append, last]
  cases role with
  | mapping => exact ⟨'l', ending (ending rfl), by simp⟩
  | main =>
    cases target : c.target with
    | doctrine => exact ⟨'p', ending (by rw [target]; rfl), by simp⟩
    | entityFramework => exact ⟨'s', ending (by rw [target]; rfl), by simp⟩
    | entityFrameworkCore => exact ⟨'s', ending (by rw [target]; rfl), by simp⟩
  | extension =>
    cases target : c.target with
    | doctrine => exact ⟨'p', ending (by rw [Call.extensionSuffix, target]; rfl), by simp⟩
    | entityFramework => exact ⟨'s', ending (by rw [Call.extensionSuffix, target]; rfl), by simp⟩
    | entityFrameworkCore => exact ⟨'s', ending (by rw [Call.extensionSuffix, target]; rfl), by simp⟩

theorem mainNotExtension {m n : String} (first : Name.wellFormed m.toList = true)
    (dirs : c.home.place = c.annex.place)
    (files : m ++ c.target.extension = n ++ c.extensionSuffix) : False := by
  rcases annexCases c with ⟨_, _, deeper⟩ | ⟨_, longer, _⟩
  · rw [deeper, Path.underPlace _ (by decide)] at dirs
    simp at dirs
  · rw [longer, ← String.append_assoc, String.append_left_inj] at files
    have dotted : '.' ∈ m.toList := by simp [files]
    exact Name.wordFree first (by decide) dotted

theorem siteApart {m n : String} (first : Name.wellFormed m.toList = true)
    (second : Name.wellFormed n.toList = true) {r q : Role}
    (same : (c.site shelf label m r).place = (c.site shelf label n q).place) : m = n ∧ r = q := by
  rw [sitePlace first, sitePlace second] at same
  obtain ⟨dirs, files⟩ := List.append_inj' same rfl
  have files : c.file label m r = c.file label n q := List.singleton_inj.mp files
  obtain ⟨x, endsX, mappingX⟩ := fileEnds c label m r
  obtain ⟨y, endsY, mappingY⟩ := fileEnds c label n q
  rw [files, endsY, Option.some.injEq] at endsX
  rw [← endsX, mappingY] at mappingX
  cases r with
  | main =>
    cases q with
    | main => exact ⟨(String.append_left_inj _).mp files, rfl⟩
    | extension => exact (mainNotExtension first dirs files).elim
    | mapping => simp at mappingX
  | extension =>
    cases q with
    | main => exact (mainNotExtension second dirs.symm files.symm).elim
    | extension => exact ⟨(String.append_left_inj _).mp files, rfl⟩
    | mapping => simp at mappingX
  | mapping =>
    obtain rfl := mappingX.mpr rfl
    have names := (String.append_right_inj _).mp files
    exact ⟨(String.append_left_inj _).mp names, rfl⟩

end Places

end EntityForge
