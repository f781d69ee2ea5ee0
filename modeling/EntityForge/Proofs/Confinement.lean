import EntityForge.Proofs.ColumnOrder
import EntityForge.Proofs.Formatting

/-! Where the files of an entity go. A namespace is cut at its dots, so no segment leads upwards. But
segments are free text otherwise: one that begins with a slash is a place of its own and leaves the
output directory, and one with a slash inside is more than one directory. -/
namespace EntityForge

structure Segment (s : String) : Prop where
  some : s ≠ ""
  dotless : '.' ∉ s.toList

namespace Segment

theorem ofNamespace {raw : Value} {s : String} (member : s ∈ parseNamespace raw) : Segment s := by
  obtain ⟨cs, kept, rfl⟩ := List.mem_map.mp member
  obtain ⟨stripped, solid⟩ := List.mem_filter.mp kept
  obtain ⟨piece, cut, rfl⟩ := List.mem_map.mp stripped
  refine ⟨fun none => ?_, fun dot => ?_⟩
  · simp [String.ofList_eq_empty_iff.mp none] at solid
  · rw [String.toList_ofList] at dot
    simpa using Text.piecesFree cut '.' (Text.stripSubset piece dot)

theorem ofName {s : String} (words : Name.wellFormed s.toList = true) : Segment s := by
  refine ⟨?_, Name.wordFree words (by decide)⟩
  rintro rfl
  cases words

theorem split {s : String} (segment : Segment s) : Text.splitAt (· == '.') s.toList = [s.toList] :=
  Text.splitAtFree fun c member => by
    rw [beq_eq_false_iff_ne]
    rintro rfl
    exact segment.dotless member

theorem splitJoined {xs : List String} (segments : ∀ x ∈ xs, Segment x) (some : xs ≠ []) :
    Text.splitAt (· == '.') (String.intercalate "." xs).toList = xs.map String.toList := by
  induction xs with
  | nil => exact absurd rfl some
  | cons x rest ih =>
    obtain ⟨here, later⟩ := List.forall_mem_cons.mp segments
    cases rest with
    | nil => simpa using here.split
    | cons next others =>
      have dot : ".".toList = ['.'] := rfl
      rw [String.intercalate_cons_of_ne_nil (by simp), String.toList_append, String.toList_append,
        dot, List.append_assoc, List.singleton_append, Text.splitAtCut rfl, here.split,
        ih later (by simp)]
      rfl

theorem upFree {xs : List String} (segments : ∀ x ∈ xs, Segment x) (some : xs ≠ []) :
    ".." ∉ Path.names (String.intercalate "." xs).toList := by
  intro member
  obtain ⟨cs, cut, same⟩ := List.mem_map.mp (List.mem_filter.mp member).1
  obtain ⟨before, after, whole⟩ := Text.piecesInfix cut
  have up : cs = '.' :: '.' :: [] := String.ofList_injective same
  have empty : [] ∈ Text.splitAt (· == '.') (String.intercalate "." xs).toList := by
    rw [← whole, up, List.append_assoc, List.cons_append, List.cons_append, Text.splitAtCut rfl,
      ← List.nil_append ('.' :: _), Text.splitAtCut rfl]
    simp [Text.splitAt]
  rw [splitJoined segments some] at empty
  obtain ⟨x, there, none⟩ := List.mem_map.mp empty
  exact (segments x there).some (String.toList_eq_nil_iff.mp none)

end Segment

namespace Path

def down (dir : Path) (names : List String) : Path := ⟨dir.anchor, dir.parts ++ names⟩

def Below (p dir : Path) : Prop := ∃ names, names ≠ [] ∧ ".." ∉ names ∧ p = dir.down names

def Onward (s : String) : Prop := s.toList.head? ≠ some '/'

instance (s : String) : Decidable (Onward s) :=
  inferInstanceAs (Decidable (s.toList.head? ≠ some '/'))

theorem downDown (dir : Path) (a b : List String) : (dir.down a).down b = dir.down (a ++ b) := by
  simp [down]

theorem downApart {dir : Path} {a b : String} (other : a ≠ b) (xs ys : List String) :
    (dir.down [a]).down xs ≠ (dir.down [b]).down ys := by
  intro same
  simp only [downDown] at same
  simp only [down, mk.injEq, true_and, List.append_cancel_left_eq, List.singleton_append,
    List.cons.injEq] at same
  exact other same.1

theorem downParent (dir : Path) {names : List String} (some : names ≠ []) :
    (dir.down names).parent = dir.down names.dropLast := by
  simp [down, parent, List.dropLast_append_of_ne_nil some]

theorem childOnward (p : Path) {s : String} (onward : Onward s) :
    p.child s = p.down (names s.toList) := by
  have text : ofText s = ⟨.relative, names s.toList⟩ := by
    rw [← anchorRelative.mpr onward]
    rfl
  rw [child, text]
  rfl

theorem childRooted {s : String} (rooted : ¬ Onward s) (p q : Path) : p.child s = q.child s := by
  have anchored : (ofText s).anchor ≠ .relative := fun same => rooted (anchorRelative.mp same)
  unfold child join
  split
  next relative => exact absurd relative anchored
  next => rfl

theorem foldOnward (segments : List String) (onward : ∀ s ∈ segments, Onward s) (p : Path) :
    segments.foldl child p = p.down (segments.flatMap fun s => names s.toList) := by
  induction segments generalizing p with
  | nil => simp [down]
  | cons s rest ih =>
    obtain ⟨here, later⟩ := List.forall_mem_cons.mp onward
    rw [List.foldl_cons, childOnward p here, ih later, downDown]
    rfl

theorem foldRooted {segments : List String} {s : String} (member : s ∈ segments)
    (rooted : ¬ Onward s) (p q : Path) : segments.foldl child p = segments.foldl child q := by
  induction segments generalizing p q with
  | nil => cases member
  | cons t rest ih =>
    rw [List.foldl_cons, List.foldl_cons]
    rcases List.mem_cons.mp member with rfl | later
    · rw [childRooted rooted p q]
    · exact ih later _ _

theorem onwardOf (base : Path) {segments : List String}
    (stays : ∀ name ∈ ["x", "y"], ∃ names, segments.foldl child (base.down [name]) =
      (base.down [name]).down names) : ∀ s ∈ segments, Onward s := by
  intro s member
  by_contra rooted
  obtain ⟨xs, first⟩ := stays "x" (by decide)
  obtain ⟨ys, second⟩ := stays "y" (by decide)
  have same := foldRooted member rooted (base.down ["x"]) (base.down ["y"])
  exact downApart (by decide) xs ys (first.symm.trans (same.trans second))

theorem resolveNeighbour (cwd : Location) {name : String} (named : name ∈ ["x", "y"]) :
    (ofText name).hasNul = false ∧ (ofText name).resolve cwd = (ofLocation cwd).down [name] := by
  simp only [List.mem_cons, List.not_mem_nil, or_false] at named
  rcases named with rfl | rfl
  · exact ⟨rfl, rfl⟩
  · exact ⟨rfl, rfl⟩

theorem namesSome {s : String} (segment : Segment s) (onward : Onward s) :
    0 < (names s.toList).length := by
  obtain ⟨c, rest, shape⟩ := List.exists_cons_of_ne_nil (mt String.toList_eq_nil_iff.mp segment.some)
  have solid : c ≠ '/' := fun same => onward (by rw [shape, same]; rfl)
  have dotless : c ≠ '.' := fun same => segment.dotless (by rw [shape, same]; exact List.mem_cons_self)
  obtain ⟨piece, pieces, cut⟩ := List.exists_cons_of_ne_nil (Text.splitAtNonempty (· == '/') rest)
  have kept : String.ofList (c :: piece) ∈ names s.toList := by
    refine List.mem_filter.mpr ⟨List.mem_map_of_mem ?_, ?_⟩
    · simp [shape, Text.splitAt, cut, solid]
    · have other : String.ofList (c :: piece) ≠ "." := by
        intro same
        exact dotless (List.cons.inj (String.ofList_injective same)).1
      simpa using other
  exact List.length_pos_of_mem kept

theorem namesFlat {s : String} (segment : Segment s) (whole : '/' ∉ s.toList) :
    names s.toList = [s] := by
  have free : ∀ c ∈ s.toList, (c == '/') = false := by
    intro c member
    rw [beq_eq_false_iff_ne]
    rintro rfl
    exact whole member
  have dot : s ≠ "." := by
    rintro rfl
    exact segment.dotless (by decide)
  simp [names, Text.splitAtFree free, segment.some, dot]

theorem flatLength {segments : List String} (some : ∀ s ∈ segments, 0 < (names s.toList).length) :
    segments.length ≤ (segments.flatMap fun s => names s.toList).length ∧
      ((segments.flatMap fun s => names s.toList).length = segments.length ↔
        ∀ s ∈ segments, (names s.toList).length = 1) := by
  induction segments with
  | nil => simp
  | cons s rest ih =>
    obtain ⟨here, later⟩ := List.forall_mem_cons.mp some
    obtain ⟨least, exact⟩ := ih later
    rw [List.flatMap_cons, List.length_append, List.length_cons, List.forall_mem_cons, ← exact]
    omega

theorem onwardJoined {xs : List String} (segments : ∀ x ∈ xs, Segment x)
    (onward : ∀ x ∈ xs, Onward x) (tail : String) (some : xs ≠ []) :
    Onward (String.intercalate "." xs ++ tail) := by
  obtain ⟨x, rest, rfl⟩ := List.exists_cons_of_ne_nil some
  obtain ⟨c, others, shape⟩ := List.exists_cons_of_ne_nil
    (mt String.toList_eq_nil_iff.mp (segments x List.mem_cons_self).some)
  have solid : c ≠ '/' := fun same => onward x List.mem_cons_self (by rw [shape, same]; rfl)
  cases rest with
  | nil => simp [Onward, shape, solid]
  | cons next more =>
    rw [Onward, String.intercalate_cons_of_ne_nil (by simp)]
    simp [shape, solid]

theorem onwardWhole {s : String} (whole : '/' ∉ s.toList) : Onward s :=
  fun first => whole (List.mem_of_head? first)

end Path

def Options.Unmoved (options : Options) : Prop :=
  match options.xmlOutDir with
  | .text s => Text.trim s = ""
  | .bytes data => data.all Emit.Doctrine.isBlankByte = true
  | v => v.truthy = false

namespace Entity
variable {e : Entity} {t : Target} {options : Options} {files : List Artifact}

def sites (e : Entity) : Target → List Path
  | .doctrine => [e.classDir.child (e.name ++ ".php"),
      (e.classDir.child "Extensions").child (e.name ++ ".php"),
      e.outDir.child (e.qualifiedName "." ++ ".dcm.xml")]
  | _ => [e.classDir.child (e.name ++ ".cs"), e.classDir.child (e.name ++ ".Extensions" ++ ".cs")]

theorem mappingUnmoved (unmoved : options.Unmoved) (e : Entity) :
    Emit.Doctrine.mappingDir e options = .ok e.outDir := by
  unfold Options.Unmoved at unmoved
  unfold Emit.Doctrine.mappingDir
  cases given : options.xmlOutDir with
  | text s =>
    rw [given] at unmoved
    exact congrArg Except.ok (if_pos unmoved)
  | bytes data =>
    rw [given] at unmoved
    exact if_pos unmoved
  | _ => simp_all

theorem frameworkSites {flavor : Emit.EntityFramework.Flavor}
    (emitted : Emit.EntityFramework.artifacts flavor e options = .ok files)
    (suffix : flavor.target.extension = ".cs") :
    files.map Artifact.path = e.sites .entityFramework ∧ ∀ dir, ∃ others,
      Emit.EntityFramework.artifacts flavor { e with outDir := dir } options = .ok others := by
  obtain ⟨columns, main, extension, typed, first, second, rfl⟩ :=
    Emit.EntityFramework.artifactsOk.mp emitted
  refine ⟨?_, fun dir => ⟨_, Emit.EntityFramework.artifactsOk.mpr
    ⟨columns, main, extension, typed, first, second, rfl⟩⟩⟩
  rw [Emit.EntityFramework.filesOf, suffix]
  rfl

theorem sitesHead (e : Entity) (t : Target) :
    (e.sites t).head? = some (e.classDir.child (e.name ++ t.extension)) := by
  cases t <;> rfl

theorem emitSites (unmoved : options.Unmoved) (emitted : t.emit e options = .ok files) :
    files.map Artifact.path = e.sites t ∧
      ∀ dir, ∃ others, t.emit { e with outDir := dir } options = .ok others := by
  cases t with
  | doctrine =>
    obtain ⟨columns, main, extension, dir, mapping, typed, first, second, placed, third, rfl⟩ :=
      Emit.Doctrine.artifactsOk.mp emitted
    rw [mappingUnmoved unmoved] at placed
    cases placed
    exact ⟨rfl, fun dir => ⟨_, Emit.Doctrine.artifactsOk.mpr ⟨columns, main, extension, dir, mapping,
      typed, first, second, mappingUnmoved unmoved _, third, rfl⟩⟩⟩
  | entityFramework => exact frameworkSites emitted rfl
  | entityFrameworkCore => exact frameworkSites emitted rfl

theorem normalizeMoved {cwd : Location} {key : Value} {description : Description}
    {segments : List String} {outDir : Path} {e : Entity}
    (ok : normalize cwd key description segments outDir = .ok e) {other : Path}
    (possible : other.hasNul = false) :
    normalize cwd key description segments other = .ok { e with outDir := other.resolve cwd } := by
  obtain ⟨name, entries, read, given, valid, unique, rfl⟩ := ofDescriptionOk.mp (normalizeIff.mp ok).1
  exact normalizeIff.mpr
    ⟨ofDescriptionOk.mpr ⟨name, entries, read, given, valid, unique, rfl⟩, possible⟩

end Entity

section Outcome
variable {cwd : Location} {key space : Value} {description : Description} {outDir : Path} {e : Entity}
  {t : Target} {options : Options} {files : List Artifact}

theorem classNamed (words : Name.wellFormed e.name.toList = true) (t : Target) :
    (e.classDir.child (e.name ++ t.extension)).parent = e.classDir := by
  rw [Path.childFileName _ (FileName.suffixed words t.suffixFile)]
  exact Path.underParent _ _

theorem emitMain (unmoved : options.Unmoved) (emitted : t.emit e options = .ok files) :
    ∃ main rest, files = main :: rest ∧ main.path = e.classDir.child (e.name ++ t.extension) := by
  have sites := (Entity.emitSites unmoved emitted).1
  cases files with
  | nil => cases t <;> cases sites
  | cons main rest =>
    have first := Entity.sitesHead e t
    rw [← sites] at first
    exact ⟨main, rest, rfl, Option.some.inj first⟩

def Confined (cwd : Location) (key space : Value) (description : Description) (t : Target)
    (options : Options) : Prop :=
  ∀ outDir e files, Entity.normalize cwd key description (parseNamespace space) outDir = .ok e →
    t.emit e options = .ok files → ∀ file ∈ files, file.path.Below e.outDir

def Levelled (cwd : Location) (key space : Value) (description : Description) : Prop :=
  ∀ outDir e, Entity.normalize cwd key description (parseNamespace space) outDir = .ok e →
    ∃ names, names.length = (parseNamespace space).length ∧ e.classDir = e.outDir.down names

theorem mappingBelow (words : Name.wellFormed e.name.toList = true)
    (segments : ∀ s ∈ e.segments, Segment s) (onward : ∀ s ∈ e.segments, Path.Onward s) :
    (e.outDir.child (e.qualifiedName "." ++ ".dcm.xml")).Below e.outDir := by
  have some : e.segments ++ [e.name] ≠ [] := by simp
  have all : ∀ x ∈ e.segments ++ [e.name], Segment x :=
    List.forall_mem_append.mpr ⟨segments, List.forall_mem_singleton.mpr (Segment.ofName words)⟩
  have onwards : ∀ x ∈ e.segments ++ [e.name], Path.Onward x :=
    List.forall_mem_append.mpr ⟨onward, List.forall_mem_singleton.mpr
      (Path.onwardWhole (Name.wordFree words (by decide)))⟩
  have ends : ∀ x ∈ ["dcm", "xml"], Segment x := by
    simp only [List.forall_mem_cons]
    exact ⟨⟨by decide, by decide⟩, ⟨by decide, by decide⟩, nofun⟩
  obtain ⟨front, label, named⟩ := Path.namesAppend (e.qualifiedName ".")
  refine ⟨_, ?_, ?_, Path.childOnward _ (Path.onwardJoined all onwards _ some)⟩
  · rw [named _ FileName.mapping]
    simp
  · have joined : String.intercalate "." ((e.segments ++ [e.name]) ++ ["dcm", "xml"]) =
        String.intercalate "." (e.segments ++ [e.name]) ++ ".dcm.xml" := by
      rw [String.intercalate_append_of_ne_nil some (by simp), String.append_assoc]
      rfl
    rw [Entity.qualifiedName, ← joined]
    exact Segment.upFree (List.forall_mem_append.mpr ⟨all, ends⟩) (by simp)

theorem sitesBelow (words : Name.wellFormed e.name.toList = true)
    (segments : ∀ s ∈ e.segments, Segment s) (onward : ∀ s ∈ e.segments, Path.Onward s)
    (t : Target) : ∀ site ∈ e.sites t, site.Below e.outDir := by
  have up : ".." ∉ e.segments.flatMap fun s => Path.names s.toList := by
    intro member
    obtain ⟨s, there, inner⟩ := List.mem_flatMap.mp member
    have single : ∀ x ∈ [s], Segment x := by simpa using segments s there
    exact Segment.upFree single (by simp) (by simpa using inner)
  have home : e.classDir = e.outDir.down (e.segments.flatMap fun s => Path.names s.toList) :=
    Path.foldOnward _ onward _
  have deeper (dir : Path) : dir.child "Extensions" = dir.down ["Extensions"] :=
    Path.childFileName _ FileName.extensions
  have inside {s : String} (file : FileName s) {front : List String} (free : ".." ∉ front) :
      ((e.outDir.down front).child s).Below e.outDir := by
    refine ⟨front ++ [s], by simp, ?_, ?_⟩
    · simp [free, file.plain.2.2.symm]
    · rw [Path.childFileName _ file, ← Path.downDown]
      rfl
  have php := FileName.suffixed words FileName.php
  have cs := FileName.suffixed words FileName.cs
  have extensions := FileName.suffixed words FileName.extensionsCs
  have framework : ∀ site ∈ e.sites .entityFramework, site.Below e.outDir := by
    simp only [Entity.sites, List.forall_mem_cons, String.append_assoc, home]
    exact ⟨inside cs up, inside extensions up, nofun⟩
  cases t with
  | doctrine =>
    simp only [Entity.sites, List.forall_mem_cons, home, deeper, Path.downDown]
    exact ⟨inside php up, inside php (by simpa using up), mappingBelow words segments onward, nofun⟩
  | entityFramework => exact framework
  | entityFrameworkCore => exact framework

theorem mainParent (words : Name.wellFormed e.name.toList = true) (unmoved : options.Unmoved)
    (emitted : t.emit e options = .ok files) :
    ∃ main rest, files = main :: rest ∧ main.path.parent = e.classDir := by
  obtain ⟨main, rest, filed, path⟩ := emitMain unmoved emitted
  exact ⟨main, rest, filed, path ▸ classNamed words t⟩

section Checked
variable (normal : Entity.normalize cwd key description (parseNamespace space) outDir = .ok e)
include normal

theorem segmentsChecked : e.segments = parseNamespace space := (normalizeOk normal).2.1

theorem wordsChecked : Name.wellFormed e.name.toList = true := (readNameOk (normalizeOk normal).1).1

theorem normalizeNeighbour {name : String} (named : name ∈ ["x", "y"]) :
    Entity.normalize cwd key description (parseNamespace space) (.ofText name) =
      .ok { e with outDir := (Path.ofLocation cwd).down [name] } := by
  obtain ⟨possible, resolved⟩ := Path.resolveNeighbour cwd named
  rw [Entity.normalizeMoved normal possible, resolved]

theorem confinedIff (unmoved : options.Unmoved) (emitted : t.emit e options = .ok files) :
    Confined cwd key space description t options ↔ ∀ s ∈ parseNamespace space, Path.Onward s := by
  constructor
  · intro confined
    rw [← segmentsChecked normal]
    refine Path.onwardOf (.ofLocation cwd) fun name named => ?_
    obtain ⟨_, again⟩ := Entity.emitSites unmoved emitted
    obtain ⟨others, emitted'⟩ := again ((Path.ofLocation cwd).down [name])
    have normal' := normalizeNeighbour normal named
    obtain ⟨main, rest, rfl, home⟩ := mainParent (wordsChecked normal') unmoved emitted'
    obtain ⟨names, some, _, below⟩ := confined _ _ _ normal' emitted' main List.mem_cons_self
    exact ⟨names.dropLast, by rw [← Path.downParent _ some, ← below, home]; rfl⟩
  · intro onward outDir' e' files' normal' emitted'
    have checked := segmentsChecked normal'
    have segments : ∀ s ∈ e'.segments, Segment s := checked ▸ fun s => Segment.ofNamespace
    have below := sitesBelow (wordsChecked normal') segments (checked ▸ onward) t
    rw [← (Entity.emitSites unmoved emitted').1] at below
    exact fun file member => below _ (List.mem_map_of_mem member)

theorem levelledIff : Levelled cwd key space description ↔ ∀ s ∈ parseNamespace space,
    Path.Onward s ∧ (Path.names s.toList).length = 1 := by
  have segments : ∀ s ∈ parseNamespace space, Segment s := fun s => Segment.ofNamespace
  constructor
  · intro levelled
    have onward : ∀ s ∈ parseNamespace space, Path.Onward s := by
      rw [← segmentsChecked normal]
      refine Path.onwardOf (.ofLocation cwd) fun name named => ?_
      obtain ⟨names, _, levels⟩ := levelled _ _ (normalizeNeighbour normal named)
      exact ⟨names, levels⟩
    obtain ⟨names, count, levels⟩ := levelled _ _ normal
    rw [Entity.classDir, segmentsChecked normal, Path.foldOnward _ onward] at levels
    have same := List.append_cancel_left (congrArg Path.parts levels)
    rw [← same] at count
    have exact := (Path.flatLength fun s there => Path.namesSome (segments s there) (onward s there)).2
    exact fun s there => ⟨onward s there, exact.mp count s there⟩
  · intro single outDir' e' normal'
    have exact := (Path.flatLength fun s there =>
      Path.namesSome (segments s there) (single s there).1).2
    refine ⟨_, exact.mpr fun s there => (single s there).2, ?_⟩
    rw [Entity.classDir, segmentsChecked normal']
    exact Path.foldOnward _ (fun s there => (single s there).1) _

theorem classDirWhole (whole : ∀ s ∈ parseNamespace space, '/' ∉ s.toList) :
    e.classDir = e.outDir.down (parseNamespace space) := by
  have flat : (parseNamespace space).flatMap (fun s => Path.names s.toList) = parseNamespace space := by
    refine (List.flatMap_congr fun s there =>
      Path.namesFlat (Segment.ofNamespace there) (whole s there)).trans ?_
    exact List.flatMap_singleton' _
  rw [Entity.classDir, segmentsChecked normal,
    Path.foldOnward _ fun s there => Path.onwardWhole (whole s there), flat]

end Checked

/- Files stay below the output directory, wherever that is, exactly when no segment of the namespace
begins with a slash; and a segment is one level exactly when it moreover is a single name. -/
theorem confinement
    (normal : Entity.normalize cwd key description (parseNamespace space) outDir = .ok e)
    (unmoved : options.Unmoved) (emitted : t.emit e options = .ok files) :
    (Confined cwd key space description t options ↔ ∀ s ∈ parseNamespace space, Path.Onward s) ∧
      (Levelled cwd key space description ↔ ∀ s ∈ parseNamespace space,
        Path.Onward s ∧ (Path.names s.toList).length = 1) ∧
      (∃ main rest, files = main :: rest ∧ main.path.parent = e.classDir) ∧
      ((∀ s ∈ parseNamespace space, '/' ∉ s.toList) →
        e.classDir = e.outDir.down (parseNamespace space)) :=
  ⟨confinedIff normal unmoved emitted, levelledIff normal,
    mainParent (wordsChecked normal) unmoved emitted, classDirWhole normal⟩

end Outcome

def userIn (segments : List String) : Entity where
  name := "User"
  segments
  table := "User"
  columns := []
  outDir := ⟨.root, ["w", "out"]⟩

theorem unmovedDefault : Options.Unmoved {} := rfl

theorem appConfinement : ∃ files,
    Entity.normalize [] (.text "User") {} (parseNamespace (.text "App.Db")) (.ofText "/w/out") =
        .ok (userIn ["App", "Db"]) ∧
      Options.Unmoved {} ∧ Target.doctrine.emit (userIn ["App", "Db"]) {} = .ok files ∧
      Confined [] (.text "User") (.text "App.Db") {} .doctrine {} ∧
      Levelled [] (.text "User") (.text "App.Db") {} := by
  obtain ⟨files, emitted⟩ : ∃ files, Target.doctrine.emit (userIn ["App", "Db"]) {} = .ok files :=
    Target.doctrine.emitAccepted plainDefault (by decide)
  have normal : Entity.normalize [] (.text "User") {} (parseNamespace (.text "App.Db"))
      (.ofText "/w/out") = .ok (userIn ["App", "Db"]) := rfl
  have confined := confinement normal unmovedDefault emitted
  exact ⟨files, normal, unmovedDefault, emitted, confined.1.mpr (by decide),
    confined.2.1.mpr (by decide)⟩

theorem rootedEscapes :
    Entity.normalize [] (.text "User") {} (parseNamespace (.text "/etc")) (.ofText "/w/out") =
        .ok (userIn ["/etc"]) ∧
      ∃ main rest, Target.doctrine.emit (userIn ["/etc"]) {} = .ok (main :: rest) ∧
        main.path = .ofText "/etc/User.php" ∧ ¬ main.path.Below (.ofText "/w/out") := by
  obtain ⟨files, emitted⟩ : ∃ files, Target.doctrine.emit (userIn ["/etc"]) {} = .ok files :=
    Target.doctrine.emitAccepted plainDefault (by decide)
  obtain ⟨main, rest, rfl, path⟩ := emitMain unmovedDefault emitted
  have escaped : main.path = .ofText "/etc/User.php" := path
  refine ⟨rfl, main, rest, emitted, escaped, ?_⟩
  rintro ⟨names, _, _, below⟩
  rw [escaped] at below
  have first : "etc" = "w" := congrArg (fun p : Path => p.parts.headD "") below
  exact absurd first (by decide)

end EntityForge
