import EntityForge.Proofs.Blanks
import EntityForge.Proofs.Confinement
import EntityForge.Proofs.Deeds
import EntityForge.Proofs.Extensions

/-! Several targets in one run. Each of them has a directory of its own below every output directory,
and its class files lie below that directory at one depth. So whatever the output directories are, no
call writes a file that a call for another target writes, and what a call wrote stays until the end
unless a later call for the same target writes it. -/
namespace EntityForge
open Activity Command FileTree

namespace Text

theorem stripBefore {s : List Char} (some : s ≠ []) (solid : ∀ c ∈ s, isBlank c = false)
    (head : List Char) : strip (head ++ s) = head.dropWhile isBlank ++ s := by
  have ends : stripEnd s = s := by
    obtain ⟨back, blank, cut⟩ := stripEndCut s
    cases back with
    | nil =>
      rw [List.append_nil] at cut
      exact cut.symm
    | cons c rest =>
      have member : c ∈ s := by
        rw [cut]
        simp
      have blank := blank c List.mem_cons_self
      simp [solid c member] at blank
  have starts : stripStart (head ++ s) = head.dropWhile isBlank ++ s := by
    unfold stripStart
    induction head with
    | nil =>
      obtain ⟨c, rest, rfl⟩ := List.exists_cons_of_ne_nil some
      simp [solid c List.mem_cons_self]
    | cons c rest ih =>
      by_cases blank : isBlank c = true
      · simpa [List.dropWhile_cons, blank] using ih
      · simp [blank]
  have visible : stripEnd s ≠ [] := by
    rw [ends]
    exact some
  rw [strip, starts, stripEndSolid visible, ends]

end Text

namespace Path

def Front (head : List Char) : Prop := head = [] ∨ ∃ h, head = h ++ ['/']

namespace Front
variable {head : List Char}

theorem slash (front : Front head) : ∃ h, '/' :: head = h ++ ['/'] := by
  rcases front with rfl | ⟨h, rfl⟩
  · exact ⟨[], rfl⟩
  · exact ⟨'/' :: h, rfl⟩

theorem joined (names : List String) :
    Front (String.intercalate "/" (names ++ [""])).toList := by
  induction names with
  | nil => exact .inl (by simp)
  | cons name rest ih =>
    obtain ⟨h, closed⟩ := ih.slash
    refine .inr ⟨name.toList ++ h, ?_⟩
    rw [List.cons_append, String.intercalate_cons_of_ne_nil (by simp), List.append_assoc, ← closed]
    simp

theorem trimmed (front : Front head) : Front (head.dropWhile Text.isBlank) := by
  rcases front with rfl | ⟨h, rfl⟩
  · exact .inl rfl
  · refine .inr ?_
    induction h with
    | nil => exact ⟨[], rfl⟩
    | cons c rest ih =>
      rw [List.cons_append, List.dropWhile_cons]
      split
      · exact ih
      · exact ⟨c :: rest, rfl⟩

theorem names (front : Front head) {s : String} (name : FileName s) :
    ∃ before, Path.names (head ++ s.toList) = before ++ [s] := by
  have free : ∀ c ∈ s.toList, (c == '/') = false := by
    intro c member
    rw [beq_eq_false_iff_ne]
    rintro rfl
    exact name.whole member
  rcases front with rfl | ⟨h, rfl⟩
  · exact ⟨[], by simp [Path.names, Text.splitAtFree free, name.plain]⟩
  · refine ⟨Path.names h, ?_⟩
    rw [List.append_assoc, List.singleton_append]
    simp [Path.names, Text.splitAtCut (p := (· == '/')) (d := '/') (by simp), Text.splitAtFree free,
      name.plain]

end Front

theorem textChild (p : Path) {s : String} (name : FileName s) :
    ∃ head, Front head ∧ (p.child s).text.toList = head ++ s.toList := by
  have body : (String.intercalate "/" (p.parts ++ [s])).toList =
      (String.intercalate "/" (p.parts ++ [""])).toList ++ s.toList := by
    rw [intercalateLast, String.toList_append]
  have front := Front.joined p.parts
  rw [childFileName p name]
  unfold text
  dsimp only
  cases p.anchor with
  | relative => exact ⟨_, front, by simpa using body⟩
  | root => exact ⟨_, .inr front.slash, by simp [body]⟩
  | doubleRoot =>
    have closed : Front ('/' :: _) := .inr front.slash
    exact ⟨_, .inr closed.slash, by simp [body]⟩

theorem trimmedChild (p : Path) {s : String} (name : FileName s)
    (solid : ∀ c ∈ s.toList, Text.isBlank c = false) :
    ∃ before, (ofText (Text.trim (p.child s).text)).parts = before ++ [s] := by
  obtain ⟨head, front, text⟩ := textChild p name
  have some : s.toList ≠ [] := by simpa using name.plain.1
  have trimmed : (Text.trim (p.child s).text).toList = head.dropWhile Text.isBlank ++ s.toList := by
    rw [Text.trim, text, Text.stripBefore some solid, String.toList_ofList]
  obtain ⟨before, cut⟩ := front.trimmed.names name
  have parts (s : String) : (ofText s).parts = names s.toList := rfl
  exact ⟨before, by rw [parts, trimmed, cut]⟩

theorem childEnds (p : Path) {text s : String} {before : List String}
    (ends : (ofText text).parts = before ++ [s]) : ∃ front, (p.child text).parts = front ++ [s] := by
  unfold child join
  split
  · exact ⟨p.parts ++ before, by rw [ends, List.append_assoc]⟩
  · exact ⟨before, ends⟩

theorem locateEnds {p : Path} {front : List String} {s : String} (ends : p.parts = front ++ [s])
    (plain : s ≠ "..") (cwd : Location) : ∃ l, p.locate cwd = l ++ [s] := by
  unfold locate
  rw [ends]
  split
  · exact ⟨_, by rw [List.foldl_append]; exact stepName plain _⟩
  · exact ⟨_, by rw [List.foldl_append]; exact stepName plain _⟩

end Path

theorem Target.keyFile (t : Target) : FileName t.key := by
  cases t
  · exact ⟨by decide, 'e', rfl, by decide⟩
  · exact ⟨by decide, 'f', rfl, by decide⟩
  · exact ⟨by decide, 'e', rfl, by decide⟩

theorem Target.keySolid (t : Target) : ∀ c ∈ t.key.toList, Text.isBlank c = false := by
  have solid : t.key.toList.any Text.isBlank = false := by cases t <;> decide
  simpa using solid

theorem Target.keyInjective {t u : Target} (same : t.key = u.key) : t = u := by
  cases t <;> cases u <;> first | rfl | exact absurd same (by decide)

section Roots
variable {base : Path} {file : EntityFile} {options : Options} {target : Target}

theorem outPathEnds {p dir : Path} {s : Session}
    (ok : ((request base file options target (p.child target.key)).outPath.on s).1 = .ok dir) :
    ∃ l, dir = .ofLocation (l ++ [target.key]) := by
  obtain ⟨before, ends⟩ := p.trimmedChild target.keyFile target.keySolid
  have visible : Text.trim (p.child target.key).text ≠ "" := by
    intro none
    rw [none] at ends
    have bare : (Path.ofText "").parts = [] := rfl
    simp [bare] at ends
  have given : CompileRequest.given (request base file options target (p.child target.key)).outDir =
      some (Text.trim (p.child target.key).text) := by
    simp [CompileRequest.given, request, visible]
  unfold CompileRequest.outPath at ok
  rw [onBind, onGet] at ok
  dsimp only at ok
  rw [given] at ok
  unfold Activity.resolve at ok
  dsimp only at ok
  split at ok
  · cases ok
  · cases ok
    obtain ⟨front, ends⟩ := Path.childEnds ((request base file options target (p.child target.key)).base
      s.cwd) ends
    obtain ⟨l, located⟩ := Path.locateEnds ends target.keyFile.plain.2.2 s.cwd
    exact ⟨l, congrArg Path.ofLocation located⟩

theorem rootEnds {settings : Settings} (several : 1 < settings.targets.length) {out : String}
    {s : Session} {c : Call} (called : (request base file options target
      (targetDir settings out target)).call .standard s = .ok c) :
    c.target = target ∧ c.segments = file.segments ∧ ∃ l, c.root.place = l ++ [target.key] := by
  rw [requestCall, targetDir, if_pos several] at called
  have ends {dir : Path} (ok : ((request base file options target
      ((Path.ofText out).child target.key)).outPath.on s).1 = .ok dir) := outPathEnds ok
  generalize ((request base file options target
    ((Path.ofText out).child target.key)).outPath.on s).1 = place at called ends
  cases place with
  | error failure => cases called
  | ok dir =>
    cases called
    obtain ⟨l, rfl⟩ := ends rfl
    obtain ⟨l', located⟩ := Path.locateEnds (p := .ofLocation (l ++ [target.key])) rfl
      target.keyFile.plain.2.2 s.cwd
    have place : (Call.root ⟨target, options, file.segments, .ofLocation (l ++ [target.key]),
        s.cwd⟩).place = (l' ++ [target.key]).foldl Path.step [] := by
      rw [← located]
      rfl
    refine ⟨rfl, rfl, l'.foldl Path.step [], ?_⟩
    rw [place, List.foldl_append]
    exact stepName target.keyFile.plain.2.2 _

end Roots

/- Where the files of a target lie: those of Doctrine are told by their suffixes, the others by the
directory of the target. -/
inductive Lands (segments : List String) (l : Location) : Target → Prop where
  | doctrine {dir : Location} {name : String} (here : l = dir ++ [name])
      (ends : name.toList.getLast? ≠ some 's') : Lands segments l .doctrine
  | framework {target : Target} {dir : Location} {name : String} (other : target ≠ .doctrine)
      (here : l = dir ++ [target.key] ++ segments ++ [name])
      (ends : name.toList.getLast? = some 's') : Lands segments l target

theorem landsApart {segments : List String} {l : Location} {target other : Target}
    (first : Lands segments l target) (second : Lands segments l other) : target = other := by
  cases first with
  | doctrine here ends =>
    cases second with
    | doctrine _ _ => rfl
    | framework _ here' ends' =>
      obtain ⟨_, names⟩ := List.append_inj' (here.symm.trans here') rfl
      obtain rfl := List.singleton_inj.mp names
      exact absurd ends' ends
  | framework _ here ends =>
    cases second with
    | doctrine here' ends' =>
      obtain ⟨_, names⟩ := List.append_inj' (here.symm.trans here') rfl
      obtain rfl := List.singleton_inj.mp names
      exact absurd ends ends'
    | framework _ here' _ =>
      obtain ⟨dirs, _⟩ := List.append_inj' (here.symm.trans here') rfl
      obtain ⟨_, keys⟩ := List.append_inj' (List.append_cancel_right dirs) rfl
      exact Target.keyInjective (List.singleton_inj.mp keys)

section Landing
variable {c : Call} {key raw : Value} {e : Entity} {artifacts : List Artifact} {a : Artifact}

theorem doctrineLands (doctrine : c.target = .doctrine) (ok : c.render key raw = .ok (e, artifacts))
    (member : a ∈ artifacts) : Lands c.segments a.path.place c.target := by
  obtain ⟨shelf, label, _, bundled⟩ := c.bundled
  obtain ⟨role, filed⟩ := (bundled key raw e artifacts ok).filed a member
  have words := (Call.renderOk ok).2.1
  rw [doctrine]
  refine .doctrine (by rw [filed.path, sitePlace words]) ?_
  cases role <;>
    simp [Call.file, Call.extensionSuffix, doctrine, Target.extension, List.getLast?_append]

theorem frameworkLands (framework : c.target ≠ .doctrine) (named : c.Identified)
    {dir : Location} (root : c.root.place = dir ++ [c.target.key])
    (ok : c.render key raw = .ok (e, artifacts)) (member : a ∈ artifacts) :
    Lands c.segments a.path.place c.target := by
  obtain ⟨_, words, segments, outDir, emitted⟩ := Call.renderOk ok
  have home : e.classDir = c.home := by
    rw [Entity.classDir, segments, outDir]
    rfl
  have paths : artifacts.map Artifact.path = e.sites .entityFramework := by
    have sites (flavor : Emit.EntityFramework.Flavor) (suffix : flavor.target.extension = ".cs")
        (made : Emit.EntityFramework.artifacts flavor e c.options = .ok artifacts) :=
      (Entity.frameworkSites made suffix).1
    cases target : c.target with
    | doctrine => exact absurd target framework
    | entityFramework =>
      rw [target] at emitted
      exact sites Emit.EntityFramework.classic rfl emitted
    | entityFrameworkCore =>
      rw [target] at emitted
      exact sites Emit.EntityFramework.core rfl emitted
  have lands {suffix : String} (file : FileName suffix) (ends : suffix.toList.getLast? = some 's')
      (path : a.path = c.home.child (e.name ++ suffix)) : Lands c.segments a.path.place c.target := by
    have whole := FileName.suffixed words file
    have under : a.path = c.home.under (e.name ++ suffix) := path.trans (Path.childFileName _ whole)
    have last : (e.name ++ suffix).toList.getLast? = some 's' := by
      simp [List.getLast?_append, ends]
    have here : a.path.place = dir ++ [c.target.key] ++ c.segments ++ [e.name ++ suffix] := by
      rw [under, Path.underPlace _ whole.plain.2.2, Call.homePlace named, root]
    exact .framework framework here last
  have sites : e.sites .entityFramework =
      [c.home.child (e.name ++ ".cs"), c.home.child (e.name ++ (".Extensions" ++ ".cs"))] := by
    rw [← home, ← String.append_assoc]
    rfl
  have listed : a.path ∈ artifacts.map Artifact.path := List.mem_map_of_mem member
  rw [paths, sites] at listed
  rcases List.mem_cons.mp listed with main | extension
  · exact lands FileName.cs rfl main
  · exact lands FileName.extensionsCs rfl (List.mem_singleton.mp extension)

end Landing

section Separation
variable {base : Path} {settings : Settings} {verbose : Bool}

theorem writtenLands (several : 1 < settings.targets.length) {file : EntityFile}
    (identified : ∀ segment ∈ file.segments, Name.wellFormed segment.toList = true)
    {place : Target × Path} (listed : place ∈ places settings) {s : Session} (wf : s.tree.WellFormed)
    {p : Path} (member : p ∈ writtenBy base settings file place s) :
    Lands file.segments p.place place.1 := by
  obtain ⟨out, _, listed⟩ := List.mem_flatMap.mp listed
  obtain ⟨target, _, rfl⟩ := List.mem_map.mp listed
  obtain ⟨options, chosen⟩ := optionsChosen settings target
  unfold writtenBy at member
  dsimp only at member ⊢
  rw [chosen] at member
  obtain ⟨c, key, raw, e, artifacts, a, called, ok, inside, rfl⟩ :=
    CompileRequest.workRendered _ wf member
  obtain ⟨rfl, segments, dir, root⟩ := rootEnds several called
  rw [← segments] at identified ⊢
  by_cases doctrine : c.target = .doctrine
  · exact doctrineLands doctrine ok inside
  · exact frameworkLands doctrine identified root ok inside

structure Separated (settings : Settings) (t : FileTree) (calls : List Deed) (u : FileTree) : Prop where
  leads : Leads t calls u
  aims : calls.map Deed.aim <+: places settings
  apart : ∀ d ∈ calls, ∀ e ∈ calls, d.target ≠ e.target →
    ∀ p ∈ d.written, ∀ q ∈ e.written, p.place ≠ q.place
  lasting : ∀ (front : List Deed) (d : Deed) (back : List Deed), calls = front ++ d :: back →
    ∀ p ∈ d.written, (∀ e ∈ back, e.target = d.target → ∀ q ∈ e.written, q.place ≠ p.place) →
    ∃ content, d.after.get? p.place = some (.file content) ∧ u.get? p.place = some (.file content)

theorem Traced.separated {file : EntityFile} {t u : FileTree} {calls : List Deed}
    {result : Except Failure Unit}
    (traced : Traced base settings file (places settings) t calls result u)
    (several : 1 < settings.targets.length)
    (identified : ∀ segment ∈ file.segments, Name.wellFormed segment.toList = true) :
    Separated settings t calls u := by
  have lands : ∀ d ∈ calls, ∀ p ∈ d.written, Lands file.segments p.place d.target := by
    intro d member p written
    obtain ⟨s, wf, same⟩ := traced.made d member
    rw [same] at written
    exact writtenLands several identified (traced.aims.subset (List.mem_map_of_mem member)) wf written
  have apart : ∀ d ∈ calls, ∀ e ∈ calls, d.target ≠ e.target →
      ∀ p ∈ d.written, ∀ q ∈ e.written, p.place ≠ q.place := by
    intro d first e second differ p here q there same
    have other := lands e second q there
    rw [← same] at other
    exact differ (landsApart (lands d first p here) other)
  refine ⟨traced.leads, traced.aims, apart, ?_⟩
  rintro front d back rfl p written alone
  obtain ⟨wrote, later⟩ := traced.leads.after
  obtain ⟨content, found⟩ := wrote.there p written
  have touch := (later.wrote wrote.wellFormed).touch p.place
  refine ⟨content, found, touch.still found fun q member same => ?_⟩
  obtain ⟨e, listed, there⟩ := List.mem_flatMap.mp member
  by_cases own : e.target = d.target
  · exact alone e listed own q there same
  · exact apart e (by simp [listed]) d (by simp) own q there p written same

/- The targets of a run never overwrite each other. Whatever the output directories are and whether they
lie in each other, no file that a call for one target writes is written by a call for another one. A
file that cannot be loaded is not compiled, and one that is compiled without a break is compiled for
every target into every output directory. -/
theorem targetsApart (several : 1 < settings.targets.length) (source : String) (s : Session)
    (wf : s.tree.WellFormed)
    (identified : ∀ name data, ((Document.load source).on s).1 = .ok (name, data) →
      ∀ segment ∈ (EntityFile.ofValue data).segments, Name.wellFormed segment.toList = true) :
    Separated settings s.tree (fileDeeds base settings verbose source s)
        ((processFile base settings verbose source).on s).2.tree ∧
      ((∃ found, ((Document.load source).on s).1 = .ok found) →
        ((processFile base settings verbose source).on s).1 = .ok () →
        (fileDeeds base settings verbose source s).map Deed.aim = places settings) := by
  cases loaded : ((Document.load source).on s).1 with
  | error failure =>
    obtain ⟨result, t, opened, tree, nothing⟩ := openingFailed loaded
    have idle : fileDeeds base settings verbose source s = [] ∧
        ((processFile base settings verbose source).on s).2.tree = s.tree := by
      rw [processOpens, fileDeeds, opened, ← tree]
      cases result with
      | error failure => exact ⟨rfl, rfl⟩
      | ok found =>
        cases found with
        | none => exact ⟨rfl, rfl⟩
        | some file => exact absurd rfl (nothing file)
    rw [idle.1, idle.2]
    exact ⟨⟨.none, List.nil_prefix, nofun, fun front d back same => by simp at same⟩, nofun⟩
  | ok found =>
    obtain ⟨name, data⟩ := found
    obtain ⟨t, opened, tree, _⟩ := openingLoaded loaded
    rw [processOpens, fileDeeds, opened, ← tree]
    dsimp only
    rw [← tree] at wf
    have traced := deedsTraced base settings verbose (.ofValue data) (places settings) wf
      (Prod.eta _).symm
    exact ⟨traced.separated several (identified name data loaded), fun _ => traced.whole⟩

def shopPage : Session :=
  { cwd := ["w"], web := fun _ => .page 200 none
      "\x7b\"namespace\":\"App.Model\",\"entities\":\x7b\"User\":0\x7d\x7d" }

def nestedSettings : Settings :=
  { entityFramework := true, entityFrameworkCore := true, outDirs := ["out", "./out/ef-core/../ef"] }

def segmentsOf : Except Failure (String × Value) → List String
  | .ok (_, data) => (EntityFile.ofValue data).segments
  | .error _ => []

def nestedDeeds : List Deed :=
  fileDeeds (.ofLocation ["w"]) nestedSettings false "http://h/a.json" shopPage

def userFiles (dir : Location) : List Location :=
  ["User.cs", "User.Extensions.cs"].map fun name => dir ++ ["App", "Model", name]

theorem nestedApart : 1 < nestedSettings.targets.length ∧ shopPage.tree.WellFormed ∧
    nestedDeeds.map (fun d => d.written.map Path.place) = [["w", "out", "ef"], ["w", "out", "ef-core"],
      ["w", "out", "ef", "ef"], ["w", "out", "ef", "ef-core"]].map userFiles ∧
    Separated nestedSettings shopPage.tree nestedDeeds
      ((processFile (.ofLocation ["w"]) nestedSettings false "http://h/a.json").on
        shopPage).2.tree := by
  have wf : shopPage.tree.WellFormed := by
    intro l name e found
    simp [shopPage, get?] at found
  have words : (segmentsOf ((Document.load "http://h/a.json").on shopPage).1).all
      (fun segment => Name.wellFormed segment.toList) = true := by decide +kernel
  refine ⟨by decide, wf, by decide +kernel, (targetsApart (by decide) _ _ wf ?_).1⟩
  intro name data loaded segment member
  rw [loaded] at words
  exact List.all_eq_true.mp words segment member

end Separation

end EntityForge
