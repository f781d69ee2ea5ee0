import EntityForge.Proofs.DiskEffect
import EntityForge.Proofs.Sources

/-! Extension files over time. Calls of any target go into one output directory and others edit the
tree in between. An extension is left alone by all calls but those of Doctrine whose namespace is that
of its entity, continued by `Extensions`. -/
namespace EntityForge
open FileTree

theorem Path.stepsPlain {names : List String} (plain : ∀ name ∈ names, name ≠ "..")
    (l : Location) : names.foldl step l = l ++ names := by
  induction names generalizing l with
  | nil => simp
  | cons name rest ih =>
    obtain ⟨first, others⟩ := List.forall_mem_cons.mp plain
    rw [List.foldl_cons, FileTree.stepName first, ih others, List.append_assoc]
    rfl

theorem Path.stepsMember {names : List String} {l : Location} {part : String}
    (member : part ∈ names.foldl step l) : part ∈ l ∨ (part ∈ names ∧ part ≠ "..") := by
  induction names generalizing l with
  | nil => exact .inl member
  | cons name rest ih =>
    rcases ih member with here | ⟨later, plain⟩
    · unfold step at here
      split at here
      · exact .inl (List.dropLast_subset _ here)
      next plain =>
        rcases List.mem_append.mp here with old | new
        · exact .inl old
        · obtain rfl := List.mem_singleton.mp new
          exact .inr ⟨List.mem_cons_self, plain⟩
    · exact .inr ⟨List.mem_cons_of_mem _ later, plain⟩

theorem FileTree.layThere {t : FileTree} (wf : t.WellFormed) {l : Location} {names : List String}
    (plain : ∀ name ∈ names, name ≠ "..") (fit : ∀ name ∈ names, fits name = true)
    (there : t.get? (l ++ names) = some .directory) : t.lay l names = (t, true) := by
  induction names generalizing l with
  | nil => rfl
  | cons name rest ih =>
    obtain ⟨first, others⟩ := List.forall_mem_cons.mp plain
    obtain ⟨fitFirst, fitRest⟩ := List.forall_mem_cons.mp fit
    have split : l ++ name :: rest = l ++ [name] ++ rest := by simp
    rw [split] at there
    rw [lay, if_neg first, if_pos fitFirst, prefixDirectory wf there]
    exact ih others fitRest there

namespace Call
variable {c : Call}

def Identified (c : Call) : Prop := ∀ segment ∈ c.segments, Name.wellFormed segment.toList = true

theorem homeParts (named : c.Identified) : c.home.parts = c.root.parts ++ c.segments := by
  unfold Identified at named
  unfold home
  generalize c.root = dir
  generalize c.segments = segments at named
  induction segments generalizing dir with
  | nil => simp
  | cons segment rest ih =>
    obtain ⟨first, others⟩ := List.forall_mem_cons.mp named
    have child := Path.childFileName dir (Name.wellFormedFileName first)
    rw [List.foldl_cons, ih _ others, child]
    simp

theorem segmentsPlain (named : c.Identified) : ∀ segment ∈ c.segments, segment ≠ ".." := by
  rintro segment member rfl
  exact absurd (named _ member) (by decide)

theorem homePlace (named : c.Identified) : c.home.place = c.root.place ++ c.segments := by
  rw [Path.place, homeParts named, List.foldl_append]
  exact Path.stepsPlain (segmentsPlain named) _

end Call

section Landing
variable {owner c : Call} {shelf shelf' : Path} {label label' m n : String}

theorem landingCases (first : Name.wellFormed m.toList = true) (second : Name.wellFormed n.toList = true)
    {role : Role} (always : role.always = true)
    (same : (c.site shelf label m role).place = (owner.site shelf' label' n .extension).place) :
    role = .main ∧ m = n ∧ c.target = .doctrine ∧ owner.target = .doctrine ∧
      c.home.place = owner.home.place ++ ["Extensions"] := by
  rw [sitePlace first, sitePlace second] at same
  obtain ⟨dirs, files⟩ := List.append_inj' same rfl
  have files : c.file label m role = owner.file label' n .extension := List.singleton_inj.mp files
  obtain ⟨x, endsX, mappingX⟩ := fileEnds c label m role
  obtain ⟨y, endsY, mappingY⟩ := fileEnds owner label' n .extension
  rw [files, endsY, Option.some.injEq] at endsX
  rw [← endsX, mappingY] at mappingX
  cases role with
  | extension => cases always
  | mapping => simp at mappingX
  | main =>
    have dotted : '.' ∉ m.toList := Name.wordFree first (by decide)
    have files : m ++ c.target.extension = n ++ owner.extensionSuffix := files
    have lasts := congrArg (fun s => s.toList.getLast?) files
    have dirs : c.home.place = owner.annex.place := dirs
    rcases annexCases owner with ⟨doctrine, suffix, deeper⟩ | ⟨sharp, suffix, _⟩
    · rw [suffix, doctrine] at files lasts
      rw [deeper, Path.underPlace _ (by decide)] at dirs
      cases target : c.target with
      | doctrine =>
        rw [target] at files
        exact ⟨rfl, (String.append_left_inj _).mp files, rfl, doctrine, dirs⟩
      | entityFramework => simp [target, Target.extension, List.getLast?_append] at lasts
      | entityFrameworkCore => simp [target, Target.extension, List.getLast?_append] at lasts
    · rw [suffix, sharp] at files lasts
      have sharp : c.target.extension = ".cs" := by
        cases target : c.target with
        | doctrine => simp [target, Target.extension, List.getLast?_append] at lasts
        | entityFramework => rfl
        | entityFrameworkCore => rfl
      rw [sharp, ← String.append_assoc, String.append_left_inj] at files
      exact absurd (by simp [files]) dotted

end Landing

def FirstOf (entries : Entries) (key raw : Value) : Prop :=
  ∃ front back, entries = front ++ (key, raw) :: back ∧
    ∀ entry ∈ front, Call.nameOf entry.1 ≠ Call.nameOf key

namespace Call
variable {c : Call} {t : FileTree} {seen : List String} {entries : Entries} {key raw : Value}

theorem renderedSource {a : Artifact} (member : a ∈ c.rendered seen entries) :
    ∃ key raw e artifacts, FirstOf entries key raw ∧ nameOf key ∉ seen ∧
      c.render key raw = .ok (e, artifacts) ∧ a ∈ artifacts := by
  induction entries generalizing seen with
  | nil => cases member
  | cons entry rest ih =>
    obtain ⟨key, raw⟩ := entry
    rcases List.mem_append.mp member with here | later
    · unfold files at here
      split at here
      next e artifacts accepted =>
        obtain ⟨new, ok⟩ := acceptOk accepted
        exact ⟨key, raw, e, artifacts, ⟨[], rest, rfl, by simp⟩, new, ok, here⟩
      next => cases here
    · obtain ⟨other, raw', e, artifacts, ⟨front, back, split, first⟩, new, ok, inside⟩ := ih later
      obtain ⟨differ, new⟩ := List.ne_and_not_mem_of_not_mem_cons new
      refine ⟨other, raw', e, artifacts, ⟨(key, raw) :: front, back, by rw [split]; rfl, ?_⟩, new,
        ok, inside⟩
      exact List.forall_mem_cons.mpr ⟨differ.symm, first⟩

theorem compileLands (wf : t.WellFormed) {e : Entity} {main : Artifact} {others : List Artifact}
    (ok : c.render key raw = .ok (e, main :: others)) (first : FirstOf entries key raw)
    (new : nameOf key ∉ seen) {old : ByteArray} (there : t.get? main.path.place = some (.file old))
    (lands : ∀ u : FileTree, u.WellFormed → ∀ old, u.get? main.path.place = some (.file old) →
      (u.settle c.cwd main).2 = .written) :
    (c.compile t seen entries).1.get? main.path.place = some (.file main.content.toUTF8) := by
  obtain ⟨shelf, label, absolute, bundled⟩ := c.bundled
  obtain ⟨front, back, rfl, first⟩ := first
  induction front generalizing t seen old with
  | nil =>
    have wf' := (generateGrows wf c seen key raw).1
    have accepted : c.accept seen key raw = .ok (e, main :: others) := (acceptNew new).trans ok
    have change := compileChange wf' c (nameOf key :: seen) back main.path.place
    refine change.still ?_ fun b member _ same => ?_
    · rw [generateSettle wf, accepted]
      have done : t.settle c.cwd main = ((t.settle c.cwd main).1, .written) := by
        rw [← lands t wf old there]
      exact (bundled key raw e _ ok).classStays wf (renderOk ok).2.1 absolute done
    · have here : main ∈ c.files seen key raw := by simp [files, accepted]
      exact filesApart bundled here member same.symm
  | cons entry rest ih =>
    obtain ⟨other, raw'⟩ := entry
    obtain ⟨differ, first⟩ := List.forall_mem_cons.mp first
    obtain ⟨wf', grows⟩ := generateGrows wf c seen other raw'
    obtain ⟨later, there⟩ := grows.2 _ _ there
    refine ih wf' ?_ there first
    simp [new, differ.symm]

theorem rootParts (absolute : c.outDir.anchor ≠ .relative) {part : String} (member : part ∈ c.root.parts) :
    part ∈ c.outDir.parts ∧ part ≠ ".." := by
  unfold root Path.resolve Path.ofLocation Path.locate at member
  split at member
  next relative => exact absurd relative absolute
  · rcases Path.stepsMember member with none | here
    · cases none
    · exact here

theorem homeWhole (absolute : c.outDir.anchor ≠ .relative) (clean : c.outDir.hasNul = false)
    (named : c.Identified) :
    (∀ part ∈ c.home.parts, part ≠ "..") ∧ c.home.hasNul = false := by
  rw [homeParts named]
  constructor
  · intro part member
    rcases List.mem_append.mp member with start | segment
    · exact (rootParts absolute start).2
    · exact segmentsPlain named part segment
  · simp only [Path.hasNul, List.any_eq_false, homeParts named] at clean ⊢
    intro part member
    rcases List.mem_append.mp member with start | segment
    · exact clean part (rootParts absolute start).1
    · simpa using Name.wordFree (named part segment) (c := '\x00') (by decide)

theorem classWritten {shelf : Path} {label name : String} {a : Artifact} (wf : t.WellFormed)
    (filed : Filed c shelf label name .main a) (words : Name.wellFormed name.toList = true)
    (shelfAbsolute : shelf.anchor ≠ .relative) (absolute : c.outDir.anchor ≠ .relative)
    (clean : c.outDir.hasNul = false) (named : c.Identified)
    (fit : ∀ part ∈ a.path.place, fits part = true) {old : ByteArray}
    (there : t.get? a.path.place = some (.file old)) : (t.settle c.cwd a).2 = .written := by
  have plain := filed.plain shelfAbsolute words
  have folder : a.path.parent = c.home := filed.parent
  obtain ⟨noDots, noNul⟩ := homeWhole absolute clean named
  have home : c.home.place = c.home.parts := Path.stepsPlain noDots []
  have place : a.path.place = c.home.parts ++ [a.path.name] := by
    rw [plain.place, folder, home]
  rw [place] at fit
  have walk : t.lay [] a.path.parent.parts = (t, true) := by
    rw [folder]
    refine layThere wf noDots (fun part member => fit part (List.mem_append_left _ member)) ?_
    rw [place] at there
    exact wf _ _ _ there
  have whole : a.path.hasNul = false := by
    rw [filed.path]
    refine Path.underClean noNul ?_
    have name := Name.wordFree words (c := '\x00') (by decide)
    cases target : c.target <;> simp [Call.file, target, Target.extension, name]
  have lastFit := fit a.path.name (by simp)
  rw [settleVerdict c.cwd filed.overwrite, walk]
  simp [verdict, folder, noNul, whole, lastFit, there]

end Call

inductive Step where
  | call (r : CompileRequest)
  | edit (tree : FileTree)

def Step.after (registry : Registry) (s : Session) : Step → Session
  | .call r => ((r.run registry).on s).2
  | .edit tree => { s with tree }

def play (registry : Registry) (s : Session) (steps : List Step) : Session :=
  steps.foldl (Step.after registry) s

def Step.Orderly (registry : Registry) (dir : Location) (s : Session) : Step → Prop
  | .call r => r.observer.Quiet ∧
    ∀ c, r.call registry s = .ok c → c.root.place = dir ∧ c.Identified
  | .edit tree => tree.WellFormed

def Orderly (registry : Registry) (dir : Location) : Session → List Step → Prop
  | _, [] => True
  | s, step :: rest => step.Orderly registry dir s ∧ Orderly registry dir (step.after registry s) rest

structure ExtensionOf (registry : Registry) (s : Session) (r : CompileRequest) (c : Call)
    (name : String) (l : Location) : Prop where
  accepted : r.call registry s = .ok c
  file : ∃ key raw e artifacts a, (key, raw) ∈ r.source.entityFile.entities ∧
    c.render key raw = .ok (e, artifacts) ∧ e.name = name ∧ a ∈ artifacts ∧
    a.overwrite = false ∧ a.path.place = l

/- A Doctrine call that returns has a class with the name of an extension of Doctrine, and its
namespace is the one of the extension's entity, continued by `Extensions`. -/
structure Trespass (registry : Registry) (s : Session) (r : CompileRequest) (owner : Call)
    (name content : String) : Prop where
  returns : ∃ done, ((r.run registry).on s).1 = .ok done
  doctrine : owner.target = .doctrine
  intruder : ∃ c key raw e main others, r.call registry s = .ok c ∧ c.target = .doctrine ∧
    c.segments = owner.segments ++ ["Extensions"] ∧
    FirstOf r.source.entityFile.entities key raw ∧ c.render key raw = .ok (e, main :: others) ∧
    e.name = name ∧ main.content = content

section Histories
variable {registry : Registry} {dir : Location} {s : Session}

theorem runWellFormed {r : CompileRequest} (quiet : r.observer.Quiet) (wf : s.tree.WellFormed) :
    ((r.run registry).on s).2.tree.WellFormed := by
  obtain ⟨result, t, ran, _, course⟩ := r.runCourse registry quiet s
  rw [ran]
  dsimp only
  generalize t.tree = after at course ⊢
  cases course with
  | refused _ => exact wf
  | homeless accepted blocked =>
    exact (ensureKeeps wf (CompileRequest.callOk accepted).1 blocked (rootDirectory s.tree)).1
  | compiled accepted made =>
    have wf' := (ensureKeeps wf (CompileRequest.callOk accepted).1 made (rootDirectory s.tree)).1
    exact (Call.compileGrows wf' _ _ _).1

theorem playOrderly {earlier later : List Step} (wf : s.tree.WellFormed)
    (orderly : Orderly registry dir s (earlier ++ later)) :
    (play registry s earlier).tree.WellFormed ∧
      Orderly registry dir (play registry s earlier) later := by
  induction earlier generalizing s with
  | nil => exact ⟨wf, orderly⟩
  | cons step rest ih =>
    obtain ⟨first, others⟩ := orderly
    refine ih ?_ others
    cases step with
    | call r => exact runWellFormed first.1 wf
    | edit tree => exact first

theorem extensionPlace {r : CompileRequest} {c : Call} {name : String} {l : Location}
    (owned : ExtensionOf registry s r c name l) : Name.wellFormed name.toList = true ∧
      ∃ shelf label, l = (c.site shelf label name .extension).place := by
  obtain ⟨key, raw, e, artifacts, a, _, ok, rfl, member, once, rfl⟩ := owned.file
  obtain ⟨shelf, label, _, bundled⟩ := c.bundled
  obtain ⟨role, filed⟩ := (bundled key raw e artifacts ok).filed a member
  refine ⟨(Call.renderOk ok).2.1, shelf, label, ?_⟩
  have extension : role = .extension := by
    cases role with
    | extension => rfl
    | main => simp [filed.overwrite, Role.always] at once
    | mapping => simp [filed.overwrite, Role.always] at once
  rw [filed.path, extension]

section Owned
variable {s₀ : Session} {r₀ r : CompileRequest} {owner c : Call} {name : String} {l : Location}

theorem landingTrespass (owned : ExtensionOf registry s₀ r₀ owner name l)
    (accepted : r.call registry s = .ok c) (together : c.root.place = owner.root.place)
    (named : c.Identified) (named₀ : owner.Identified)
    (returns : ∃ done, ((r.run registry).on s).1 = .ok done) {a : Artifact}
    (member : a ∈ c.rendered [] r.source.entityFile.entities) (always : a.overwrite = true)
    (here : a.path.place = l) : ∃ content, Trespass registry s r owner name content := by
  obtain ⟨words, shelf', label', place⟩ := extensionPlace owned
  obtain ⟨key, raw, e, artifacts, first, _, ok, member⟩ := Call.renderedSource member
  obtain ⟨shelf, label, _, bundled⟩ := c.bundled
  have bundle := bundled key raw e artifacts ok
  have lands {role : Role} (filed : Filed c shelf label e.name role a) := by
    have same : (c.site shelf label e.name role).place =
        (owner.site shelf' label' name .extension).place := by
      rw [← filed.path, here, place]
    exact landingCases (Call.renderOk ok).2.1 words (filed.overwrite.symm.trans always) same
  cases bundle with
  | @mk main extension rest main' second others _ =>
    rcases List.mem_cons.mp member with rfl | member
    · obtain ⟨_, same, target, doctrine, homes⟩ := lands main'
      rw [Call.homePlace named, Call.homePlace named₀, together, List.append_assoc] at homes
      exact ⟨a.content, returns, doctrine, c, key, raw, e, a, extension :: rest, accepted, target,
        List.append_cancel_left homes, first, ok, same, rfl⟩
    · rcases List.mem_cons.mp member with rfl | member
      · cases (lands second).1
      · cases (lands (others a member)).1

theorem trespassPlace (owned : ExtensionOf registry s₀ r₀ owner name l)
    (together : c.root.place = owner.root.place) (named : c.Identified) (named₀ : owner.Identified)
    (doctrine : owner.target = .doctrine) (target : c.target = .doctrine)
    (segments : c.segments = owner.segments ++ ["Extensions"]) (shelf : Path) (label : String) :
    (c.site shelf label name .main).place = l := by
  obtain ⟨words, shelf', label', rfl⟩ := extensionPlace owned
  rcases annexCases owner with ⟨_, suffix, deeper⟩ | ⟨sharp, _, _⟩
  · rw [sitePlace words, sitePlace words]
    simp only [Call.folder, Call.file, suffix, doctrine, target, deeper]
    rw [Path.underPlace _ (by decide), Call.homePlace named, Call.homePlace named₀, together, segments]
    simp only [List.append_assoc]
  · rw [doctrine] at sharp
    exact absurd sharp (by decide)

theorem untouched (owned : ExtensionOf registry s₀ r₀ owner name l) (quiet : r.observer.Quiet)
    (wf : s.tree.WellFormed) (named₀ : owner.Identified)
    (alike : ∀ c, r.call registry s = .ok c → c.root.place = owner.root.place ∧ c.Identified)
    {bytes : ByteArray} (there : s.tree.get? l = some (.file bytes))
    (none : ¬ ∃ content, Trespass registry s r owner name content) :
    ((r.run registry).on s).2.tree.get? l = some (.file bytes) := by
  obtain ⟨result, t, ran, _, course⟩ := r.runCourse registry quiet s
  have result' : ((r.run registry).on s).1 = result := by rw [ran]
  rw [ran]
  dsimp only
  generalize t.tree = after at course ⊢
  cases course with
  | refused _ => exact there
  | homeless accepted blocked =>
    exact (ensureKeeps wf (CompileRequest.callOk accepted).1 blocked there).2
  | compiled accepted made =>
    obtain ⟨wf', there⟩ := ensureKeeps wf (CompileRequest.callOk accepted).1 made there
    obtain ⟨together, named⟩ := alike _ accepted
    refine (Call.compileChange wf' _ _ _ l).still there fun a member always here => none ?_
    exact landingTrespass owned accepted together named named₀ ⟨_, result'⟩ member always here

theorem overwritten (owned : ExtensionOf registry s₀ r₀ owner name l) (quiet : r.observer.Quiet)
    (wf : s.tree.WellFormed) (named₀ : owner.Identified)
    (alike : ∀ c, r.call registry s = .ok c → c.root.place = owner.root.place ∧ c.Identified)
    {bytes : ByteArray} (there : s.tree.get? l = some (.file bytes)) {content : String}
    (trespass : Trespass registry s r owner name content) (fit : ∀ part ∈ l, fits part = true) :
    ((r.run registry).on s).2.tree.get? l = some (.file content.toUTF8) := by
  obtain ⟨c', key, raw, e, main, others, accepted', target, segments, first, ok, rfl, rfl⟩ :=
    trespass.intruder
  obtain ⟨done, returns⟩ := trespass.returns
  obtain ⟨result, t, ran, _, course⟩ := r.runCourse registry quiet s
  rw [ran] at returns ⊢
  dsimp only at returns ⊢
  generalize t.tree = after at course ⊢
  cases course with
  | refused _ => cases returns
  | homeless _ _ => cases returns
  | @compiled c tree accepted made =>
    obtain rfl : c = c' := Except.ok.inj (accepted.symm.trans accepted')
    obtain ⟨absolute, cwd, _⟩ := CompileRequest.callOk accepted
    obtain ⟨wf', there⟩ := ensureKeeps wf absolute made there
    obtain ⟨_, clean⟩ := ensuredLay wf absolute made
    obtain ⟨together, named⟩ := alike _ accepted
    obtain ⟨shelf, label, shelfAbsolute, bundled⟩ := c.bundled
    have words := (Call.renderOk ok).2.1
    have bundle := bundled key raw e _ ok
    cases bundle with
    | mk filed _ _ _ =>
      have place : main.path.place = l := by
        rw [filed.path]
        exact trespassPlace owned together named named₀ trespass.doctrine target segments shelf label
      rw [← place] at there fit ⊢
      exact Call.compileLands wf' ok first (by simp) there fun u wf'' old there =>
        Call.classWritten wf'' filed words shelfAbsolute absolute clean named fit there

end Owned

/- In a history of calls into one directory, a call overwrites the bytes at the place of an extension
only if it trespasses on it, and then with its class. -/
theorem extensionHistory {history : List Step} (wf : s.tree.WellFormed)
    (orderly : Orderly registry dir s history) {before₀ after₀ before after : List Step}
    {r₀ r : CompileRequest} (origin : history = before₀ ++ .call r₀ :: after₀)
    (turn : history = before ++ .call r :: after) {owner : Call} {name : String} {l : Location}
    (owned : ExtensionOf registry (play registry s before₀) r₀ owner name l) {bytes : ByteArray}
    (there : (play registry s before).tree.get? l = some (.file bytes)) :
    ((¬ ∃ content, Trespass registry (play registry s before) r owner name content) →
      (play registry s (before ++ [.call r])).tree.get? l = some (.file bytes)) ∧
    ∀ content, Trespass registry (play registry s before) r owner name content →
      (∀ part ∈ l, fits part = true) →
        (play registry s (before ++ [.call r])).tree.get? l = some (.file content.toUTF8) := by
  have last : play registry s (before ++ [.call r]) = ((r.run registry).on (play registry s before)).2 := by
    simp [play, Step.after]
  obtain ⟨_, owning, _⟩ := playOrderly wf (origin ▸ orderly)
  obtain ⟨wf', calling, _⟩ := playOrderly wf (turn ▸ orderly)
  obtain ⟨place₀, named₀⟩ := owning.2 _ owned.accepted
  have alike (c : Call) (accepted : r.call registry (play registry s before) = .ok c) :
      c.root.place = owner.root.place ∧ c.Identified := by
    obtain ⟨place, named⟩ := calling.2 c accepted
    exact ⟨place.trans place₀.symm, named⟩
  rw [last]
  refine ⟨fun none => untouched owned calling.1 wf' named₀ alike there none, ?_⟩
  intro content trespass fit
  exact overwritten owned calling.1 wf' named₀ alike there trespass fit

end Histories

instance (c : Call) : Decidable c.Identified :=
  inferInstanceAs (Decidable (∀ segment ∈ c.segments, Name.wellFormed segment.toList = true))

theorem orderlyCall (r : CompileRequest) (quiet : r.observer.Quiet) (s : Session) (dir : Location)
    (accepted : r.accepts s (fun c => decide (c.root.place = dir ∧ c.Identified)) = true) :
    (Step.call r).Orderly .standard dir s := by
  obtain ⟨c, call, fine⟩ := CompileRequest.acceptsOk r s _ accepted
  refine ⟨quiet, fun c' call' => ?_⟩
  rw [call] at call'
  cases call'
  exact of_decide_eq_true fine

def doctrineRequest (segments : List String) : CompileRequest :=
  { target := .text "doctrine", source := .file ⟨segments, [(.text "User", .null)]⟩, outDir := some "out" }

def userExtension : Location := ["out", "App", "Extensions", "User.php"]

def generated : Session := play .standard emptySession [.call (doctrineRequest ["App"])]

def customTree : FileTree := generated.tree.put userExtension (.file "custom".toUTF8)

def customHistory : List Step :=
  [.call (doctrineRequest ["App"]), .edit customTree, .call (doctrineRequest ["App", "Extensions"])]

def customized : Session := { generated with tree := customTree }

def hasUser (segments : List String) (l : Location) (c : Call) : Bool :=
  match c.options.lineEnding, c.render (.text "User") .null with
  | .text ending, .ok (e, _ :: extension :: _) =>
    decide (c.target = .doctrine ∧ c.segments = segments ∧ ending = "\n" ∧ e.name = "User" ∧
      extension.overwrite = false ∧ extension.path.place = l)
  | _, _ => false

theorem hasUserOk {segments : List String} {l : Location} {c : Call}
    (has : hasUser segments l c = true) : c.target = .doctrine ∧ c.segments = segments ∧
      c.options.lineEnding = .text "\n" ∧ ∃ e main extension rest,
        c.render (.text "User") .null = .ok (e, main :: extension :: rest) ∧ e.name = "User" ∧
          extension.overwrite = false ∧ extension.path.place = l := by
  unfold hasUser at has
  split at has
  next ending e main extension rest given ok =>
    obtain ⟨target, segments, rfl, name, once, place⟩ := of_decide_eq_true has
    exact ⟨target, segments, given, e, main, extension, rest, ok, name, once, place⟩
  next => cases has

theorem appOwned : ∃ c, c.target = .doctrine ∧ c.segments = ["App"] ∧
    ExtensionOf .standard emptySession (doctrineRequest ["App"]) c "User" userExtension := by
  obtain ⟨c, accepted, has⟩ := CompileRequest.acceptsOk (doctrineRequest ["App"]) emptySession
    (hasUser ["App"] userExtension) (by decide +kernel)
  obtain ⟨target, segments, _, e, main, extension, rest, ok, name, once, place⟩ := hasUserOk has
  exact ⟨c, target, segments, accepted, _, _, e, _, extension, List.mem_singleton_self _, ok, name,
    List.mem_cons_of_mem _ List.mem_cons_self, once, place⟩

theorem customThere : customized.tree.get? userExtension = some (.file "custom".toUTF8) :=
  (putGet _ userExtension _ _ (by decide)).trans (if_pos rfl)

theorem customOrderly : Orderly .standard ["out"] emptySession customHistory := by
  have ⟨made, solid⟩ : generated.tree.get? ["out", "App", "Extensions"] = some .directory ∧
      generated.tree.get? userExtension ≠ some .directory := by decide +kernel
  have wf : generated.tree.WellFormed := runWellFormed noObserverQuiet emptyWellFormed
  refine ⟨orderlyCall _ noObserverQuiet _ _ (by decide +kernel), ?_,
    orderlyCall _ noObserverQuiet customized _ (by decide +kernel), trivial⟩
  exact putWellFormed wf made fun directory => absurd directory solid

theorem customLost : (play .standard emptySession customHistory).tree.get? userExtension ≠
    some (.file "custom".toUTF8) := by
  obtain ⟨owner, doctrine, segments₀, owned⟩ := appOwned
  obtain ⟨c, accepted, has⟩ := CompileRequest.acceptsOk (doctrineRequest ["App", "Extensions"])
    customized (hasUser ["App", "Extensions"] ["out", "App", "Extensions", "Extensions", "User.php"])
    (by decide +kernel)
  obtain ⟨target, segments, ending, e, main, extension, rest, ok, name, _, _⟩ := hasUserOk has
  obtain ⟨done, t, ran, _⟩ := CompileRequest.showsOk (doctrineRequest ["App", "Extensions"])
    customized (fun _ _ => true) (by decide +kernel)
  have trespass : Trespass .standard customized (doctrineRequest ["App", "Extensions"]) owner "User"
      main.content := by
    refine ⟨⟨done, congrArg Prod.fst ran⟩, doctrine, c, _, _, e, main, _, accepted, target, ?_, ⟨[], [], rfl, by simp⟩, ok, name, rfl⟩
    rw [segments, segments₀]
    rfl
  obtain ⟨first, edited, last, _⟩ := customOrderly
  have wf : customized.tree.WellFormed := edited
  obtain ⟨place₀, named₀⟩ := first.2 _ owned.accepted
  have alike (c : Call)
      (call : (doctrineRequest ["App", "Extensions"]).call .standard customized = .ok c) :
      c.root.place = owner.root.place ∧ c.Identified := by
    obtain ⟨place, named⟩ := last.2 c call
    exact ⟨place.trans place₀.symm, named⟩
  have now := overwritten owned noObserverQuiet wf named₀ alike customThere trespass
    (by decide)
  intro stays
  obtain ⟨_, front, shape⟩ := doctrineClassText target ok ending
  have same : some (Entry.file main.content.toUTF8) = some (.file "custom".toUTF8) :=
    now.symm.trans stays
  have same : main.content = "custom" := by simpa [String.toByteArray_inj] using same
  rw [same] at shape
  have lasts := congrArg List.getLast? shape
  simp at lasts

theorem customExtensionLost : Orderly .standard ["out"] emptySession customHistory ∧
    (∃ c, ExtensionOf .standard emptySession (doctrineRequest ["App"]) c "User" userExtension) ∧
    (play .standard emptySession (customHistory.take 2)).tree.get? userExtension =
      some (.file "custom".toUTF8) ∧
    (play .standard emptySession customHistory).tree.get? userExtension ≠
      some (.file "custom".toUTF8) := by
  obtain ⟨c, _, _, owned⟩ := appOwned
  exact ⟨customOrderly, ⟨c, owned⟩, customThere, customLost⟩

theorem customExtensionHistory : ∃ owner,
    emptySession.tree.WellFormed ∧ Orderly .standard ["out"] emptySession customHistory ∧
    ExtensionOf .standard emptySession (doctrineRequest ["App"]) owner "User" userExtension ∧
    customized.tree.get? userExtension = some (.file "custom".toUTF8) ∧
    ((¬ ∃ content, Trespass .standard customized (doctrineRequest ["App", "Extensions"]) owner "User"
        content) →
      (play .standard emptySession customHistory).tree.get? userExtension =
        some (.file "custom".toUTF8)) ∧
    ∀ content, Trespass .standard customized (doctrineRequest ["App", "Extensions"]) owner "User"
        content →
      (∀ part ∈ userExtension, fits part = true) →
        (play .standard emptySession customHistory).tree.get? userExtension =
          some (.file content.toUTF8) := by
  obtain ⟨owner, _, _, owned⟩ := appOwned
  have origin : customHistory = [] ++ .call (doctrineRequest ["App"]) :: customHistory.drop 1 := rfl
  have turn : customHistory = customHistory.take 2 ++
      .call (doctrineRequest ["App", "Extensions"]) :: [] := rfl
  exact ⟨owner, emptyWellFormed, customOrderly, owned, customThere,
    extensionHistory emptyWellFormed customOrderly origin turn owned customThere⟩

end EntityForge
