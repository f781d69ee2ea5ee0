import EntityForge.Proofs.Sequences
import Mathlib.Data.List.Nodup

/-! The effect of one call on the file tree, location by location. When no file operation fails, the
tree after the call follows from the tree before it and from the files of the generated entities. -/
namespace EntityForge
open FileTree

/- What a call leaves behind. The ways are all that it needs as directories, the files are those of
the entities it generated. A file that is written once may find a directory in its place, made for a
file before it. -/
structure DiskEffect (before after : FileTree) (ways : List Location) (files : List Artifact) :
    Prop where
  apart : files.Pairwise fun a b => a.path.place ≠ b.path.place
  always : ∀ a ∈ files, a.overwrite = true →
    after.get? a.path.place = some (.file a.content.toUTF8)
  kept : ∀ a ∈ files, a.overwrite = false → ∀ e, before.get? a.path.place = some e →
    after.get? a.path.place = some e
  created : ∀ a ∈ files, a.overwrite = false → before.get? a.path.place = none →
    after.get? a.path.place =
      if a.path.place ∈ ways then some .directory else some (.file a.content.toUTF8)
  others : ∀ l, (∀ a ∈ files, a.path.place ≠ l) → after.get? l =
    match before.get? l with
    | some e => some e
    | none => if l ∈ ways then some .directory else none

def Clear (results : List GenerationResult) : Prop :=
  ∀ result ∈ results, ∀ failure, result.outcome = .error failure → ¬ failure.OfWriting

namespace Call

variable {c : Call} {t u : FileTree} {seen : List String} {key raw : Value} {entries : Entries}

def emittedOne (c : Call) (key raw : Value) (outcome : Except Failure Generated) : List Artifact :=
  match outcome, c.render key raw with
  | .ok _, .ok (_, artifacts) => artifacts
  | _, _ => []

def emitted (c : Call) : Entries → List GenerationResult → List Artifact
  | (key, raw) :: rest, result :: results =>
    c.emittedOne key raw result.outcome ++ c.emitted rest results
  | _, _ => []

def ways (c : Call) (files : List Artifact) : List Location :=
  c.outDir.way ++ files.flatMap fun a => a.path.parent.way

structure InPlace (u : FileTree) (a : Artifact) : Prop where
  present : ∃ e, u.get? a.path.place = some e
  way : ∀ l ∈ a.path.parent.way, u.get? l = some .directory
  holds : a.overwrite = true → u.get? a.path.place = some (.file a.content.toUTF8)

theorem generateClear (wf : t.WellFormed)
    (clear : ∀ failure, (c.generate t seen key raw).2 = .error failure → ¬ failure.OfWriting) :
    c.emittedOne key raw (c.generate t seen key raw).2 = c.files seen key raw ∧
      ∀ a ∈ c.files seen key raw, InPlace (c.generate t seen key raw).1 a := by
  rw [generateSettle wf] at clear ⊢
  unfold files emittedOne
  cases accepted : c.accept seen key raw with
  | error failure => simp
  | ok rendered =>
    obtain ⟨e, artifacts⟩ := rendered
    rw [accepted] at clear
    obtain ⟨_, ok⟩ := acceptOk accepted
    have plain := renderPlain ok
    obtain ⟨shelf, label, absolute, bundled⟩ := c.bundled
    unfold report at clear ⊢
    dsimp only at clear ⊢
    cases fine : (t.settleAll c.cwd artifacts).2.findSome? Fate.failure? with
    | some failure =>
      rw [fine] at clear
      exact absurd (settleAllFault fine) (clear failure rfl)
    | none =>
      have holds := (bundled key raw e artifacts ok).holds wf (renderOk ok).2.1 absolute fine
      have present := settleAllPresent wf plain fine
      refine ⟨by simp [ok], fun a member => ?_⟩
      exact ⟨(present a member).1, (present a member).2, holds a member⟩

theorem compileClear (wf : t.WellFormed) (clear : Clear (c.compile t seen entries).2) :
    c.emitted entries (c.compile t seen entries).2 = c.rendered seen entries ∧
      ∀ a ∈ c.rendered seen entries, InPlace (c.compile t seen entries).1 a := by
  obtain ⟨shelf, label, _, bundled⟩ := c.bundled
  induction entries generalizing t seen with
  | nil => simp [emitted, rendered, compile]
  | cons entry rest ih =>
    obtain ⟨key, raw⟩ := entry
    obtain ⟨first, others⟩ := List.forall_mem_cons.mp clear
    have wf' := (generateGrows wf c seen key raw).1
    obtain ⟨same, here⟩ := generateClear wf first
    obtain ⟨later, there⟩ := ih wf' others
    refine ⟨by rw [compile, emitted, rendered, same, later], fun a member => ?_⟩
    rcases List.mem_append.mp member with first | second
    · have grows := (compileGrows wf' c (nameOf key :: seen) rest).2
      have change := compileChange wf' c (nameOf key :: seen) rest a.path.place
      obtain ⟨⟨e, found⟩, way, holds⟩ := here a first
      refine ⟨grows.present found, fun l onWay => grows.1 l (way l onWay), fun always => ?_⟩
      exact change.still (holds always) fun b member _ same =>
        filesApart bundled first member same.symm
    · exact there a second

end Call

structure Carried (before made after : FileTree) (dir : Path) (files : List Artifact) : Prop where
  wellFormed : before.WellFormed
  walk : before.lay [] dir.parts = (made, true)
  grows : made.Grows after
  change : ∀ l, Change made after files l
  apart : files.Pairwise fun a b => a.path.place ≠ b.path.place
  inPlace : ∀ a ∈ files, Call.InPlace after a

namespace Carried
variable {before made after : FileTree} {dir : Path} {files : List Artifact} {l : Location}

def needed (dir : Path) (files : List Artifact) : List Location :=
  dir.way ++ files.flatMap fun a => a.path.parent.way

theorem laid (carried : Carried before made after dir files) : Laid before made [] dir.parts := by
  have laid := layLaid carried.wellFormed (rootDirectory before) dir.parts
  rwa [carried.walk] at laid

theorem directory (carried : Carried before made after dir files) (onWay : l ∈ needed dir files) :
    after.get? l = some .directory := by
  rcases List.mem_append.mp onWay with start | below
  · have there := layReaches carried.wellFormed (rootDirectory before) (by rw [carried.walk]) start
    rw [carried.walk] at there
    exact carried.grows.1 l there
  · obtain ⟨a, member, onWay⟩ := List.mem_flatMap.mp below
    exact (carried.inPlace a member).way l onWay

theorem absent (carried : Carried before made after dir files) (gone : before.get? l = none)
    (off : l ∉ needed dir files) : made.get? l = none := by
  rcases carried.laid.news l with same | ⟨_, _, onWay⟩
  · exact same.trans gone
  · exact absurd (List.mem_append_left _ onWay) off

theorem old (carried : Carried before made after dir files) {e : Entry}
    (found : before.get? l = some e) : made.get? l = some e := by
  rcases carried.laid.news l with same | ⟨absent, _, _⟩
  · exact same.trans found
  · simp [absent] at found

theorem alone (carried : Carried before made after dir files) {a b : Artifact} (here : a ∈ files)
    (there : b ∈ files) (same : a.path.place = b.path.place) : a = b :=
  List.inj_on_of_nodup_map (List.pairwise_map.mpr carried.apart) here there same

theorem news (carried : Carried before made after dir files) (off : l ∉ needed dir files) :
    after.get? l = made.get? l ∨ ∃ a ∈ files, a.path.place = l ∧
      after.get? l = some (.file a.content.toUTF8) := by
  cases carried.change l with
  | same kept => exact .inl kept
  | made _ _ onWay =>
    obtain ⟨a, member, onWay⟩ := onWay
    exact absurd (List.mem_append_right _ (List.mem_flatMap.mpr ⟨a, member, onWay⟩)) off
  | landed file =>
    obtain ⟨a, member, here, file, _⟩ := file
    exact .inr ⟨a, member, here, file⟩

theorem diskEffect (carried : Carried before made after dir files) :
    DiskEffect before after (needed dir files) files := by
  refine ⟨carried.apart, fun a member => (carried.inPlace a member).holds, ?_, ?_, ?_⟩
  · intro a member once e found
    refine (carried.change a.path.place).still (carried.old found) fun b other always same => ?_
    rw [carried.alone other member same, once] at always
    cases always
  · intro a member once gone
    split
    next onWay => exact carried.directory onWay
    next off =>
      rcases carried.news off with same | ⟨b, other, here, file⟩
      · obtain ⟨e, found⟩ := (carried.inPlace a member).present
        simp [same, carried.absent gone off] at found
      · rw [carried.alone other member here] at file
        exact file
  · intro l elsewhere
    cases found : before.get? l with
    | some e => exact (carried.change l).still (carried.old found) fun a member _ => elsewhere a member
    | none =>
      dsimp only
      split
      next onWay => exact carried.directory onWay
      next off =>
        rcases carried.news off with same | ⟨a, member, here, _⟩
        · exact same.trans (carried.absent found off)
        · exact absurd here (elsewhere a member)

end Carried

/- A call changes the tree exactly by the files of the entities it generated and by the directories
they need. A call that fails otherwise than by a file operation changes nothing. -/
theorem runDiskEffect (r : CompileRequest) (registry : Registry) (quiet : r.observer.Quiet)
    {s t : Session} (wf : s.tree.WellFormed) {result : Except Failure Compilation}
    (ran : (r.run registry).on s = (result, t)) :
    (∀ failure, result = .error failure → ¬ failure.OfWriting → t.tree = s.tree) ∧
    (∀ done, result = .ok done → Clear done.results → ∃ c, r.call registry s = .ok c ∧
      DiskEffect s.tree t.tree (c.ways (c.emitted r.source.entityFile.entities done.results))
        (c.emitted r.source.entityFile.entities done.results)) := by
  obtain ⟨result', t', ran', _, course⟩ := r.runCourse registry quiet s
  rw [ran] at ran'
  obtain ⟨rfl, rfl⟩ := Prod.mk.inj ran'
  generalize t.tree = after at course ⊢
  -- the three ways a call goes; only the last one writes files
  cases course with
  | refused _ => exact ⟨fun _ _ _ => rfl, fun done same => by cases same⟩
  | homeless _ blocked =>
    refine ⟨fun failure same clean => ?_, fun done same => by cases same⟩
    cases same
    exact absurd (ensureFault blocked) clean
  | @compiled c made accepted ensured =>
    refine ⟨fun _ same => (by cases same), fun done same clear => ⟨c, accepted, ?_⟩⟩
    cases same
    obtain ⟨absolute, cwd, _⟩ := CompileRequest.callOk accepted
    obtain ⟨walk, _⟩ := ensuredLay wf absolute ensured
    have wf' := (layLaid wf (rootDirectory s.tree) c.outDir.parts).wellFormed
    rw [walk] at wf'
    obtain ⟨emitted, inPlace⟩ := Call.compileClear wf' clear
    dsimp only
    rw [emitted]
    have carried : Carried s.tree made (c.compile made [] r.source.entityFile.entities).1 c.outDir
        (c.rendered [] r.source.entityFile.entities) :=
      ⟨wf, walk, (Call.compileGrows wf' c _ _).2, Call.compileChange wf' c _ _,
        Call.renderedApart c _ _, inPlace⟩
    exact carried.diskEffect

def undisturbed (results : List GenerationResult) : Bool :=
  results.all fun result => match result.outcome with
    | .error (.files _) => false
    | .error (.foreign _) => false
    | _ => true

theorem clearOfUndisturbed {results : List GenerationResult} (fine : undisturbed results = true) :
    Clear results := by
  intro result member failure failed writing
  have fine := List.all_eq_true.mp fine result member
  rcases writing with ⟨fault, rfl⟩ | rfl <;>
  · rw [failed] at fine
    cases fine

def emptySession : Session := { cwd := [] }

theorem emptyWellFormed : emptySession.tree.WellFormed := by
  intro l name e found
  simp [emptySession, get?] at found

def userRequest : CompileRequest :=
  { target := .text "ef"
    source := .file ⟨["App"], [(.text "User", .null),
      (.text "Price", .map [(.text "columns", .map [(.text "amount", .text "money")])]),
      (.text "Order", .null)]⟩ }

def userSession : Session :=
  { cwd := []
    tree := ((emptySession.tree.put ["App"] .directory).put ["App", "User.Extensions.cs"]
      (.file "// mine".toUTF8)).put ["notes.txt"] (.file "foreign".toUTF8) }

theorem userWellFormed : userSession.tree.WellFormed := by
  have one := @putWellFormed emptySession.tree emptyWellFormed [] "App" .directory rfl fun _ => rfl
  have two := @putWellFormed _ one ["App"] "User.Extensions.cs" (.file "// mine".toUTF8) rfl nofun
  exact @putWellFormed _ two [] "notes.txt" (.file "foreign".toUTF8) rfl nofun

def userFates (done : Compilation) : Bool :=
  decide (done.results.map (·.isSuccess) = [true, false, true]) && undisturbed done.results

theorem userDiskEffect : ∃ done t c, (userRequest.run .standard).on userSession = (.ok done, t) ∧
    userSession.tree.WellFormed ∧ done.results.map (·.isSuccess) = [true, false, true] ∧
    Clear done.results ∧ userRequest.call .standard userSession = .ok c ∧
    DiskEffect userSession.tree t.tree
      (c.ways (c.emitted userRequest.source.entityFile.entities done.results))
      (c.emitted userRequest.source.entityFile.entities done.results) := by
  obtain ⟨done, t, ran, shown⟩ := CompileRequest.showsOk userRequest userSession
    (fun done _ => userFates done) (by decide +kernel)
  obtain ⟨fates, fine⟩ := Bool.and_eq_true_iff.mp shown
  have clear := clearOfUndisturbed fine
  obtain ⟨c, accepted, effect⟩ := (runDiskEffect userRequest .standard noObserverQuiet
    userWellFormed ran).2 done rfl clear
  exact ⟨done, t, c, ran, userWellFormed, of_decide_eq_true fates, clear, accepted, effect⟩

def shadowRequest : CompileRequest :=
  { target := .text "doctrine"
    source := .file ⟨[], [(.text "B", .null), (.text "A", .null)]⟩
    configuration := .options { xmlOutDir := .text "Extensions/A.php" } }

def givesWay (done : Compilation) (t : Session) : Bool :=
  undisturbed done.results &&
    match shadowRequest.call .standard emptySession with
    | .ok c => (c.emitted shadowRequest.source.entityFile.entities done.results).any fun a =>
        !a.overwrite && (emptySession.tree.get? a.path.place).isNone &&
          decide (t.tree.get? a.path.place = some .directory)
    | .error _ => false

/- An extension need not be created where nothing was: its place may become a directory. -/
theorem extensionGivesWay : ∃ done t c, (shadowRequest.run .standard).on emptySession = (.ok done, t) ∧
    Clear done.results ∧ shadowRequest.call .standard emptySession = .ok c ∧
    ∃ a ∈ c.emitted shadowRequest.source.entityFile.entities done.results, a.overwrite = false ∧
      emptySession.tree.get? a.path.place = none ∧
      t.tree.get? a.path.place ≠ some (.file a.content.toUTF8) := by
  obtain ⟨done, t, ran, shown⟩ := CompileRequest.showsOk shadowRequest emptySession givesWay
    (by decide +kernel)
  obtain ⟨fine, shown⟩ := Bool.and_eq_true_iff.mp shown
  refine ⟨done, t, ?_⟩
  split at shown
  next c accepted =>
    obtain ⟨a, member, shown⟩ := List.any_eq_true.mp shown
    simp only [Bool.and_eq_true, Bool.not_eq_true', Option.isNone_iff_eq_none, decide_eq_true_eq]
      at shown
    obtain ⟨⟨once, absent⟩, directory⟩ := shown
    exact ⟨c, ran, clearOfUndisturbed fine, accepted, a, member, once, absent, by simp [directory]⟩
  next => cases shown

end EntityForge
