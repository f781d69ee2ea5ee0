import EntityForge.Proofs.Activities
import EntityForge.Proofs.Names
import Mathlib.Data.List.Forall2

/-! A compile call as a function on file trees. Once target, options and output directory are
settled, what happens to the files and which results come out depends on the tree and the entities
alone; logging and observing have no part in it. -/
namespace EntityForge
open Activity

def EntitySource.entityFile : EntitySource → EntityFile
  | .file f => f
  | .data v => .ofValue v

structure Call where
  target : Target
  options : Options
  segments : List String
  outDir : Path
  cwd : Location

namespace Call

def nameOf (key : Value) : String := Text.trim key.display

def render (c : Call) (key raw : Value) : Except Failure (Entity × List Artifact) := do
  let e ← Entity.normalize c.cwd key (.ofValue raw) c.segments c.outDir
  let artifacts ← c.target.emit e c.options
  return (e, artifacts)

def accept (c : Call) (seen : List String) (key raw : Value) :
    Except Failure (Entity × List Artifact) :=
  if seen.contains (nameOf key) then .error (.duplicateEntity (nameOf key)) else c.render key raw

def outcome (c : Call) (e : Entity) (output : Output) : Except Failure Generated :=
  match output.failure with
  | some failure => .error failure
  | none => .ok ⟨output.written, output.skipped, c.target.warnings e, e.columns.length, e.segments⟩

def generate (c : Call) (t : FileTree) (seen : List String) (key raw : Value) :
    FileTree × Except Failure Generated :=
  match c.accept seen key raw with
  | .error failure => (t, .error failure)
  | .ok (e, artifacts) =>
    ((t.writeArtifacts c.cwd artifacts).tree, c.outcome e (t.writeArtifacts c.cwd artifacts))

def compile (c : Call) (t : FileTree) (seen : List String) :
    Entries → FileTree × List GenerationResult
  | [] => (t, [])
  | (key, raw) :: rest =>
    let now := c.generate t seen key raw
    let later := c.compile now.1 (nameOf key :: seen) rest
    (later.1, ⟨nameOf key, c.target, now.2⟩ :: later.2)

end Call

theorem exceptBindOk {ε α β : Type} {x : Except ε α} {f : α → Except ε β} {y : β}
    (ok : (x >>= f) = .ok y) : ∃ a, x = .ok a ∧ f a = .ok y := by
  cases x with
  | error failure => cases ok
  | ok a => exact ⟨a, rfl, ok⟩

theorem mapMEach {ε α β : Type} {f : α → Except ε β} {xs : List α} {ys : List β}
    (ok : xs.mapM f = .ok ys) : List.Forall₂ (fun x y => x ∈ xs ∧ f x = .ok y) xs ys := by
  induction xs generalizing ys with
  | nil =>
    cases ok
    exact .nil
  | cons x rest ih =>
    rw [List.mapM_cons] at ok
    obtain ⟨y, here, ok⟩ := exceptBindOk ok
    obtain ⟨others, there, ok⟩ := exceptBindOk ok
    cases ok
    exact .cons ⟨List.mem_cons_self, here⟩
      ((ih there).imp fun _ _ later => ⟨List.mem_cons_of_mem _ later.1, later.2⟩)

theorem exceptBindError {α β : Type} {x : Except Failure α} {f : α → Except Failure β}
    {failure : Failure} (failed : (x >>= f) = .error failure) :
    x = .error failure ∨ ∃ a, x = .ok a ∧ f a = .error failure := by
  cases x with
  | error other =>
    cases failed
    exact .inl rfl
  | ok a => exact .inr ⟨a, rfl, failed⟩

def failureOf : Except Failure Generated → Option Failure
  | .ok _ => none
  | .error failure => some failure

theorem targetGenerateOn (c : Call) (e : Entity) (s : Session) (cwd : s.cwd = c.cwd) :
    ∃ log, (c.target.generate c.options e).on s = match c.target.emit e c.options with
      | .error failure => (.error failure, { s with log })
      | .ok artifacts => (c.outcome e (s.tree.writeArtifacts c.cwd artifacts),
          { s with tree := (s.tree.writeArtifacts c.cwd artifacts).tree, log }) := by
  unfold Target.generate
  obtain ⟨log, noted⟩ := notesOn .warning Target.logSource (c.target.warnings e) s
  dsimp only
  rw [onBind, noted]
  dsimp only
  rw [onBind, onLift]
  cases c.target.emit e c.options with
  | error failure => exact ⟨log, rfl⟩
  | ok artifacts =>
    dsimp only
    rw [onBind, onGet]
    dsimp only
    rw [onBind, onSet, cwd]
    dsimp only [Call.outcome]
    cases (s.tree.writeArtifacts c.cwd artifacts).failure with
    | some failure => exact ⟨_, rfl⟩
    | none => exact ⟨_, rfl⟩

theorem generateNewOn (c : Call) (seen : List String) (key raw : Value) (s : Session)
    (cwd : s.cwd = c.cwd) :
    ∃ log, (CompileRequest.generateNew c.target c.options c.segments c.outDir seen
        (Call.nameOf key) key raw).on s = ((c.generate s.tree seen key raw).2,
          { s with tree := (c.generate s.tree seen key raw).1, log }) := by
  unfold CompileRequest.generateNew Call.generate Call.accept
  by_cases old : seen.contains (Call.nameOf key) = true
  · rw [if_pos old, if_pos old, onBind, onThrow]
    exact ⟨s.log, rfl⟩
  · have normal : Entity.normalize s.cwd key (.ofValue raw) c.segments c.outDir =
        Entity.normalize c.cwd key (.ofValue raw) c.segments c.outDir := by rw [cwd]
    rw [if_neg old, if_neg old, onBind, onGet]
    dsimp only
    rw [onBind, onLift, normal]
    unfold Call.render
    cases Entity.normalize c.cwd key (.ofValue raw) c.segments c.outDir with
    | error failure => exact ⟨s.log, rfl⟩
    | ok e =>
      obtain ⟨log, ran⟩ := targetGenerateOn c e s cwd
      dsimp only
      rw [onBind, ran]
      simp only [bind, Except.bind]
      cases c.target.emit e c.options with
      | error failure => exact ⟨log, rfl⟩
      | ok artifacts =>
        simp only [pure, Except.pure]
        cases c.outcome e (s.tree.writeArtifacts c.cwd artifacts) with
        | error failure => exact ⟨log, rfl⟩
        | ok generated => exact ⟨_, rfl⟩

theorem compileEntitySteps (c : Call) (observer : Observer) (seen : List String) (key raw : Value)
    {s told : Session}
    (before : (observer.before (Call.nameOf key) c.target.displayName).on s = (.ok (), told))
    (cwd : told.cwd = c.cwd) {outcome : Except Failure Generated} {tree : FileTree}
    (generated : c.generate told.tree seen key raw = (tree, outcome)) :
    ∃ log, (CompileRequest.compileEntity c.target c.options observer c.segments c.outDir seen
        key raw).on s =
      ((observer.done (failureOf outcome) (Call.nameOf key) c.target.displayName) >>= fun _ =>
        pure ⟨Call.nameOf key, c.target, outcome⟩ : Activity GenerationResult).on
          { told with tree, log } := by
  obtain ⟨log, ran⟩ := generateNewOn c seen key raw told cwd
  rw [generated] at ran
  unfold CompileRequest.compileEntity
  unfold Call.nameOf at before ran ⊢
  dsimp only
  rw [onBind, before]
  dsimp only
  rw [onBind, onTryCatch, onBind, ran]
  cases outcome with
  | ok generated => exact ⟨log, rfl⟩
  | error failure =>
    dsimp only
    unfold CompileRequest.note
    rw [onBind, onNote]
    exact ⟨_, rfl⟩

theorem compileEntityOn (c : Call) {observer : Observer} (quiet : observer.Quiet)
    (seen : List String) (key raw : Value) (s : Session) (cwd : s.cwd = c.cwd) :
    ∃ t, (CompileRequest.compileEntity c.target c.options observer c.segments c.outDir seen
        key raw).on s =
        (.ok ⟨Call.nameOf key, c.target, (c.generate s.tree seen key raw).2⟩, t) ∧
      t.cwd = c.cwd ∧ t.tree = (c.generate s.tree seen key raw).1 := by
  obtain ⟨told, before, tree, dir⟩ := quiet.before (Call.nameOf key) c.target.displayName s
  obtain ⟨log, ran⟩ := compileEntitySteps c observer seen key raw before (dir.trans cwd)
    (Prod.eta _).symm
  rw [tree] at ran
  obtain ⟨u, after, tree', dir'⟩ := quiet.done (failureOf (c.generate s.tree seen key raw).2)
    (Call.nameOf key) c.target.displayName
    { told with tree := (c.generate s.tree seen key raw).1, log }
  rw [ran, onBind, after]
  exact ⟨u, rfl, dir'.trans (dir.trans cwd), tree'⟩

theorem compileAllOn (c : Call) {observer : Observer} (quiet : observer.Quiet)
    (seen : List String) (entries : Entries) (s : Session) (cwd : s.cwd = c.cwd) :
    ∃ t, (CompileRequest.compileAll c.target c.options observer c.segments c.outDir seen
        entries).on s = (.ok (c.compile s.tree seen entries).2, t) ∧
      t.cwd = c.cwd ∧ t.tree = (c.compile s.tree seen entries).1 := by
  induction entries generalizing s seen with
  | nil => exact ⟨s, rfl, cwd, rfl⟩
  | cons entry rest ih =>
    obtain ⟨key, raw⟩ := entry
    obtain ⟨t, ran, dir, tree⟩ := compileEntityOn c quiet seen key raw s cwd
    obtain ⟨u, later, dir', tree'⟩ := ih (Call.nameOf key :: seen) t dir
    rw [tree] at later tree'
    refine ⟨u, ?_, dir', tree'⟩
    unfold CompileRequest.compileAll
    rw [onBind, ran]
    dsimp only
    rw [onBind, later]
    rfl

theorem readSourceOn (source : EntitySource) (s : Session) :
    ∃ log, source.read.on s = (.ok source.entityFile, { s with log }) := by
  cases source with
  | file f => exact ⟨s.log, rfl⟩
  | data v =>
    unfold EntitySource.read EntityFile.read
    dsimp only
    split
    · rw [onBind]
      exact ⟨_, rfl⟩
    · exact ⟨s.log, rfl⟩

namespace CompileRequest

def call (r : CompileRequest) (registry : Registry) (s : Session) : Except Failure Call := do
  let outDir ← (r.outPath.on s).1
  let key ← registry.resolve r.target
  let target ← registry.target r.target
  let options ← ((r.options key).on s).1
  return ⟨target, options, r.source.entityFile.segments, outDir, s.cwd⟩

theorem outPathAbsolute {r : CompileRequest} {s : Session} {dir : Path}
    (ok : (r.outPath.on s).1 = .ok dir) : dir.anchor ≠ .relative := by
  have base : (r.base s.cwd).anchor ≠ .relative := by
    unfold CompileRequest.base
    split
    · exact Path.childAbsolute (by simp [Path.ofLocation]) _
    · simp [Path.ofLocation]
  unfold outPath at ok
  rw [onBind, onGet] at ok
  dsimp only at ok
  split at ok
  · unfold Activity.resolve at ok
    split at ok
    · cases ok
    · cases ok
      simp [Path.resolve, Path.ofLocation]
  · cases ok
    exact base

theorem callOk {r : CompileRequest} {registry : Registry} {s : Session} {c : Call}
    (accepted : r.call registry s = .ok c) :
    c.outDir.anchor ≠ .relative ∧ c.cwd = s.cwd ∧ c.segments = r.source.entityFile.segments := by
  obtain ⟨dir, out, accepted⟩ := exceptBindOk accepted
  obtain ⟨key, _, accepted⟩ := exceptBindOk accepted
  obtain ⟨target, _, accepted⟩ := exceptBindOk accepted
  obtain ⟨options, _, accepted⟩ := exceptBindOk accepted
  cases accepted
  exact ⟨outPathAbsolute out, rfl, rfl⟩

/- The three ways a call goes: it is refused before any file is touched, its output directory cannot
be made, or all its entities are compiled. -/
inductive Course (r : CompileRequest) (registry : Registry) (s : Session) :
    Except Failure Compilation → FileTree → Prop where
  | refused {failure : Failure} (not : r.call registry s = .error failure) :
      Course r registry s (.error failure) s.tree
  | homeless {c : Call} {failure : Failure} {tree : FileTree} (accepted : r.call registry s = .ok c)
      (blocked : s.tree.ensureDirectory s.cwd c.outDir = (tree, .error failure)) :
      Course r registry s (.error failure) tree
  | compiled {c : Call} {tree : FileTree} (accepted : r.call registry s = .ok c)
      (made : s.tree.ensureDirectory s.cwd c.outDir = (tree, .ok ())) :
      Course r registry s
        (.ok ⟨c.target, c.outDir, (c.compile tree [] r.source.entityFile.entities).2⟩)
        (c.compile tree [] r.source.entityFile.entities).1

theorem Course.returned {r : CompileRequest} {registry : Registry} {s : Session} {done : Compilation}
    {after : FileTree} (course : Course r registry s (.ok done) after) :
    ∃ c tree, r.call registry s = .ok c ∧ s.tree.ensureDirectory s.cwd c.outDir = (tree, .ok ()) ∧
      done = ⟨c.target, c.outDir, (c.compile tree [] r.source.entityFile.entities).2⟩ ∧
      after = (c.compile tree [] r.source.entityFile.entities).1 := by
  cases course with
  | compiled accepted made => exact ⟨_, _, accepted, made, rfl, rfl⟩

theorem Course.compiles {r : CompileRequest} {registry : Registry} {s : Session}
    {result : Except Failure Compilation} {after tree : FileTree} {c : Call}
    (course : Course r registry s result after) (accepted : r.call registry s = .ok c)
    (made : s.tree.ensureDirectory s.cwd c.outDir = (tree, .ok ())) :
    result = .ok ⟨c.target, c.outDir, (c.compile tree [] r.source.entityFile.entities).2⟩ ∧
      after = (c.compile tree [] r.source.entityFile.entities).1 := by
  cases course with
  | refused not =>
    rw [accepted] at not
    cases not
  | homeless accepted' blocked =>
    obtain rfl := Except.ok.inj (accepted.symm.trans accepted')
    rw [made] at blocked
    cases blocked
  | compiled accepted' made' =>
    obtain rfl := Except.ok.inj (accepted.symm.trans accepted')
    rw [made] at made'
    cases made'
    exact ⟨rfl, rfl⟩

theorem runRefused {r : CompileRequest} {registry : Registry} {s : Session} {failure : Failure}
    (not : r.call registry s = .error failure) :
    ∃ log, (r.run registry).on s = (.error failure, { s with log }) := by
  have same := outPathSame r s
  unfold run
  rcases exceptBindError not with out | ⟨dir, out, not⟩
  · have ran : r.outPath.on s = (.error failure, s) := Prod.ext out same
    rw [onBind, ran]
    exact ⟨s.log, rfl⟩
  have ran : r.outPath.on s = (.ok dir, s) := Prod.ext out same
  rw [onBind, ran]
  dsimp only
  rw [onBind, onLift]
  rcases exceptBindError not with key | ⟨name, key, not⟩
  · rw [key]
    exact ⟨s.log, rfl⟩
  rw [key]
  dsimp only
  rw [onBind, onLift]
  rcases exceptBindError not with target | ⟨goal, target, not⟩
  · rw [target]
    exact ⟨s.log, rfl⟩
  rw [target]
  dsimp only
  obtain ⟨log, wrote⟩ := optionsLogs r name s
  rcases exceptBindError not with options | ⟨settings, _, not⟩
  · have ran : (r.options name).on s = (.error failure, { s with log }) := Prod.ext options wrote
    rw [onBind, ran]
    exact ⟨log, rfl⟩
  · cases not

theorem runStarts {r : CompileRequest} {registry : Registry} {s : Session} {c : Call}
    (accepted : r.call registry s = .ok c) :
    ∃ log, (r.run registry).on s = (do
      Activity.ensureDirectory c.outDir
      let file ← r.source.read
      note .debug
        s!"Compiling {file.entities.length} entities for {c.target.displayName} into {c.outDir.text}"
      return ⟨c.target, c.outDir, ← compileAll c.target c.options r.observer file.segments c.outDir []
        file.entities⟩ : Activity Compilation).on { s with log } := by
  obtain ⟨outDir, out, rest⟩ := exceptBindOk accepted
  obtain ⟨name, key, rest⟩ := exceptBindOk rest
  obtain ⟨goal, target, rest⟩ := exceptBindOk rest
  obtain ⟨settings, options, rest⟩ := exceptBindOk rest
  obtain rfl := Except.ok.inj rest
  have outRan : r.outPath.on s = (.ok outDir, s) := Prod.ext out (outPathSame r s)
  obtain ⟨log, wrote⟩ := optionsLogs r name s
  have optionsRan : (r.options name).on s = (.ok settings, { s with log }) := Prod.ext options wrote
  refine ⟨log, ?_⟩
  unfold run
  rw [onBind, outRan]
  dsimp only
  rw [onBind, onLift, key]
  dsimp only
  rw [onBind, onLift, target]
  dsimp only
  rw [onBind, optionsRan]

theorem runBlocked {r : CompileRequest} {registry : Registry} {s : Session} {c : Call}
    (accepted : r.call registry s = .ok c) {failure : Failure} {tree : FileTree}
    (blocked : s.tree.ensureDirectory s.cwd c.outDir = (tree, .error failure)) :
    ∃ log, (r.run registry).on s = (.error failure, { s with tree, log }) := by
  obtain ⟨log, ran⟩ := runStarts accepted
  refine ⟨log, ?_⟩
  unfold Activity.ensureDirectory at ran
  rw [ran, onBind, onTreeRun]
  dsimp only
  rw [blocked]

theorem runOpens {r : CompileRequest} {registry : Registry} {s : Session} {c : Call}
    (accepted : r.call registry s = .ok c) {tree : FileTree}
    (made : s.tree.ensureDirectory s.cwd c.outDir = (tree, .ok ())) :
    ∃ log, (r.run registry).on s = (do
      return ⟨c.target, c.outDir, ← compileAll c.target c.options r.observer c.segments c.outDir []
        r.source.entityFile.entities⟩ : Activity Compilation).on { s with tree, log } := by
  obtain ⟨log, ran⟩ := runStarts accepted
  obtain ⟨log', read⟩ := readSourceOn r.source { s with tree, log }
  obtain ⟨_, _, segments⟩ := callOk accepted
  unfold Activity.ensureDirectory note at ran
  rw [ran, onBind, onTreeRun]
  dsimp only
  rw [made]
  dsimp only
  rw [onBind, read]
  dsimp only
  rw [onBind, onNote, segments]
  exact ⟨_, rfl⟩

theorem runAccepted {r : CompileRequest} {registry : Registry} (quiet : r.observer.Quiet)
    {s : Session} {c : Call} (accepted : r.call registry s = .ok c) :
    ∃ result t, (r.run registry).on s = (result, t) ∧ t.cwd = s.cwd ∧
      Course r registry s result t.tree := by
  cases made : s.tree.ensureDirectory s.cwd c.outDir with
  | mk tree result =>
    cases result with
    | error failure =>
      obtain ⟨log, ran⟩ := runBlocked accepted made
      exact ⟨_, _, ran, rfl, .homeless accepted made⟩
    | ok done =>
      obtain ⟨_, cwd, _⟩ := callOk accepted
      obtain ⟨log, ran⟩ := runOpens accepted made
      obtain ⟨t, compiled, cwd', tree'⟩ := compileAllOn c quiet [] r.source.entityFile.entities
        { s with tree, log } cwd.symm
      rw [onBind, compiled] at ran
      refine ⟨_, t, ran, cwd'.trans cwd, ?_⟩
      rw [tree']
      exact .compiled accepted made

theorem runCourse (r : CompileRequest) (registry : Registry) (quiet : r.observer.Quiet)
    (s : Session) : ∃ result t, (r.run registry).on s = (result, t) ∧ t.cwd = s.cwd ∧
      Course r registry s result t.tree := by
  cases called : r.call registry s with
  | ok c => exact runAccepted quiet called
  | error failure =>
    obtain ⟨log, ran⟩ := runRefused called
    exact ⟨_, _, ran, rfl, .refused called⟩

def shows (r : CompileRequest) (s : Session) (test : Compilation → Session → Bool) : Bool :=
  (r.run .standard).shows s test

theorem showsOk (r : CompileRequest) (s : Session) (test : Compilation → Session → Bool)
    (shown : r.shows s test = true) :
    ∃ done t, (r.run .standard).on s = (.ok done, t) ∧ test done t = true :=
  Activity.showsOk shown

def accepts (r : CompileRequest) (s : Session) (test : Call → Bool) : Bool :=
  match r.call .standard s with
  | .ok c => test c
  | .error _ => false

theorem acceptsOk (r : CompileRequest) (s : Session) (test : Call → Bool)
    (accepted : r.accepts s test = true) : ∃ c, r.call .standard s = .ok c ∧ test c = true := by
  unfold accepts at accepted
  split at accepted
  next c call => exact ⟨c, call, accepted⟩
  next => cases accepted

end CompileRequest

end EntityForge
