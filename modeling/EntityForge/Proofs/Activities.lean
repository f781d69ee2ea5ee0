import EntityForge.Compilation
import EntityForge.Proofs.Knots

/-! Activities run in a session. Most of them leave files alone: reading a configuration, writing
to the log, telling an observer. -/
namespace EntityForge

namespace Activity

def on {α : Type} (a : Activity α) (s : Session) : Except Failure α × Session :=
  StateT.run (ExceptT.run a) s

variable {α β : Type}

theorem onPure (x : α) (s : Session) : (pure x : Activity α).on s = (.ok x, s) := rfl

theorem onThrow (failure : Failure) (s : Session) :
    (throw failure : Activity α).on s = (.error failure, s) := rfl

theorem onGet (s : Session) : (get : Activity Session).on s = (.ok s, s) := rfl

theorem onSet (s t : Session) : (set t : Activity PUnit).on s = (.ok ⟨⟩, t) := rfl

theorem onModify (f : Session → Session) (s : Session) :
    (modify f : Activity PUnit).on s = (.ok ⟨⟩, f s) := rfl

theorem onLift (x : Except Failure α) (s : Session) :
    (liftM x : Activity α).on s = (x, s) := by cases x <;> rfl

theorem onBind (a : Activity α) (f : α → Activity β) (s : Session) :
    (a >>= f).on s = match a.on s with
      | (.ok x, t) => (f x).on t
      | (.error failure, t) => (.error failure, t) := by
  change ((ExceptT.bind a f).run s) = _
  unfold ExceptT.bind on
  simp only [ExceptT.run, ExceptT.mk, StateT.run, bind, StateT.bind]
  cases a s with
  | mk result t => cases result <;> rfl

theorem onBindReturns {a : Activity α} {f : α → Activity β} {s t : Session} {x : α}
    (ran : a.on s = (.ok x, t)) : (a >>= f).on s = (f x).on t := by
  rw [onBind, ran]

theorem onBindOk {a : Activity α} {f : α → Activity β} {s u : Session} {y : β}
    (ok : (a >>= f).on s = (.ok y, u)) :
    ∃ x t, a.on s = (.ok x, t) ∧ (f x).on t = (.ok y, u) := by
  rw [onBind] at ok
  split at ok
  next x t ran => exact ⟨x, t, ran, ok⟩
  next => cases ok

theorem onTryCatch (a : Activity α) (handle : Failure → Activity α) (s : Session) :
    (tryCatch a handle).on s = match a.on s with
      | (.ok x, t) => (.ok x, t)
      | (.error failure, t) => (handle failure).on t := by
  change ((ExceptT.tryCatch a handle).run s) = _
  unfold ExceptT.tryCatch on
  simp only [ExceptT.run, ExceptT.mk, StateT.run, bind, StateT.bind]
  cases a s with
  | mk result t => cases result <;> rfl

theorem onNote (level : Log.Level) (source message : String) (s : Session) :
    (note level source message).on s = (.ok ⟨⟩, { s with log := s.log ++ [⟨level, source, message⟩] }) :=
  rfl

theorem onTreeRun (operation : FileTree → Location → FileTree × Except Failure α) (s : Session) :
    (onTree operation).on s =
      ((operation s.tree s.cwd).2, { s with tree := (operation s.tree s.cwd).1 }) := by
  unfold onTree
  rw [onBind, onGet]
  dsimp only
  rw [onBind, onSet]
  exact onLift _ _

def shows (a : Activity α) (s : Session) (test : α → Session → Bool) : Bool :=
  match a.on s with
  | (.ok x, t) => test x t
  | _ => false

theorem showsOk {a : Activity α} {s : Session} {test : α → Session → Bool}
    (shown : a.shows s test = true) : ∃ x t, a.on s = (.ok x, t) ∧ test x t = true := by
  unfold shows at shown
  split at shown
  next x t ran => exact ⟨x, t, ran, shown⟩
  next => cases shown

def Logs (a : Activity α) : Prop := ∀ s, ∃ log, (a.on s).2 = { s with log }

theorem logsPure (x : α) : (pure x : Activity α).Logs := fun s => ⟨s.log, rfl⟩

theorem logsThrow (failure : Failure) : (throw failure : Activity α).Logs := fun s => ⟨s.log, rfl⟩

theorem logsGet : (get : Activity Session).Logs := fun s => ⟨s.log, rfl⟩

theorem logsLift (x : Except Failure α) : (liftM x : Activity α).Logs := by
  intro s
  rw [onLift]
  exact ⟨s.log, rfl⟩

theorem logsNote (level : Log.Level) (source message : String) :
    (note level source message).Logs := fun _ => ⟨_, rfl⟩

theorem logsOn {a : Activity α} (logs : a.Logs) (s : Session) :
    ∃ x log, a.on s = (x, { s with log }) := by
  obtain ⟨log, wrote⟩ := logs s
  exact ⟨(a.on s).1, log, Prod.ext rfl wrote⟩

theorem logsBind {a : Activity α} {f : α → Activity β} (first : a.Logs) (next : ∀ x, (f x).Logs) :
    (a >>= f).Logs := by
  intro s
  obtain ⟨x, log, ran⟩ := logsOn first s
  rw [onBind, ran]
  cases x with
  | ok x => exact next x { s with log }
  | error failure => exact ⟨log, rfl⟩

theorem logsTryCatch {a : Activity α} {handle : Failure → Activity α} (first : a.Logs)
    (next : ∀ failure, (handle failure).Logs) : (tryCatch a handle).Logs := by
  intro s
  obtain ⟨x, log, ran⟩ := logsOn first s
  rw [onTryCatch, ran]
  cases x with
  | ok x => exact ⟨log, rfl⟩
  | error failure => exact next failure { s with log }

def Silent (a : Activity Unit) : Prop :=
  ∀ s, ∃ t, a.on s = (.ok (), t) ∧ t.tree = s.tree ∧ t.cwd = s.cwd

theorem notesOn (level : Log.Level) (source : String) (messages : List String) (s : Session) :
    ∃ log, (messages.forM fun message => note level source message).on s =
      (.ok ⟨⟩, { s with log }) := by
  induction messages generalizing s with
  | nil => exact ⟨s.log, rfl⟩
  | cons message rest ih =>
    obtain ⟨log, later⟩ := ih { s with log := s.log ++ [⟨level, source, message⟩] }
    refine ⟨log, ?_⟩
    change ((note level source message >>= fun _ => rest.forM fun message =>
      note level source message) : Activity Unit).on s = _
    rw [onBind, onNote]
    exact later

end Activity

open Activity

/- An observer that neither fails nor touches the files. -/
structure Observer.Quiet (o : Observer) : Prop where
  before : ∀ name target, (o.before name target).Silent
  done : ∀ failure name target, (o.done failure name target).Silent

theorem noObserverQuiet : Observer.Quiet {} :=
  ⟨fun _ _ s => ⟨s, rfl, rfl, rfl⟩, fun _ _ _ s => ⟨s, rfl, rfl, rfl⟩⟩

theorem loadDocumentLogs (p : Path) : (Document.loadFile p).Logs := by
  unfold Document.loadFile
  refine logsBind (logsNote _ _ _) fun _ => logsBind logsGet fun s => ?_
  refine logsBind (logsLift _) fun found => ?_
  cases found with
  | none => exact logsThrow _
  | some content =>
    exact logsBind (logsLift _) fun _ => logsBind (logsLift _) fun _ => logsLift _

theorem isPresentLogs (p : Path) : (Config.isPresent p).Logs := by
  unfold Config.isPresent
  refine logsBind logsGet fun s => ?_
  split
  · exact logsPure _
  · split
    · exact logsPure _
    · exact logsThrow _

theorem readEntriesLogs (p : Path) : (Config.readEntries p).Logs := by
  unfold Config.readEntries
  refine logsBind (logsTryCatch (loadDocumentLogs p) fun failure => ?_) fun data => ?_
  · split <;> exact logsThrow _
  · split
    · exact logsPure _
    · exact logsBind (logsNote _ _ _) fun _ => logsPure _
    · exact logsThrow _

theorem loadFileLogs (p : Path) : (Config.loadFile p).Logs := by
  unfold Config.loadFile
  refine logsBind (isPresentLogs p) fun found => ?_
  split
  · exact logsBind (logsThrow _) fun _ => readEntriesLogs p
  · exact readEntriesLogs p

theorem loadNamedLogs (file : Value) : (Config.loadNamed file).Logs := by
  unfold Config.loadNamed
  split
  · split
    · exact logsPure _
    · exact loadFileLogs _
  · split
    · exact logsThrow _
    · exact logsPure _

theorem optionsLogs (r : CompileRequest) (key : String) : (r.options key).Logs := by
  unfold CompileRequest.options
  split
  · exact logsPure _
  · unfold Config.ofDescription
    split
    · exact logsLift _
    · exact logsLift _
    · unfold Config.load
      exact logsBind (loadNamedLogs _) fun entries => logsBind (logsLift _) fun _ => logsLift _
    · exact logsThrow _

theorem outPathSame (r : CompileRequest) (s : Session) : (r.outPath.on s).2 = s := by
  unfold CompileRequest.outPath
  rw [onBind, onGet]
  dsimp only
  split
  · unfold Activity.resolve
    dsimp only
    split <;> rfl
  · rfl

structure Session.SameAt (p : Path) (s t : Session) : Prop where
  cwd : t.cwd = s.cwd
  stat : t.tree.stat t.cwd p = s.tree.stat s.cwd p

namespace Activity

variable {α β : Type} {p : Path}

def Reads (p : Path) (a : Activity α) : Prop :=
  ∀ s t, Session.SameAt p s t → (a.on t).1 = (a.on s).1

theorem logsSame {a : Activity α} (logs : a.Logs) {s t : Session} (same : Session.SameAt p s t) :
    Session.SameAt p (a.on s).2 (a.on t).2 := by
  obtain ⟨log, wrote⟩ := logs s
  obtain ⟨log', wrote'⟩ := logs t
  rw [wrote, wrote']
  exact ⟨same.cwd, same.stat⟩

theorem readsPure (x : α) : (pure x : Activity α).Reads p := fun _ _ _ => rfl

theorem readsThrow (failure : Failure) : (throw failure : Activity α).Reads p := fun _ _ _ => rfl

theorem readsLift (x : Except Failure α) : (liftM x : Activity α).Reads p := by
  intro s t _
  rw [onLift, onLift]

theorem readsNote (level : Log.Level) (source message : String) :
    (note level source message).Reads p := fun _ _ _ => rfl

theorem readsGet {f : Session → Activity β}
    (each : ∀ s t, Session.SameAt p s t → ((f t).on t).1 = ((f s).on s).1) :
    (get >>= f : Activity β).Reads p := by
  intro s t same
  rw [onBind, onBind, onGet, onGet]
  exact each s t same

theorem readsOn {a : Activity α} (reads : a.Reads p) (logs : a.Logs) {s t : Session}
    (same : Session.SameAt p s t) :
    ∃ x s' t', a.on s = (x, s') ∧ a.on t = (x, t') ∧ Session.SameAt p s' t' :=
  ⟨(a.on s).1, (a.on s).2, (a.on t).2, rfl, Prod.ext (reads s t same) rfl, logsSame logs same⟩

theorem readsBind {a : Activity α} {f : α → Activity β} (first : a.Reads p) (logs : a.Logs)
    (next : ∀ x, (f x).Reads p) : (a >>= f).Reads p := by
  intro s t same
  obtain ⟨x, s', t', before, after, later⟩ := readsOn first logs same
  rw [onBind, onBind, before, after]
  cases x with
  | ok x => exact next x s' t' later
  | error failure => rfl

theorem readsTryCatch {a : Activity α} {handle : Failure → Activity α} (first : a.Reads p)
    (logs : a.Logs) (next : ∀ failure, (handle failure).Reads p) :
    (tryCatch a handle).Reads p := by
  intro s t same
  obtain ⟨x, s', t', before, after, later⟩ := readsOn first logs same
  rw [onTryCatch, onTryCatch, before, after]
  cases x with
  | ok x => rfl
  | error failure => exact next failure s' t' later

end Activity

theorem loadDocumentReads (p : Path) : (Document.loadFile p).Reads p := by
  unfold Document.loadFile
  refine readsBind (readsNote _ _ _) (logsNote _ _ _) fun _ => readsGet fun s t same => ?_
  have found : Document.fileAt? t.tree t.cwd p = Document.fileAt? s.tree s.cwd p := by
    unfold Document.fileAt?
    rw [same.stat]
  rw [found]
  refine readsBind (readsLift _) (logsLift _) (fun content => ?_) s t same
  cases content with
  | none => exact readsThrow _
  | some content =>
    exact readsBind (readsLift _) (logsLift _) fun _ =>
      readsBind (readsLift _) (logsLift _) fun _ => readsLift _

theorem isPresentReads (p : Path) : (Config.isPresent p).Reads p := by
  unfold Config.isPresent
  refine readsGet fun s t same => ?_
  have found : t.tree.exists? t.cwd p = s.tree.exists? s.cwd p := by
    unfold FileTree.exists?
    rw [same.stat]
  rw [found]
  split
  · rfl
  · split <;> rfl

theorem readEntriesReads (p : Path) : (Config.readEntries p).Reads p := by
  unfold Config.readEntries
  refine readsBind (readsTryCatch (loadDocumentReads p) (loadDocumentLogs p) fun failure => ?_)
    (logsTryCatch (loadDocumentLogs p) fun failure => ?_) fun data => ?_
  · split <;> exact readsThrow _
  · split <;> exact logsThrow _
  · split
    · exact readsPure _
    · exact readsBind (readsNote _ _ _) (logsNote _ _ _) fun _ => readsPure _
    · exact readsThrow _

theorem loadFileReads (p : Path) : (Config.loadFile p).Reads p := by
  unfold Config.loadFile
  refine readsBind (isPresentReads p) (isPresentLogs p) fun found => ?_
  split
  · exact readsBind (readsThrow _) (logsThrow _) fun _ => readEntriesReads p
  · exact readEntriesReads p

theorem optionsAgain (r : CompileRequest) (key : String) {s t : Session} (cwd : t.cwd = s.cwd)
    (config : ∀ name, r.configuration = .described (.text name) →
      t.tree.stat t.cwd (.ofText name) = s.tree.stat s.cwd (.ofText name)) :
    ((r.options key).on t).1 = ((r.options key).on s).1 := by
  unfold CompileRequest.options
  cases chosen : r.configuration with
  | options o => rfl
  | described v =>
    unfold Config.ofDescription
    dsimp only
    split
    next => rw [onLift, onLift]
    next => rw [onLift, onLift]
    next name text =>
      unfold Config.load
      refine readsBind ?_ (loadNamedLogs _)
        (fun entries => readsBind (readsLift _) (logsLift _) fun _ => readsLift _) s t
        ⟨cwd, config name (by rw [chosen, Value.openedText text])⟩
      unfold Config.loadNamed
      dsimp only
      split
      · exact readsPure _
      · exact loadFileReads _
    next => rfl

theorem outPathAgain (r : CompileRequest) {s t : Session} (cwd : t.cwd = s.cwd) :
    (r.outPath.on t).1 = (r.outPath.on s).1 := by
  unfold CompileRequest.outPath
  rw [onBind, onBind, onGet, onGet]
  dsimp only
  rw [cwd]
  split
  · unfold Activity.resolve
    dsimp only
    split
    · rfl
    · rw [onBind, onBind, onGet, onGet]
      dsimp only
      rw [onPure, onPure, cwd]
  · rfl

end EntityForge
