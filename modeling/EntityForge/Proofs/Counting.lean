import EntityForge.Command.Run
import EntityForge.Proofs.Printing

/-! What a call counts. Every entity is counted by its outcome when it is done, so a call that returns has
counted its results, and one that fails by itself has not begun to count. Reading files and pages counts
nothing. -/
namespace EntityForge
open Activity Command

instance : Add Tally :=
  ⟨fun a b => ⟨a.generated + b.generated, a.failed + b.failed, a.faults + b.faults⟩⟩

namespace Tally

theorem add (a b : Tally) :
    a + b = ⟨a.generated + b.generated, a.failed + b.failed, a.faults + b.faults⟩ := rfl

theorem addZero (a : Tally) : a + {} = a := rfl

theorem zeroAdd (a : Tally) : {} + a = a := by
  simp only [add, Nat.zero_add]

theorem addAssoc (a b c : Tally) : a + b + c = a + (b + c) := by
  simp only [add, Nat.add_assoc]

def ofResults (results : List GenerationResult) : Tally where
  generated := (results.filter (·.isSuccess)).length
  failed := (results.filter fun r => !r.isSuccess).length

theorem ofResultsCons (r : GenerationResult) (rest : List GenerationResult) :
    ofResults (r :: rest) = ofResults [r] + ofResults rest := by
  cases success : r.isSuccess <;> simp [ofResults, success, add, Nat.add_comm]

def fault : Tally := { faults := 1 }

def ofCall : Except Failure Compilation → Tally
  | .ok c => ofResults c.results
  | .error _ => fault

def ofCalls (calls : List (Except Failure Compilation)) : Tally :=
  calls.foldr (fun call later => ofCall call + later) {}

end Tally

section Counting

/- What an activity of a call does: it gives a result and counts it, or it fails by something that
calls are not to blame for. -/
inductive Counted {α : Type} (count : α → Tally) (s : Session) :
    Except Failure α × Session → Prop where
  | ok {x : α} {t : Session} (cwd : t.cwd = s.cwd) (tally : t.tally = s.tally + count x) :
      Counted count s (.ok x, t)
  | error {failure : Failure} {t : Session} (other : isCallFailure failure = false) :
      Counted count s (.error failure, t)

namespace Counted
variable {α β : Type} {count total : α → Tally} {s t : Session}

theorem since {p : Except Failure α × Session} (later : Counted count t p) (cwd : t.cwd = s.cwd)
    (tally : ∀ x, t.tally + count x = s.tally + total x) : Counted total s p := by
  cases later with
  | ok cwd' tally' => exact .ok (cwd'.trans cwd) (tally'.trans (tally _))
  | error other => exact .error other

theorem bind {total : β → Tally} {a : Activity α} {f : α → Activity β}
    (first : Counted count s (a.on t)) (next : ∀ x u, u.cwd = s.cwd →
      u.tally = s.tally + count x → Counted total s ((f x).on u)) :
    Counted total s ((a >>= f).on t) := by
  rw [onBind]
  generalize a.on t = ran at first
  cases first with
  | ok cwd tally => exact next _ _ cwd tally
  | error other => exact .error other

end Counted

theorem countThenPrint (change : Tally → Tally) (markup : String) (s : Session) :
    (∃ screen, (count change >>= fun _ => print markup).on s =
        (.ok (), { s with screen, tally := change s.tally })) ∨
      ∃ t, (count change >>= fun _ => print markup).on s = (.error Terminal.markupFault, t) := by
  unfold count
  rw [onBind, onModify]
  rcases printOn markup "\n" { s with tally := change s.tally } with ⟨screen, ran⟩ | ran
  · exact .inl ⟨screen, ran⟩
  · exact .inr ⟨_, ran⟩

theorem reporterCounts (outcome : Except Failure Generated) (name title : String) (target : Target)
    (s : Session) : Counted (fun r => Tally.ofResults [r]) s
      ((reporter.done (failureOf outcome) name title >>= fun _ =>
        pure ⟨name, target, outcome⟩ : Activity GenerationResult).on s) := by
  rw [onBind]
  cases outcome with
  | ok generated =>
    rcases countThenPrint (fun t => { t with generated := t.generated + 1 }) "[green]✓[/green]" s
      with ⟨screen, ran⟩ | ⟨t, ran⟩
    · have told : (reporter.done none name title).on s = _ := ran
      rw [failureOf, told]
      exact .ok rfl rfl
    · have told : (reporter.done none name title).on s = _ := ran
      rw [failureOf, told]
      exact .error rfl
  | error failure =>
    rcases countThenPrint (fun t => { t with failed := t.failed + 1 })
        s!"[red]✗ {Terminal.escape failure.message}[/red]" s with ⟨screen, ran⟩ | ⟨t, ran⟩
    · have told : (reporter.done (some failure) name title).on s = _ := ran
      rw [failureOf, told]
      exact .ok rfl rfl
    · have told : (reporter.done (some failure) name title).on s = _ := ran
      rw [failureOf, told]
      exact .error rfl

variable (c : Call)

theorem compileEntityCounts (seen : List String) (key raw : Value) {s : Session}
    (cwd : s.cwd = c.cwd) : Counted (fun r => Tally.ofResults [r]) s
      ((CompileRequest.compileEntity c.target c.options reporter c.segments c.outDir seen
        key raw).on s) := by
  rcases printOn s!"  🔧 {c.target.displayName}: '{Call.nameOf key}'... " "" s with
    ⟨screen, ran⟩ | ran
  · have told : (reporter.before (Call.nameOf key) c.target.displayName).on s =
        (.ok (), { s with screen }) := ran
    cases generated : c.generate s.tree seen key raw with
    | mk tree outcome =>
      obtain ⟨log, done⟩ := compileEntitySteps c reporter seen key raw told cwd generated
      rw [done]
      exact (reporterCounts outcome (Call.nameOf key) c.target.displayName c.target _).since rfl
        fun _ => rfl
  · have before : (reporter.before (Call.nameOf key) c.target.displayName).on s = _ := ran
    unfold Call.nameOf at before
    unfold CompileRequest.compileEntity
    dsimp only
    rw [onBind, before]
    exact .error rfl

theorem compileAllCounts (seen : List String) (entries : Entries) {s : Session}
    (cwd : s.cwd = c.cwd) : Counted Tally.ofResults s
      ((CompileRequest.compileAll c.target c.options reporter c.segments c.outDir seen
        entries).on s) := by
  induction entries generalizing s seen with
  | nil => exact .ok rfl (Tally.addZero _).symm
  | cons entry rest ih =>
    obtain ⟨key, raw⟩ := entry
    unfold CompileRequest.compileAll
    refine (compileEntityCounts c seen key raw cwd).bind fun result t cwd' tally => ?_
    have later := (ih (result.entity :: seen) (cwd'.trans cwd)).since cwd' fun results => by
      rw [tally, Tally.addAssoc, ← Tally.ofResultsCons]
    exact later.bind fun results u cwd tally => .ok cwd tally

theorem callCounts {r : CompileRequest} (reports : r.observer = reporter) {s t : Session}
    {outcome : Except Failure Compilation} (ran : (r.run .standard).on s = (outcome, t)) :
    (∃ done, outcome = .ok done ∧ t.tally = s.tally + .ofResults done.results) ∨
      ∃ failure, outcome = .error failure ∧ (isCallFailure failure = true → t.tally = s.tally) := by
  cases called : r.call .standard s with
  | error failure =>
    obtain ⟨log, refused⟩ := CompileRequest.runRefused called
    cases ran.symm.trans refused
    exact .inr ⟨failure, rfl, fun _ => rfl⟩
  | ok c =>
    cases made : s.tree.ensureDirectory s.cwd c.outDir with
    | mk tree result =>
      cases result with
      | error failure =>
        obtain ⟨log, blocked⟩ := CompileRequest.runBlocked called made
        cases ran.symm.trans blocked
        exact .inr ⟨failure, rfl, fun _ => rfl⟩
      | ok =>
        obtain ⟨_, cwd, _⟩ := CompileRequest.callOk called
        obtain ⟨log, opened⟩ := CompileRequest.runOpens called made
        rw [ran, reports] at opened
        have compiled : Counted (fun done : Compilation => .ofResults done.results)
            { s with tree, log } (outcome, t) := by
          rw [opened]
          refine (compileAllCounts c [] r.source.entityFile.entities
            (s := { s with tree, log }) cwd.symm).bind fun results u cwd tally => ?_
          exact .ok cwd tally
        cases compiled with
        | ok _ tally => exact .inl ⟨_, rfl, tally⟩
        | error other => exact .inr ⟨_, rfl, fun own => by rw [other] at own; cases own⟩

end Counting

section Loading
variable {α β : Type}

def Activity.Uncounted (a : Activity α) : Prop := ∀ s, (a.on s).2.tally = s.tally

theorem logsUncounted {a : Activity α} (logs : a.Logs) : a.Uncounted := by
  intro s
  obtain ⟨log, wrote⟩ := logs s
  rw [wrote]

theorem uncountedBind {a : Activity α} {f : α → Activity β} (first : a.Uncounted)
    (next : ∀ x, (f x).Uncounted) : (a >>= f).Uncounted := by
  intro s
  have tally := first s
  rw [onBind]
  cases ran : a.on s with
  | mk result t =>
    rw [ran] at tally
    cases result with
    | ok x => exact (next x t).trans tally
    | error failure => exact tally

theorem uncountedThrow (failure : Failure) : (throw failure : Activity α).Uncounted := fun _ => rfl

theorem uncountedNote (level : Log.Level) (source message : String) :
    (note level source message).Uncounted := fun _ => rfl

theorem uncountedFail (failure : Failure) (f : α → Activity β) :
    (throw failure >>= f : Activity β).Uncounted := fun _ => rfl

theorem sendUncounted (url : String) (timeout : Int) : (Document.send url timeout).Uncounted :=
  fun _ => rfl

theorem loadUrlUncounted (url : String) (timeout : Int) :
    (Document.loadUrl url timeout).Uncounted := by
  have page (status : Int) (contentType : Option String) (text : String) : (do
      let format ← Document.pageFormat url contentType
      let data ← Document.read format text url
      Document.note .info s!"Loaded entities from {url}"
      return (url, data) : Activity (String × Value)).Uncounted :=
    uncountedBind (logsUncounted (logsLift _)) fun _ =>
      uncountedBind (logsUncounted (logsLift _)) fun _ => uncountedNote _ _ _
  unfold Document.loadUrl
  refine uncountedBind (uncountedNote _ _ _) fun _ => ?_
  refine uncountedBind (logsUncounted (logsLift _)) fun web => ?_
  split
  · exact uncountedBind (uncountedNote _ _ _) fun _ => uncountedFail _ _
  · refine uncountedBind (sendUncounted url timeout) fun answer => ?_
    cases answer with
    | unanswered => exact uncountedThrow _
    | page status contentType text =>
      dsimp only
      split
      · exact uncountedBind (uncountedNote _ _ _) fun _ => uncountedFail _ _
      · exact page status contentType text
    | timeout | connection reason | other reason =>
      exact uncountedBind (uncountedNote _ _ _) fun _ => uncountedThrow _

theorem loadUncounted (source : String) (timeout : Int) :
    (Document.load source timeout).Uncounted := by
  unfold Document.load
  refine uncountedBind (logsUncounted (logsLift _)) fun web => ?_
  split
  · exact loadUrlUncounted source timeout
  · exact uncountedBind (logsUncounted (loadDocumentLogs _)) fun _ => uncountedNote _ _ _

theorem collectUncounted (base : String) (patterns : List Value) (files : List Path)
    (urls : List String) : (InputFiles.collect base files urls patterns).Uncounted := by
  induction patterns generalizing files urls with
  | nil => exact fun _ => rfl
  | cons pattern rest ih =>
    unfold InputFiles.collect
    dsimp only
    split
    · exact ih files urls
    · refine uncountedBind (logsUncounted (logsLift _)) fun web => ?_
      split
      · exact ih files _
      · refine uncountedBind (fun _ => rfl) fun s => ?_
        refine uncountedBind (logsUncounted (logsLift _)) fun places => ?_
        split
        · exact uncountedBind (uncountedNote _ _ _) fun _ => ih _ _
        · exact ih _ _

theorem expandUncounted (patterns : List Value) (base : Path) :
    (InputFiles.expand patterns base).Uncounted :=
  uncountedBind (collectUncounted _ _ _ _) fun _ _ => rfl

end Loading

end EntityForge
