import EntityForge.Proofs.Markup
import EntityForge.Proofs.Tallies

/-! What a call prints while it runs: for every entity its name, and what became of it when it is done.
A name is printed as markup, so that a call is broken off at the first name that is none; messages are
escaped and can always be printed. -/
namespace EntityForge
open Activity Command
open Terminal (escape Printable)

structure Line where
  markup : String
  ending : String := "\n"

def Line.shown (width : Nat) (line : Line) : String :=
  match Terminal.plain line.markup with
  | .ok text => String.ofList (Text.join ['\n'] (Terminal.wrap width .fold text) ++ line.ending.toList)
  | .error _ => ""

def shownLines (width : Nat) (lines : List Line) : String :=
  (lines.map (Line.shown width)).foldr (· ++ ·) ""

theorem shownAppend (width : Nat) (first more : List Line) :
    shownLines width (first ++ more) = shownLines width first ++ shownLines width more := by
  induction first with
  | nil => exact String.empty_append.symm
  | cons line rest ih =>
    change line.shown width ++ shownLines width (rest ++ more) = _
    rw [ih, ← String.append_assoc]
    rfl

section Tells
variable {α β : Type}

theorem Session.Idle.width {s t : Session} (idle : s.Idle t) : t.width = s.width := by
  obtain ⟨_, _, _, rfl⟩ := idle
  rfl

/- From a session `s` lines are printed and the result is `x`, exactly if a condition holds; without it
the run is broken off by a failure that calls are not to blame for. The session that is left is `t`, but
for the log, the screen and the counts. -/
structure Tells (told : Prop) (s : Session) (lines : List Line) (x : α) (t : Session)
    (ran : Except Failure α × Session) : Prop where
  width : t.width = s.width
  returns : told → ∃ u, ran = (.ok x, u) ∧ t.Idle u ∧ u.screen = s.screen ++ shownLines s.width lines
  breaks : ¬ told → ∃ failure u, ran = (.error failure, u) ∧ isCallFailure failure = false

namespace Tells
variable {told later : Prop} {s t u v : Session} {lines more : List Line} {x : α} {y : β}

theorem silent (width : t.width = s.width) (idle : t.Idle u) (screen : u.screen = s.screen) :
    Tells True s [] x t (.ok x, u) where
  width := width
  returns _ := ⟨u, rfl, idle, by rw [screen]; exact String.append_empty.symm⟩
  breaks never := absurd trivial never

theorem when {ran : Except Failure α × Session} (tells : Tells told s lines x t ran)
    (same : later ↔ told) : Tells later s lines x t ran :=
  ⟨tells.width, fun holds => tells.returns (same.mp holds), fun fails =>
    tells.breaks fun holds => fails (same.mpr holds)⟩

theorem leaving {ran : Except Failure α × Session} (tells : Tells told s lines x t ran)
    (idle : v.Idle t) : Tells told s lines x v ran := by
  refine ⟨idle.width.symm.trans tells.width, fun holds => ?_, tells.breaks⟩
  obtain ⟨u, ran, idle', screen⟩ := tells.returns holds
  exact ⟨u, ran, idle.trans idle', screen⟩

theorem starting {ran : Except Failure α × Session} (tells : Tells told u lines x t ran)
    (width : u.width = s.width) (screen : u.screen = s.screen) : Tells told s lines x t ran := by
  refine ⟨tells.width.trans width, fun holds => ?_, tells.breaks⟩
  obtain ⟨w, ran, idle, shown⟩ := tells.returns holds
  exact ⟨w, ran, idle, by rw [shown, screen, width]⟩

theorem since {ran : Except Failure α × Session} (tells : Tells told u more x v ran)
    (width : u.width = s.width) (screen : u.screen = s.screen ++ shownLines s.width lines) :
    Tells told s (lines ++ more) x v ran := by
  refine ⟨tells.width.trans width, fun holds => ?_, tells.breaks⟩
  obtain ⟨w, ran, idle, screen'⟩ := tells.returns holds
  refine ⟨w, ran, idle, ?_⟩
  rw [screen', screen, width, shownAppend, String.append_assoc]

theorem bind {a : Activity α} {f : α → Activity β} (first : Tells told s lines x t (a.on u))
    (next : ∀ w, t.Idle w → Tells later w more y v ((f x).on w)) :
    Tells (told ∧ later) s (lines ++ more) y v ((a >>= f).on u) := by
  rw [onBind]
  by_cases holds : told
  · obtain ⟨w, ran, idle, screen⟩ := first.returns holds
    rw [ran]
    refine Tells.when ?_ (and_iff_right holds)
    exact (next w idle).since (idle.width.trans first.width) screen
  · obtain ⟨failure, w, ran, other⟩ := first.breaks holds
    rw [ran]
    exact ⟨(next t (.refl t)).width.trans first.width, fun both => absurd both.1 holds,
      fun _ => ⟨failure, w, rfl, other⟩⟩

theorem map {a : Activity α} (tells : Tells told s lines x t (a.on u)) (f : α → β) :
    Tells told s lines (f x) t ((a >>= fun x => pure (f x)).on u) := by
  rw [← List.append_nil lines]
  refine Tells.when (tells.bind fun w idle => ?_) (and_iff_left trivial).symm
  exact .silent idle.width.symm idle rfl

end Tells

theorem printTells (markup ending : String) (s : Session) :
    Tells (Printable markup) s [⟨markup, ending⟩] () s ((print markup ending).on s) := by
  have shown : shownLines s.width [⟨markup, ending⟩] = Line.shown s.width ⟨markup, ending⟩ :=
    String.append_empty
  unfold print
  rw [onBind, onLift]
  cases plain : Terminal.plain markup with
  | error failure =>
    refine ⟨rfl, fun ⟨text, printed⟩ => ?_, fun _ => ⟨failure, s, rfl, ?_⟩⟩
    · rw [plain] at printed
      cases printed
    · rw [markupFails plain]
      rfl
  | ok text =>
    refine ⟨rfl, fun _ => ⟨_, rfl, ⟨_, _, _, rfl⟩, ?_⟩, fun never => absurd ⟨text, plain⟩ never⟩
    rw [shown, Line.shown, plain]

end Tells

section Entities

def nameLine (target name : String) : Line := ⟨s!"  🔧 {target}: '{name}'... ", ""⟩

def outcomeMarkup : Except Failure Generated → String
  | .ok _ => "[green]✓[/green]"
  | .error failure => s!"[red]✗ {escape failure.message}[/red]"

def entityLines (r : GenerationResult) : List Line :=
  [nameLine r.target.displayName r.entity, ⟨outcomeMarkup r.outcome, "\n"⟩]

theorem nameShown (target : Target) (name : String) :
    Terminal.plain (nameLine target.displayName name).markup = (Terminal.plain name).map fun text =>
      ("  🔧 " ++ target.displayName ++ ": '").toList ++ text ++ "'... ".toList := by
  have before : Terminal.FrontKept ("  🔧 " ++ target.displayName ++ ": '").toList := by
    cases target
    · exact Terminal.frontKept "  🔧 Doctrine".toList ' ' ['\''] (by decide)
        (by decide) (by decide) (by decide)
    · exact Terminal.frontKept "  🔧 Entity Framework".toList ' ' ['\'']
        (by decide) (by decide) (by decide) (by decide)
    · exact Terminal.frontKept "  🔧 Entity Framework Core".toList ' ' ['\'']
        (by decide) (by decide) (by decide) (by decide)
  refine Terminal.plainFramed name before ?_ ?_ (by decide)
  · exact Terminal.backKept (by decide) (by decide) (by decide) (by decide)
  · cases target <;> decide

theorem namePrintable (target : Target) (name : String) :
    Printable (nameLine target.displayName name).markup ↔ Printable name := by
  unfold Printable
  rw [nameShown]
  cases Terminal.plain name <;> simp [Except.map]

theorem messagePrintable (front : String) (settled : Terminal.Settled front.toList)
    (opens : (Terminal.marks front.toList).foldlM Terminal.applyTag [] = .ok ["red"]) (s : String) :
    Printable (front ++ escape s ++ "[/red]") :=
  Terminal.printableEscaped front "red".toList settled opens rfl (by decide) rfl s

theorem outcomePrintable (outcome : Except Failure Generated) : Printable (outcomeMarkup outcome) := by
  cases outcome with
  | ok generated =>
    have tags : Terminal.marks "[green]✓[/green]".toList = ["green".toList, "/green".toList] := by decide
    exact Terminal.printableMarks.mpr ⟨[], by rw [outcomeMarkup, tags]; rfl⟩
  | error failure => exact messagePrintable _ (by decide) (by rfl) failure.message

theorem countTells (change : Tally → Tally) (markup : String) (s : Session) :
    Tells (Printable markup) s [⟨markup, "\n"⟩] () s
      ((count change >>= fun _ => print markup).on s) := by
  unfold count
  rw [onBind, onModify]
  exact ((printTells markup "\n" { s with tally := change s.tally }).leaving (v := s)
    ⟨_, _, _, rfl⟩).starting rfl rfl

theorem faultTells {α : Type} {markup : String} (printable : Printable markup) (x : α) (s : Session) :
    Tells True s [⟨markup, "\n"⟩] x s
      ((print markup >>= fun _ => countFault >>= fun _ => pure x : Activity α).on s) := by
  have counted (t : Session) (idle : s.Idle t) :
      Tells True t [] x s ((countFault >>= fun _ => pure x : Activity α).on t) := by
    unfold countFault count
    rw [onBind, onModify]
    exact .silent idle.width.symm (idle.trans ⟨_, _, _, rfl⟩) rfl
  exact ((printTells markup "\n" s).bind counted).when (by simp [printable])

theorem reporterTells (outcome : Except Failure Generated) (name title : String) (target : Target)
    (s : Session) : Tells True s [⟨outcomeMarkup outcome, "\n"⟩] ⟨name, target, outcome⟩ s
      ((reporter.done (failureOf outcome) name title >>= fun _ =>
        pure ⟨name, target, outcome⟩ : Activity GenerationResult).on s) := by
  have told : Tells (Printable (outcomeMarkup outcome)) s [⟨outcomeMarkup outcome, "\n"⟩] () s
      ((reporter.done (failureOf outcome) name title).on s) := by
    cases outcome with
    | ok generated => exact countTells (fun t => { t with generated := t.generated + 1 }) _ s
    | error failure => exact countTells (fun t => { t with failed := t.failed + 1 }) _ s
  exact (told.map fun _ => (⟨name, target, outcome⟩ : GenerationResult)).when
    (iff_of_true trivial (outcomePrintable outcome))

variable (c : Call)

theorem compileEntityTells (seen : List String) (key raw : Value) {s : Session}
    (cwd : s.cwd = c.cwd) {tree : FileTree} {outcome : Except Failure Generated}
    (generated : c.generate s.tree seen key raw = (tree, outcome)) :
    Tells (Printable (Call.nameOf key)) s (entityLines ⟨Call.nameOf key, c.target, outcome⟩)
      ⟨Call.nameOf key, c.target, outcome⟩ { s with tree }
      ((CompileRequest.compileEntity c.target c.options reporter c.segments c.outDir
        seen key raw).on s) := by
  have named := (printTells (nameLine c.target.displayName (Call.nameOf key)).markup "" s).when
    (namePrintable c.target (Call.nameOf key)).symm
  by_cases printable : Printable (Call.nameOf key)
  · obtain ⟨u, before, ⟨_, _, _, rfl⟩, screen⟩ := named.returns printable
    obtain ⟨log, done⟩ := compileEntitySteps c reporter seen key raw before cwd generated
    rw [done]
    have later (log : List Log.Record) (screen : String) (tally : Tally) :=
      (reporterTells outcome (Call.nameOf key) c.target.displayName c.target
        { s with tree, log, screen, tally }).leaving (v := { s with tree }) ⟨_, _, _, rfl⟩
    exact ((later _ _ _).since (s := s) rfl screen).when (iff_of_true printable trivial)
  · obtain ⟨failure, u, before, other⟩ := named.breaks printable
    refine ⟨rfl, fun named => absurd named printable, fun _ => ⟨failure, u, ?_, other⟩⟩
    have before : (reporter.before (Call.nameOf key) c.target.displayName).on s = _ := before
    unfold Call.nameOf at before
    unfold CompileRequest.compileEntity
    dsimp only
    rw [onBind, before]

end Entities

end EntityForge
