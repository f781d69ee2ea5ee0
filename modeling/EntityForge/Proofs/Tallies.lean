import EntityForge.Proofs.Counting

/-! What a run of the command line counts. Input files that are not loaded and calls that fail as a whole
are counted as faults, and the run goes on. At the end its counts are those of what its calls returned,
and its status follows from them. -/
namespace EntityForge
open Activity Command

def Session.Idle (s t : Session) : Prop :=
  ∃ log screen tally, t = { s with log, screen, tally }

namespace Session.Idle
variable {s t u : Session}

theorem refl (s : Session) : s.Idle s := ⟨s.log, s.screen, s.tally, rfl⟩

theorem trans (first : s.Idle t) (next : t.Idle u) : s.Idle u := by
  obtain ⟨_, _, _, rfl⟩ := first
  obtain ⟨_, _, _, rfl⟩ := next
  exact ⟨_, _, _, rfl⟩

end Session.Idle

inductive FileReport where
  | unloadable (fault : DocumentFault)
  | compiled (calls : List (Except Failure Compilation))

namespace FileReport

def isLoaded : FileReport → Bool
  | .unloadable _ => false
  | .compiled _ => true

def calls : FileReport → List (Except Failure Compilation)
  | .unloadable _ => []
  | .compiled calls => calls

end FileReport

section Relations
variable (base : Path) (settings : Settings)

inductive Compiles (file : EntityFile) :
    List (Target × Path) → Session → List (Except Failure Compilation) → Session → Prop where
  | done {s t : Session} (idle : s.Idle t) : Compiles file [] s [] t
  | call {s s' t u : Session} {target : Target} {dir : Path} {options : Options}
      {outcome : Except Failure Compilation} {places : List (Target × Path)}
      {outcomes : List (Except Failure Compilation)} (idle : s.Idle s')
      (chosen : settings.options target = .ok options)
      (ran : ((request base file options target dir).run .standard).on s' = (outcome, t))
      (later : Compiles file places t outcomes u) :
      Compiles file ((target, dir) :: places) s (outcome :: outcomes) u

inductive Processes : List String → Session → List FileReport → Session → Prop where
  | done {s t : Session} (idle : s.Idle t) : Processes [] s [] t
  | unloadable {s s' t u : Session} {source : String} {fault : DocumentFault}
      {sources : List String} {reports : List FileReport} (idle : s.Idle s')
      (load : (Document.load source).on s' = (.error (.document fault), t))
      (later : Processes sources t reports u) :
      Processes (source :: sources) s (.unloadable fault :: reports) u
  | compiled {s s' t u v : Session} {source name : String} {data : Value}
      {calls : List (Except Failure Compilation)} {sources : List String}
      {reports : List FileReport} (idle : s.Idle s')
      (load : (Document.load source).on s' = (.ok (name, data), t))
      (compiles : Compiles base settings (.ofValue data) (places settings) t calls u)
      (later : Processes sources u reports v) :
      Processes (source :: sources) s (.compiled calls :: reports) v

end Relations

section Loops
variable {base : Path} {settings : Settings} {verbose : Bool}

theorem compilationPrints (c : Compilation) : (printCompilation verbose c).Prints := by
  unfold printCompilation
  refine printsBind (printsPrint _ _) ?_
  split
  · refine printsForM (fun result => ?_) _
    split
    · have paths {α : Type} (line : α → String) (items : List α) :
          (items.forM fun item => print (line item)).Prints :=
        printsForM (fun _ => printsPrint _ _) items
      exact printsBind (paths _ _) (printsBind (paths _ _) (paths _ _))
    · exact printsReturn
  · exact printsReturn

theorem faultCounted {α : Type} {markup : String} {x y : α} {s t : Session}
    (ran : (print markup >>= fun _ => countFault >>= fun _ => pure x : Activity α).on s =
      (.ok y, t)) : y = x ∧ s.Idle t ∧ t.tally = s.tally + .fault := by
  obtain ⟨_, u, printed, ran⟩ := onBindOk ran
  obtain ⟨screen, rfl⟩ := printOk printed
  cases ran
  exact ⟨rfl, ⟨_, _, _, rfl⟩, rfl⟩

theorem compileIntoCounts {file : EntityFile} {target : Target} {dir : Path} {s u : Session}
    (ran : (compileInto base settings verbose file target dir).on s = (.ok (), u)) :
    ∃ options outcome t, settings.options target = .ok options ∧
      ((request base file options target dir).run .standard).on s = (outcome, t) ∧ t.Idle u ∧
      u.tally = s.tally + .ofCall outcome := by
  unfold compileInto at ran
  obtain ⟨options, _, selected, ran⟩ := onBindOk ran
  rw [onLift] at selected
  obtain ⟨chosen, rfl⟩ := Prod.mk.inj selected
  obtain ⟨result, v, caught, ran⟩ := onBindOk ran
  rw [onTryCatch, onBind] at caught
  cases called : ((request base file options target dir).run .standard).on s with
  | mk outcome t =>
    refine ⟨options, outcome, t, chosen, called, ?_⟩
    rw [called] at caught
    rcases callCounts rfl called with ⟨done, rfl, tally⟩ | ⟨failure, rfl, tally⟩
    · cases caught
      obtain ⟨screen, rfl⟩ := compilationPrints done _ u ran
      exact ⟨⟨_, _, _, rfl⟩, tally⟩
    · dsimp only at caught
      split at caught
      next own =>
        obtain ⟨rfl, idle, counted⟩ := faultCounted caught
        cases ran
        exact ⟨idle, by rw [counted, tally own]; rfl⟩
      next => cases caught

theorem Compiles.after {file : EntityFile} {places : List (Target × Path)} {s t u : Session}
    {outcomes : List (Except Failure Compilation)} (idle : s.Idle t)
    (later : Compiles base settings file places t outcomes u) :
    Compiles base settings file places s outcomes u := by
  cases later with
  | done idle' => exact .done (idle.trans idle')
  | call idle' chosen ran rest => exact .call (idle.trans idle') chosen ran rest

theorem compilesCounts {file : EntityFile} {places : List (Target × Path)} {s u : Session}
    (ran : (places.forM fun (target, dir) =>
      compileInto base settings verbose file target dir).on s = (.ok (), u)) :
    ∃ outcomes, Compiles base settings file places s outcomes u ∧
      u.tally = s.tally + .ofCalls outcomes := by
  induction places generalizing s with
  | nil =>
    cases ran
    exact ⟨[], .done (.refl _), (Tally.addZero _).symm⟩
  | cons place rest ih =>
    obtain ⟨_, t, first, ran⟩ := onBindOk ran
    obtain ⟨options, outcome, v, chosen, called, idle, tally⟩ := compileIntoCounts first
    obtain ⟨outcomes, later, tally'⟩ := ih ran
    refine ⟨outcome :: outcomes, .call (.refl s) chosen called (later.after idle), ?_⟩
    rw [tally', tally, Tally.addAssoc]
    rfl

theorem loadInputCounts {source : String} {result : Option Value} {s t : Session}
    (ran : (loadInput source).on s = (.ok result, t)) :
    (∃ name data, result = some data ∧ (Document.load source).on s = (.ok (name, data), t) ∧
        t.tally = s.tally) ∨
      ∃ fault u, result = none ∧ (Document.load source).on s = (.error (.document fault), u) ∧
        u.Idle t ∧ t.tally = s.tally + .fault := by
  have same := loadUncounted source 30 s
  unfold loadInput at ran
  rw [onTryCatch, onBind] at ran
  cases loaded : (Document.load source).on s with
  | mk outcome u =>
    rw [loaded] at ran same
    cases outcome with
    | ok found =>
      cases ran
      exact .inl ⟨found.1, found.2, rfl, rfl, same⟩
    | error failure =>
      dsimp only at ran
      split at ran
      next fault =>
        obtain ⟨rfl, idle, tally⟩ := faultCounted ran
        exact .inr ⟨fault, u, rfl, rfl, idle, tally.trans (congrArg (· + .fault) same)⟩
      next => cases ran

theorem Processes.after {sources : List String} {s t u : Session} {reports : List FileReport}
    (idle : s.Idle t) (later : Processes base settings sources t reports u) :
    Processes base settings sources s reports u := by
  cases later with
  | done idle' => exact .done (idle.trans idle')
  | unloadable idle' load rest => exact .unloadable (idle.trans idle') load rest
  | compiled idle' load compiles rest => exact .compiled (idle.trans idle') load compiles rest

theorem Processes.ending {sources : List String} {s t u : Session} {reports : List FileReport}
    (processes : Processes base settings sources s reports t) (idle : t.Idle u) :
    Processes base settings sources s reports u := by
  induction processes with
  | done idle' => exact .done (idle'.trans idle)
  | unloadable first load _ ih => exact .unloadable first load (ih idle)
  | compiled first load compiles _ ih => exact .compiled first load compiles (ih idle)

def FileReport.tally : FileReport → Tally
  | .unloadable _ => .fault
  | .compiled calls => .ofCalls calls

theorem processFileCounts {source : String} {s u : Session}
    (ran : (processFile base settings verbose source).on s = (.ok (), u)) :
    ∃ report, u.tally = s.tally + report.tally ∧ ∀ sources reports v,
      Processes base settings sources u reports v →
      Processes base settings (source :: sources) s (report :: reports) v := by
  unfold processFile at ran
  obtain ⟨_, _, printed, ran⟩ := onBindOk ran
  obtain ⟨screen, rfl⟩ := printOk printed
  obtain ⟨result, t, loaded, ran⟩ := onBindOk ran
  have idle : s.Idle { s with screen } := ⟨_, _, _, rfl⟩
  rcases loadInputCounts loaded with
    ⟨name, data, rfl, load, tally⟩ | ⟨fault, v, rfl, load, shown, tally⟩
  · obtain ⟨file, _, read, ran⟩ := onBindOk ran
    obtain ⟨log, reads⟩ := readSourceOn (.data data) t
    cases read.symm.trans reads
    obtain ⟨calls, compiles, tally'⟩ := compilesCounts ran
    have counted := tally'.trans (congrArg (· + _) tally)
    refine ⟨.compiled calls, counted, fun sources reports v later => ?_⟩
    exact .compiled idle load (compiles.after ⟨_, _, _, rfl⟩) later
  · cases ran
    exact ⟨.unloadable fault, tally, fun sources reports v later =>
      .unloadable idle load (later.after shown)⟩

theorem processesCounts {sources : List String} {s u : Session}
    (ran : (sources.forM (processFile base settings verbose)).on s = (.ok (), u)) :
    ∃ reports, Processes base settings sources s reports u ∧
      u.tally = s.tally + reports.foldr (fun report later => report.tally + later) {} := by
  induction sources generalizing s with
  | nil =>
    cases ran
    exact ⟨[], .done (.refl _), (Tally.addZero _).symm⟩
  | cons source rest ih =>
    obtain ⟨_, t, first, ran⟩ := onBindOk ran
    obtain ⟨report, tally, processed⟩ := processFileCounts first
    obtain ⟨reports, later, tally'⟩ := ih ran
    refine ⟨report :: reports, processed _ _ _ later, ?_⟩
    rw [tally', tally, Tally.addAssoc]
    rfl

end Loops

def callsOf (reports : List FileReport) : List (Except Failure Compilation) :=
  reports.flatMap (·.calls)

def resultsOf (calls : List (Except Failure Compilation)) : List GenerationResult :=
  calls.flatMap fun call =>
    match call with
    | .ok done => done.results
    | .error _ => []

def tallyOf (reports : List FileReport) : Tally where
  generated := ((resultsOf (callsOf reports)).filter (·.isSuccess)).length
  failed := ((resultsOf (callsOf reports)).filter fun result => !result.isSuccess).length
  faults := (reports.filter fun report => !report.isLoaded).length +
    ((callsOf reports).filter fun call => !call.isOk).length

theorem ofCallsEq (calls : List (Except Failure Compilation)) : Tally.ofCalls calls =
    { Tally.ofResults (resultsOf calls) with
      faults := (calls.filter fun call => !call.isOk).length } := by
  induction calls with
  | nil => rfl
  | cons call rest ih =>
    have step : Tally.ofCalls (call :: rest) = Tally.ofCall call + Tally.ofCalls rest := rfl
    rw [step, ih]
    cases call with
    | ok done =>
      simp [Tally.ofCall, Tally.ofResults, resultsOf, Tally.add, Except.isOk, Except.toBool]
    | error failure =>
      simp [Tally.ofCall, Tally.fault, Tally.ofResults, resultsOf, Tally.add, Except.isOk,
        Except.toBool, Nat.add_comm]

theorem reportsTally (reports : List FileReport) :
    reports.foldr (fun report later => report.tally + later) {} = tallyOf reports := by
  induction reports with
  | nil => rfl
  | cons report rest ih =>
    rw [List.foldr_cons, ih]
    cases report with
    | unloadable fault =>
      simp [FileReport.tally, Tally.fault, tallyOf, callsOf, FileReport.calls, FileReport.isLoaded,
        Tally.add, Nat.add_comm, Nat.add_left_comm]
    | compiled calls =>
      simp [FileReport.tally, ofCallsEq, Tally.ofResults, tallyOf, callsOf, resultsOf,
        FileReport.calls, FileReport.isLoaded, Tally.add, Nat.add_left_comm]

def Flawless (reports : List FileReport) : Prop :=
  ∀ report ∈ reports, report.isLoaded = true ∧ ∀ call ∈ report.calls, ∃ done,
    call = .ok done ∧ ∀ result ∈ done.results, result.isSuccess = true

theorem flawlessIff (reports : List FileReport) :
    Flawless reports ↔ (tallyOf reports).failed = 0 ∧ (tallyOf reports).faults = 0 := by
  have failed : (tallyOf reports).failed = 0 ↔
      ∀ result ∈ resultsOf (callsOf reports), result.isSuccess = true := by
    simp [tallyOf]
  have faults : (tallyOf reports).faults = 0 ↔
      (∀ report ∈ reports, report.isLoaded = true) ∧
        ∀ call ∈ callsOf reports, call.isOk = true := by
    simp [tallyOf]
  rw [failed, faults]
  constructor
  · intro flawless
    have loaded : ∀ report ∈ reports, report.isLoaded = true := fun report there =>
      (flawless report there).1
    refine ⟨fun result there => ?_, loaded, fun call there => ?_⟩
    · obtain ⟨call, there, given⟩ := List.mem_flatMap.mp there
      obtain ⟨report, listed, there⟩ := List.mem_flatMap.mp there
      obtain ⟨done, rfl, succeed⟩ := (flawless report listed).2 call there
      exact succeed result given
    · obtain ⟨report, listed, there⟩ := List.mem_flatMap.mp there
      obtain ⟨done, rfl, _⟩ := (flawless report listed).2 call there
      rfl
  · rintro ⟨succeed, loaded, returned⟩ report listed
    refine ⟨loaded report listed, fun call there => ?_⟩
    have member : call ∈ callsOf reports := List.mem_flatMap.mpr ⟨report, listed, there⟩
    cases call with
    | ok done =>
      refine ⟨done, rfl, fun result given => ?_⟩
      exact succeed result (List.mem_flatMap.mpr ⟨_, member, given⟩)
    | error failure => cases returned _ member

theorem statusCode (t : Tally) : (statusOf t).code ≠ 4 ∧
    ((statusOf t).code = 0 ↔ t.failed = 0 ∧ t.faults = 0) ∧
    ((statusOf t).code ≠ 0 → (statusOf t).code = 1) := by
  unfold statusOf
  split
  next clear => simp [Status.code, clear]
  next marred => simp [Status.code, marred]

/- How a run of the command line ends. Without a target it does nothing. Else it goes through the
files that were found, and for each of them through the directories and their targets; its counts are
those of the calls it made there, and it is done without failure if nothing at all went wrong. -/
theorem runCounts {base : Path} {settings : Settings} {verbose : Bool} {s t : Session}
    {status : Status} (ran : (compileFrom base settings verbose).on s = (.ok status, t)) :
    (status.code = 4 ↔ settings.targets = []) ∧
      (settings.targets = [] → t.tally = {}) ∧
      (settings.targets ≠ [] → ∃ u files v reports, s.Idle u ∧
        (InputFiles.expand (settings.effectiveInputFiles.map .text) base).on u = (.ok files, v) ∧
        Processes base settings files v reports t ∧ t.tally = tallyOf reports ∧
        (status.code = 0 ↔ files ≠ [] ∧ Flawless reports) ∧
        (status.code ≠ 0 → status.code = 1)) := by
  unfold compileFrom at ran
  rw [onBind, onModify] at ran
  dsimp only at ran
  rw [onBind, onNote] at ran
  dsimp only at ran
  by_cases none : settings.targets = []
  · rw [if_pos (List.isEmpty_iff.mpr none)] at ran
    obtain ⟨_, _, printed, ran⟩ := onBindOk ran
    obtain ⟨screen, rfl⟩ := printOk printed
    cases ran
    exact ⟨by simp [none, Status.code], fun _ => rfl, fun some => absurd none some⟩
  rw [if_neg fun empty => none (List.isEmpty_iff.mp empty)] at ran
  obtain ⟨files, v, found, ran⟩ := onBindOk ran
  have fresh : v.tally = {} :=
    (congrArg (fun p => p.2.tally) found.symm).trans (expandUncounted _ base _)
  -- a run that finds no files ends without having processed anything
  by_cases bare : files = []
  · rw [if_pos (List.isEmpty_iff.mpr bare)] at ran
    obtain ⟨_, _, printed, ran⟩ := onBindOk ran
    obtain ⟨screen, rfl⟩ := printOk printed
    cases ran
    refine ⟨by simp [none, Status.code], fun some => absurd some none, fun _ => ?_⟩
    refine ⟨_, files, v, [], ⟨_, _, _, rfl⟩, found, ?_, fresh, ?_, fun _ => rfl⟩
    · rw [bare]
      exact .done ⟨_, _, _, rfl⟩
    · simp [bare, Status.code]
  rw [if_neg fun empty => bare (List.isEmpty_iff.mp empty)] at ran
  obtain ⟨_, w, looped, ran⟩ := onBindOk ran
  obtain ⟨reports, processes, tally⟩ := processesCounts looped
  rw [fresh, Tally.zeroAdd, reportsTally] at tally
  obtain ⟨_, _, got, ran⟩ := onBindOk ran
  cases got
  obtain ⟨_, _, printed, ran⟩ := onBindOk ran
  obtain ⟨screen, rfl⟩ := printOk printed
  cases ran
  obtain ⟨selected, done, failed⟩ := statusCode w.tally
  refine ⟨iff_of_false selected none, fun some => absurd some none, fun _ => ?_⟩
  refine ⟨_, files, v, reports, ⟨_, _, _, rfl⟩, found, processes.ending ⟨_, _, _, rfl⟩, tally, ?_,
    failed⟩
  rw [done, flawlessIff, tally]
  exact (and_iff_right bare).symm

def pages (url : String) : WebAnswer :=
  if url = "http://h/a.json" then
    .page 200 none ("\x7b\"entities\":\x7b\"User\":0,\"Price\":" ++
      "\x7b\"columns\":\x7b\"id\":\"uuid\"\x7d\x7d\x7d\x7d")
  else .page 404 none ""

def pagesSettings : Settings :=
  { entityFramework := true, inputFiles := ["http://h/a.json", "http://h/b.json"] }

theorem pagesCounts : ∃ status t,
    (compileFrom (.ofLocation ["w"]) pagesSettings false).on { cwd := ["w"], web := pages } =
      (.ok status, t) ∧ status = .failed ∧ t.tally = ⟨1, 1, 1⟩ ∧
    (status.code = 4 ↔ pagesSettings.targets = []) ∧
      (pagesSettings.targets = [] → t.tally = {}) ∧
      (pagesSettings.targets ≠ [] → ∃ u files v reports,
        Session.Idle { cwd := ["w"], web := pages } u ∧
        (InputFiles.expand (pagesSettings.effectiveInputFiles.map .text) (.ofLocation ["w"])).on u =
          (.ok files, v) ∧
        Processes (.ofLocation ["w"]) pagesSettings files v reports t ∧ t.tally = tallyOf reports ∧
        (status.code = 0 ↔ files ≠ [] ∧ Flawless reports) ∧
        (status.code ≠ 0 → status.code = 1)) := by
  have shown : (compileFrom (.ofLocation ["w"]) pagesSettings false).shows
      { cwd := ["w"], web := pages }
      (fun status t => decide (status = .failed ∧ t.tally = ⟨1, 1, 1⟩)) = true := by decide +kernel
  obtain ⟨status, t, ran, test⟩ := Activity.showsOk shown
  obtain ⟨failed, tally⟩ := of_decide_eq_true test
  exact ⟨status, t, ran, failed, tally, runCounts ran⟩

end EntityForge
