import EntityForge.Proofs.Writes

/-! The calls of a run for an input file. Reading the file and telling what came of a call leave the
files alone, so the calls lead from the tree before the run to the tree after it, whether the run
returns or is broken off. -/
namespace EntityForge
open Activity Command FileTree

structure Deed where
  target : Target
  dir : Path
  before : FileTree
  written : List Path
  after : FileTree

def Deed.aim (d : Deed) : Target × Path := (d.target, d.dir)

inductive Leads : FileTree → List Deed → FileTree → Prop where
  | none {t : FileTree} : Leads t [] t
  | call {d : Deed} {rest : List Deed} {u : FileTree} (wrote : Wrote d.before d.after d.written)
      (later : Leads d.after rest u) : Leads d.before (d :: rest) u

namespace Leads
variable {t u : FileTree} {front back rest : List Deed} {d : Deed}

theorem wrote (leads : Leads t rest u) (wf : t.WellFormed) : Wrote t u (rest.flatMap (·.written)) := by
  induction leads with
  | none => exact .nothing wf
  | call wrote _ ih => exact wrote.trans (ih wrote.wellFormed)

theorem after (leads : Leads t (front ++ d :: back) u) :
    Wrote d.before d.after d.written ∧ Leads d.after back u := by
  induction front generalizing t with
  | nil =>
    cases leads with
    | call wrote later => exact ⟨wrote, later⟩
  | cons first rest ih =>
    cases leads with
    | call _ later => exact ih later

end Leads

section Deeds
variable (base : Path) (settings : Settings) (verbose : Bool)

def writtenBy (file : EntityFile) (place : Target × Path) (s : Session) : List Path :=
  match settings.options place.1 with
  | .ok options => ((request base file options place.1 place.2).work s).2
  | .error _ => []

def deeds (file : EntityFile) : List (Target × Path) → Session → List Deed
  | [], _ => []
  | place :: rest, s =>
    let ran := (compileInto base settings verbose file place.1 place.2).on s
    ⟨place.1, place.2, s.tree, writtenBy base settings file place s, ran.2.tree⟩ ::
      match ran.1 with
      | .ok _ => deeds file rest ran.2
      | .error _ => []

def opening (source : String) : Activity (Option EntityFile) := do
  print s!"\n📄 [bold]{Terminal.escape source}[/bold]"
  match ← loadInput source with
  | none => return none
  | some data => return some (← EntityFile.read data)

def fileDeeds (source : String) (s : Session) : List Deed :=
  match (opening source).on s with
  | (.ok (some file), t) => deeds base settings verbose file (places settings) t
  | _ => []

end Deeds

section Idling
variable {α β : Type}

def Activity.Idles (a : Activity α) : Prop := ∀ s : Session, s.Idle (a.on s).2

theorem idlesPure (x : α) : (pure x : Activity α).Idles := fun s => .refl s

theorem idlesThrow (failure : Failure) : (throw failure : Activity α).Idles := fun s => .refl s

theorem idlesBind {a : Activity α} {f : α → Activity β} (first : a.Idles) (next : ∀ x, (f x).Idles) :
    (a >>= f).Idles := by
  intro s
  have idle := first s
  rw [onBind]
  cases ran : a.on s with
  | mk result t =>
    rw [ran] at idle
    cases result with
    | ok x => exact idle.trans (next x t)
    | error failure => exact idle

theorem idlesPrint (markup ending : String) : (print markup ending).Idles := by
  intro s
  rcases printOn markup ending s with ⟨screen, ran⟩ | ran
  · rw [ran]
    exact ⟨_, _, _, rfl⟩
  · rw [ran]
    exact .refl s

theorem idlesForM {f : α → Activity Unit} (each : ∀ x, (f x).Idles) (items : List α) :
    (items.forM f).Idles := by
  induction items with
  | nil => exact idlesPure ()
  | cons item rest ih => exact idlesBind (each item) fun _ => ih

theorem idlesFault (markup : String) : (do
    print markup
    countFault
    return none : Activity (Option α)).Idles := by
  refine idlesBind (idlesPrint _ _) fun _ => idlesBind (fun s => ?_) fun _ => idlesPure _
  exact ⟨s.log, s.screen, _, rfl⟩

theorem printCompilationIdles (verbose : Bool) (c : Compilation) :
    (printCompilation verbose c).Idles := by
  have lines {ι : Type} (markup : ι → String) (items : List ι) :
      (items.forM fun i => print (markup i)).Idles := idlesForM (fun _ => idlesPrint _ _) items
  unfold printCompilation
  refine idlesBind (idlesPrint _ _) fun _ => ?_
  split
  · refine idlesForM (fun r => ?_) _
    split
    · exact idlesBind (lines _ _) fun _ => idlesBind (lines _ _) fun _ => lines _ _
    · exact idlesPure ()
  · exact idlesPure ()

theorem idlesAfter {a : Activity α} {handle : Failure → Activity (Option α)}
    {next : Option α → Activity β} {s t : Session} {outcome : Except Failure α}
    (ran : a.on s = (outcome, t))
    (handles : ∀ failure, (handle failure).Idles) (goes : ∀ x, (next x).Idles) :
    t.Idle ((tryCatch (do return some (← a)) handle >>= next).on s).2 := by
  rw [onBind, onTryCatch, onBind, ran]
  cases outcome with
  | ok x => exact goes (some x) t
  | error failure =>
    have idle := idlesBind (handles failure) goes t
    rwa [onBind] at idle

theorem idleFiles {s t : Session} (idle : s.Idle t) : t.tree = s.tree ∧ t.cwd = s.cwd := by
  obtain ⟨_, _, _, rfl⟩ := idle
  exact ⟨rfl, rfl⟩

end Idling

section Runs
variable {base : Path} {settings : Settings} {verbose : Bool} {file : EntityFile} {target : Target}
  {dir : Path}

theorem compileIntoWork (base : Path) (verbose : Bool) (file : EntityFile) (dir : Path)
    {options : Options} (chosen : settings.options target = .ok options) (s : Session) :
    ((compileInto base settings verbose file target dir).on s).2.tree =
        ((request base file options target dir).work s).1 ∧
      ((compileInto base settings verbose file target dir).on s).2.cwd = s.cwd := by
  have done := workDone (r := request base file options target dir) rfl s
  cases ran : ((request base file options target dir).run .standard).on s with
  | mk outcome t =>
    rw [ran] at done
    suffices idle : t.Idle ((compileInto base settings verbose file target dir).on s).2 by
      obtain ⟨tree, cwd⟩ := idleFiles idle
      exact ⟨tree.trans done.1, cwd.trans done.2⟩
    unfold compileInto
    rw [onBind, onLift, chosen]
    refine idlesAfter ran (fun failure => ?_) fun outcome => ?_
    · split
      · exact idlesFault _
      · exact idlesThrow failure
    · cases outcome with
      | some c => exact printCompilationIdles verbose c
      | none => exact idlesPure ()

theorem loadInputLoaded {source name : String} {data : Value} {s t : Session}
    (loaded : (Document.load source).on s = (.ok (name, data), t)) :
    (loadInput source).on s = (.ok (some data), t) := by
  unfold loadInput
  rw [onTryCatch, onBind, loaded]
  rfl

theorem loadInputFailed {source : String} {failure : Failure} {s t : Session}
    (failed : (Document.load source).on s = (.error failure, t)) :
    ∃ result u, (loadInput source).on s = (result, u) ∧ t.Idle u ∧
      ∀ data, result ≠ .ok (some data) := by
  unfold loadInput
  rw [onTryCatch, onBind, failed]
  cases failure with
  | document fault =>
    obtain ⟨u, told, idle, _⟩ :=
      (faultTells (faultPrintable (.document fault)) (none : Option Value) t).returns trivial
    exact ⟨_, u, told, idle, nofun⟩
  | _ => exact ⟨_, t, rfl, .refl t, nofun⟩

theorem openingOn (source : String) (s : Session) : ∃ u, s.Idle u ∧
    (opening source).on s = (do
      match ← loadInput source with
      | none => return none
      | some data => return some (← EntityFile.read data) : Activity (Option EntityFile)).on u := by
  obtain ⟨u, printed, idle, _⟩ :=
    (printTells (titleLine source).markup "\n" s).returns (titlePrintable source)
  have printed : (print s!"\n📄 [bold]{Terminal.escape source}[/bold]").on s = (.ok (), u) := printed
  refine ⟨u, idle, ?_⟩
  unfold opening
  exact onBindReturns printed

theorem openingLoaded {source name : String} {data : Value} {s : Session}
    (loaded : ((Document.load source).on s).1 = .ok (name, data)) : ∃ t,
    (opening source).on s = (.ok (some (.ofValue data)), t) ∧ t.tree = s.tree ∧ t.cwd = s.cwd := by
  obtain ⟨u, idle, ran⟩ := openingOn source s
  obtain ⟨tree, cwd⟩ := idleFiles idle
  obtain ⟨log, leaves⟩ := Document.loadLeaves source 30 u
  obtain ⟨log', read⟩ := readSourceOn (.data data) ((Document.load source).on u).2
  have again : (Document.load source).on u = (.ok (name, data), ((Document.load source).on u).2) :=
    Prod.ext ((Document.loadAgain idle source 30).1.trans loaded) rfl
  have read : (EntityFile.read data).on ((Document.load source).on u).2 = _ := read
  rw [ran, onBindReturns (loadInputLoaded again)]
  dsimp only
  rw [onBindReturns read, leaves]
  exact ⟨_, rfl, tree, cwd⟩

theorem openingFailed {source : String} {failure : Failure} {s : Session}
    (failed : ((Document.load source).on s).1 = .error failure) : ∃ result t,
    (opening source).on s = (result, t) ∧ t.tree = s.tree ∧ ∀ file, result ≠ .ok (some file) := by
  obtain ⟨u, idle, ran⟩ := openingOn source s
  obtain ⟨log, leaves⟩ := Document.loadLeaves source 30 u
  have again : (Document.load source).on u = (.error failure, ((Document.load source).on u).2) :=
    Prod.ext ((Document.loadAgain idle source 30).1.trans failed) rfl
  obtain ⟨result, v, input, idle', nothing⟩ := loadInputFailed again
  rw [leaves] at idle'
  have files : v.tree = s.tree := (idleFiles idle').1.trans (idleFiles idle).1
  rw [ran, onBind, input]
  cases result with
  | error failure => exact ⟨_, v, rfl, files, nofun⟩
  | ok found =>
    cases found with
    | some data => exact absurd rfl (nothing data)
    | none => exact ⟨_, v, rfl, files, nofun⟩

theorem processOpens (source : String) (s : Session) :
    (processFile base settings verbose source).on s = match (opening source).on s with
      | (.ok (some file), t) => ((places settings).forM fun (target, dir) =>
          compileInto base settings verbose file target dir).on t
      | (.ok none, t) => (.ok (), t)
      | (.error failure, t) => (.error failure, t) := by
  unfold processFile opening
  rw [onBind, onBind]
  cases (print s!"\n📄 [bold]{Terminal.escape source}[/bold]").on s with
  | mk printed u =>
    cases printed with
    | error failure => rfl
    | ok =>
      dsimp only
      rw [onBind, onBind]
      cases (loadInput source).on u with
      | mk outcome v =>
        cases outcome with
        | error failure => rfl
        | ok input =>
          cases input with
          | none => rfl
          | some data =>
            dsimp only
            rw [onBind, onBind]
            cases (EntityFile.read data).on v with
            | mk read w => cases read <;> rfl

/- What deeds say about a run of calls: the trees they lead through, whom they were done for, and which
files were written. -/
structure Traced (base : Path) (settings : Settings) (file : EntityFile) (places : List (Target × Path))
    (t : FileTree) (calls : List Deed) (result : Except Failure Unit) (u : FileTree) : Prop where
  leads : Leads t calls u
  aims : calls.map Deed.aim <+: places
  whole : result = .ok () → calls.map Deed.aim = places
  made : ∀ d ∈ calls, ∃ s : Session, s.tree.WellFormed ∧
    d.written = writtenBy base settings file d.aim s

theorem deedsTraced (base : Path) (settings : Settings) (verbose : Bool) (file : EntityFile)
    (places : List (Target × Path)) {s t : Session} {result : Except Failure Unit}
    (wf : s.tree.WellFormed) (ran : (places.forM fun (target, dir) =>
      compileInto base settings verbose file target dir).on s = (result, t)) :
    Traced base settings file places s.tree (deeds base settings verbose file places s) result
      t.tree := by
  induction places generalizing s result t with
  | nil =>
    cases ran
    exact ⟨.none, List.prefix_rfl, fun _ => rfl, nofun⟩
  | cons place rest ih =>
    obtain ⟨options, chosen⟩ := optionsChosen settings place.1
    obtain ⟨work, _⟩ := compileIntoWork base verbose file place.2 chosen s
    have wrote : Wrote s.tree ((compileInto base settings verbose file place.1 place.2).on s).2.tree
        (writtenBy base settings file place s) := by
      rw [work, writtenBy, chosen]
      exact CompileRequest.workWrote _ wf
    have ran : (compileInto base settings verbose file place.1 place.2 >>= fun _ =>
        rest.forM fun (target, dir) => compileInto base settings verbose file target dir).on s =
          (result, t) := ran
    rw [onBind] at ran
    unfold deeds
    dsimp only
    cases first : (compileInto base settings verbose file place.1 place.2).on s with
    | mk outcome u =>
      rw [first] at wrote ran
      cases outcome with
      | error failure =>
        cases ran
        refine ⟨.call (d := ⟨_, _, _, _, _⟩) wrote .none, ?_, nofun, ?_⟩
        · exact List.cons_prefix_cons.mpr ⟨rfl, List.nil_prefix⟩
        · exact List.forall_mem_singleton.mpr ⟨s, wf, rfl⟩
      | ok =>
        have later := ih wrote.wellFormed ran
        refine ⟨.call (d := ⟨_, _, _, _, _⟩) wrote later.leads, ?_, fun ok => ?_, ?_⟩
        · exact List.cons_prefix_cons.mpr ⟨rfl, later.aims⟩
        · exact congrArg (place :: ·) (later.whole ok)
        · exact List.forall_mem_cons.mpr ⟨⟨s, wf, rfl⟩, later.made⟩

end Runs

end EntityForge
