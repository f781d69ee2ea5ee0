import EntityForge.Proofs.Surveys

/-! The files that a call writes, one after the other, and what it changes with them. A run breaks a
call off at the first name that cannot be printed; the files of the entities before it are written by
then. -/
namespace EntityForge
open Activity Command FileTree
open Terminal (Printable)

inductive Touch (t u : FileTree) (written : List Path) (l : Location) : Prop where
  | same (same : u.get? l = t.get? l)
  | made (absent : t.get? l = none) (directory : u.get? l = some .directory)
  | file (there : ∃ p ∈ written, p.place = l)

namespace Touch
variable {t u v : FileTree} {before after : List Path} {l : Location}

theorem trans (first : Touch t u before l) (second : Touch u v after l) :
    Touch t v (before ++ after) l := by
  cases second with
  | file there =>
    obtain ⟨p, member, here⟩ := there
    exact .file ⟨p, List.mem_append_right _ member, here⟩
  | same again =>
    cases first with
    | same kept => exact .same (again.trans kept)
    | made absent directory => exact .made absent (again.trans directory)
    | file there =>
      obtain ⟨p, member, here⟩ := there
      exact .file ⟨p, List.mem_append_left _ member, here⟩
  | made gone new =>
    cases first with
    | same kept => exact .made (kept ▸ gone) new
    | made _ directory => simp [directory] at gone
    | file there =>
      obtain ⟨p, member, here⟩ := there
      exact .file ⟨p, List.mem_append_left _ member, here⟩

theorem still {e : Entry} (touch : Touch t u before l) (found : t.get? l = some e)
    (apart : ∀ p ∈ before, p.place ≠ l) : u.get? l = some e := by
  cases touch with
  | same kept => exact kept.trans found
  | made absent _ => simp [found] at absent
  | file there =>
    obtain ⟨p, member, here⟩ := there
    exact absurd here (apart p member)

end Touch

structure Wrote (t u : FileTree) (written : List Path) : Prop where
  wellFormed : u.WellFormed
  grows : t.Grows u
  touch : ∀ l, Touch t u written l
  there : ∀ p ∈ written, ∃ content, u.get? p.place = some (.file content)

namespace Wrote
variable {t u v : FileTree} {before after : List Path}

theorem nothing (wf : t.WellFormed) : Wrote t t [] := ⟨wf, .refl t, fun _ => .same rfl, nofun⟩

theorem trans (first : Wrote t u before) (second : Wrote u v after) :
    Wrote t v (before ++ after) where
  wellFormed := second.wellFormed
  grows := first.grows.trans second.grows
  touch l := (first.touch l).trans (second.touch l)
  there p member := by
    rcases List.mem_append.mp member with early | late
    · obtain ⟨content, found⟩ := first.there p early
      exact second.grows.2 _ _ found
    · exact second.there p late

end Wrote

section Writing
variable {t u : FileTree} {cwd : Location} {a : Artifact}

theorem layWrote (wf : t.WellFormed) (names : List String) : Wrote t (t.lay [] names).1 [] := by
  have laid := layLaid wf (rootDirectory t) names
  refine ⟨laid.wellFormed, laid.grows, fun l => ?_, nofun⟩
  rcases laid.news l with same | ⟨absent, new, _⟩
  · exact .same same
  · exact .made absent new

theorem ensureWrote (wf : t.WellFormed) {p : Path} (absolute : p.anchor ≠ .relative)
    {result : Except Failure Unit} (ran : t.ensureDirectory cwd p = (u, result)) : Wrote t u [] := by
  rw [ensureDirectoryLay wf cwd absolute] at ran
  split at ran
  · cases ran
    exact .nothing wf
  · cases ran
    exact layWrote wf p.parts

theorem settleWrote (wf : t.WellFormed) (plain : a.path.Plain) {fate : Fate}
    (done : t.settle cwd a = (u, fate)) :
    Wrote t u (if fate.isWritten then [a.path] else []) := by
  have grown := settleWellFormed wf cwd plain
  rw [done] at grown
  cases settleCases done with
  | kept _ _ => exact .nothing wf
  | @written laid _ walk _ _ _ =>
    have walked := layWrote wf a.path.parent.parts
    rw [walk] at walked
    refine ⟨grown.1, grown.2, fun l => ?_, fun p member => ?_⟩
    · by_cases here : a.path.place = l
      · exact .file ⟨a.path, List.mem_singleton_self _, here⟩
      · have other : (laid.put a.path.place (.file a.content.toUTF8)).get? l = laid.get? l := by
          rw [plain.place] at here ⊢
          rw [getPut, if_neg (Ne.symm here)]
        cases walked.touch l with
        | same kept => exact .same (other.trans kept)
        | made absent new => exact .made absent (other.trans new)
        | file there => exact absurd there (by simp)
    · obtain rfl := List.mem_singleton.mp member
      exact ⟨_, (settleWritten wf plain done).1⟩
  | stuck tree _ =>
    rcases tree with ⟨rfl, _⟩ | rfl
    · exact .nothing wf
    · exact layWrote wf a.path.parent.parts

theorem settleAllWrote {artifacts : List Artifact} (wf : t.WellFormed)
    (plain : ∀ a ∈ artifacts, a.path.Plain) : Wrote t (t.settleAll cwd artifacts).1
      (pathsOf Fate.isWritten artifacts (t.settleAll cwd artifacts).2) := by
  induction artifacts generalizing t with
  | nil => exact .nothing wf
  | cons first rest ih =>
    obtain ⟨plainFirst, plainRest⟩ := List.forall_mem_cons.mp plain
    obtain ⟨u, failure, done, all⟩ | ⟨u, fate, done, _, all⟩ := settleAllCases t cwd first rest
    · rw [all, pathsOfCons]
      simpa [pathsOf] using settleWrote wf plainFirst done
    · have step := settleWrote wf plainFirst done
      rw [all, pathsOfCons]
      exact step.trans (ih step.wellFormed plainRest)

end Writing

namespace Call
variable {c : Call} {t : FileTree} {seen : List String} {key raw : Value} {entries : Entries}

def writesOne (c : Call) (t : FileTree) (seen : List String) (key raw : Value) : List Path :=
  match c.accept seen key raw with
  | .ok (_, artifacts) => (t.writeArtifacts c.cwd artifacts).written
  | .error _ => []

def writes (c : Call) (t : FileTree) (seen : List String) : Entries → List Path
  | [] => []
  | (key, raw) :: rest =>
    c.writesOne t seen key raw ++ c.writes (c.generate t seen key raw).1 (nameOf key :: seen) rest

theorem generateWrote (wf : t.WellFormed) :
    Wrote t (c.generate t seen key raw).1 (c.writesOne t seen key raw) := by
  rw [generateSettle wf, writesOne]
  cases accepted : c.accept seen key raw with
  | error failure => exact .nothing wf
  | ok rendered =>
    obtain ⟨e, artifacts⟩ := rendered
    have plain := renderPlain (acceptOk accepted).2
    dsimp only
    rw [(writeArtifactsSettle wf c.cwd plain).2.1]
    exact settleAllWrote wf plain

theorem compileWrote (wf : t.WellFormed) :
    Wrote t (c.compile t seen entries).1 (c.writes t seen entries) := by
  induction entries generalizing t seen with
  | nil => exact .nothing wf
  | cons entry rest ih =>
    have first : Wrote t (c.generate t seen entry.1 entry.2).1 _ := generateWrote wf
    exact first.trans (ih first.wellFormed)

theorem writesRendered (wf : t.WellFormed) {p : Path} (member : p ∈ c.writes t seen entries) :
    ∃ key raw e artifacts a, c.render key raw = .ok (e, artifacts) ∧ a ∈ artifacts ∧ a.path = p := by
  induction entries generalizing t seen with
  | nil => cases member
  | cons entry rest ih =>
    obtain ⟨key, raw⟩ := entry
    rcases List.mem_append.mp member with here | later
    · unfold writesOne at here
      split at here
      next e artifacts accepted =>
        have ok := (acceptOk accepted).2
        rw [(writeArtifactsSettle wf c.cwd (renderPlain ok)).2.1] at here
        obtain ⟨⟨a, fate⟩, listed, rfl⟩ := List.mem_map.mp here
        exact ⟨key, raw, e, artifacts, a, ok, (List.of_mem_zip (List.mem_of_mem_filter listed)).1, rfl⟩
      next => cases here
    · exact ih (generateGrows wf c seen key raw).1 later

end Call

def reached (entries : Entries) : Entries :=
  entries.takeWhile fun entry => (Terminal.plain (Call.nameOf entry.1)).isOk

namespace CompileRequest

/- What a call of a run does to the files: the tree it leaves, and the files it writes. -/
def work (r : CompileRequest) (s : Session) : FileTree × List Path :=
  match r.call .standard s with
  | .error _ => (s.tree, [])
  | .ok c =>
    match s.tree.ensureDirectory s.cwd c.outDir with
    | (tree, .error _) => (tree, [])
    | (tree, .ok ()) => ((c.compile tree [] (reached r.source.entityFile.entities)).1,
        c.writes tree [] (reached r.source.entityFile.entities))

inductive Works (r : CompileRequest) (s : Session) : FileTree × List Path → Prop where
  | refused {failure : Failure} (not : r.call .standard s = .error failure) : Works r s (s.tree, [])
  | homeless {c : Call} {failure : Failure} {tree : FileTree} (accepted : r.call .standard s = .ok c)
      (blocked : s.tree.ensureDirectory s.cwd c.outDir = (tree, .error failure)) :
      Works r s (tree, [])
  | compiled {c : Call} {tree : FileTree} (accepted : r.call .standard s = .ok c)
      (made : s.tree.ensureDirectory s.cwd c.outDir = (tree, .ok ())) :
      Works r s ((c.compile tree [] (reached r.source.entityFile.entities)).1,
        c.writes tree [] (reached r.source.entityFile.entities))

theorem workCases (r : CompileRequest) (s : Session) : Works r s (r.work s) := by
  unfold work
  cases called : r.call .standard s with
  | error failure => exact .refused called
  | ok c =>
    dsimp only
    cases made : s.tree.ensureDirectory s.cwd c.outDir with
    | mk tree result =>
      cases result with
      | error failure => exact .homeless called made
      | ok => exact .compiled called made

variable (r : CompileRequest) {s : Session}

theorem workWrote (wf : s.tree.WellFormed) : Wrote s.tree (r.work s).1 (r.work s).2 := by
  have works := r.workCases s
  generalize r.work s = done at works ⊢
  cases works with
  | refused _ => exact .nothing wf
  | homeless accepted blocked => exact ensureWrote wf (callOk accepted).1 blocked
  | compiled accepted made =>
    have first := ensureWrote wf (callOk accepted).1 made
    exact first.trans (Call.compileWrote first.wellFormed)

theorem workRendered (wf : s.tree.WellFormed) {p : Path} (member : p ∈ (r.work s).2) :
    ∃ c key raw e artifacts a, r.call .standard s = .ok c ∧
      c.render key raw = .ok (e, artifacts) ∧ a ∈ artifacts ∧ a.path = p := by
  have works := r.workCases s
  generalize r.work s = done at works member
  cases works with
  | refused _ => cases member
  | homeless _ _ => cases member
  | compiled accepted made =>
    have first := ensureWrote wf (callOk accepted).1 made
    obtain ⟨key, raw, e, artifacts, a, ok, inside, same⟩ :=
      Call.writesRendered first.wellFormed member
    exact ⟨_, key, raw, e, artifacts, a, accepted, ok, inside, same⟩

end CompileRequest

section Reporting

theorem isOkIff (name : String) : (Terminal.plain name).isOk = true ↔ Printable name := by
  unfold Printable
  cases Terminal.plain name <;> simp [Except.isOk, Except.toBool]

theorem unprintableStops (c : Call) (seen : List String) (key raw : Value)
    (never : ¬ Printable (Call.nameOf key)) (s : Session) :
    (CompileRequest.compileEntity c.target c.options reporter c.segments c.outDir seen key raw).on s =
      (.error Terminal.markupFault, s) := by
  have before : (reporter.before (Call.nameOf key) c.target.displayName).on s =
      (.error Terminal.markupFault, s) := by
    have broken := (printTells (nameLine c.target.displayName (Call.nameOf key)).markup "" s).breaks
      fun named => never ((namePrintable c.target (Call.nameOf key)).mp named)
    rcases printOn (nameLine c.target.displayName (Call.nameOf key)).markup "" s with
      ⟨screen, printed⟩ | failed
    · obtain ⟨_, _, failed, _⟩ := broken
      cases printed.symm.trans failed
    · exact failed
  unfold Call.nameOf at before
  unfold CompileRequest.compileEntity
  dsimp only
  rw [onBind, before]

theorem compileAllReached (c : Call) (seen : List String) (entries : Entries) {s : Session}
    (cwd : s.cwd = c.cwd) {result : Except Failure (List GenerationResult)} {t : Session}
    (ran : (CompileRequest.compileAll c.target c.options reporter c.segments c.outDir seen
      entries).on s = (result, t)) :
    t.tree = (c.compile s.tree seen (reached entries)).1 ∧ t.cwd = c.cwd := by
  induction entries generalizing s seen result t with
  | nil =>
    cases ran
    exact ⟨rfl, cwd⟩
  | cons entry rest ih =>
    obtain ⟨key, raw⟩ := entry
    unfold CompileRequest.compileAll at ran
    rw [onBind] at ran
    by_cases printable : Printable (Call.nameOf key)
    · have comes : reached ((key, raw) :: rest) = (key, raw) :: reached rest :=
        List.takeWhile_cons_of_pos ((isOkIff _).mpr printable)
      obtain ⟨u, told, idle, _⟩ := (compileEntityTells c seen key raw cwd (Prod.eta _).symm).returns
        printable
      have here : u.tree = (c.generate s.tree seen key raw).1 ∧ u.cwd = c.cwd := by
        obtain ⟨_, _, _, rfl⟩ := idle
        exact ⟨rfl, cwd⟩
      rw [told] at ran
      dsimp only at ran
      rw [onBind] at ran
      rw [comes, Call.compile, ← here.1]
      cases later : (CompileRequest.compileAll c.target c.options reporter c.segments c.outDir
        (Call.nameOf key :: seen) rest).on u with
      | mk more v =>
        rw [later] at ran
        obtain rfl : v = t := by
          cases more with
          | ok results => exact congrArg Prod.snd ran
          | error failure => exact congrArg Prod.snd ran
        exact ih (Call.nameOf key :: seen) here.2 later
    · have stops : reached ((key, raw) :: rest) = [] :=
        List.takeWhile_cons_of_neg fun ok => printable ((isOkIff _).mp ok)
      rw [unprintableStops c seen key raw printable] at ran
      cases ran
      rw [stops]
      exact ⟨rfl, cwd⟩

theorem workDone {r : CompileRequest} (reports : r.observer = reporter) (s : Session) :
    ((r.run .standard).on s).2.tree = (r.work s).1 ∧ ((r.run .standard).on s).2.cwd = s.cwd := by
  have works := r.workCases s
  generalize r.work s = done at works ⊢
  cases works with
  | refused not =>
    obtain ⟨log, ran⟩ := CompileRequest.runRefused not
    rw [ran]
    exact ⟨rfl, rfl⟩
  | homeless accepted blocked =>
    obtain ⟨log, ran⟩ := CompileRequest.runBlocked accepted blocked
    rw [ran]
    exact ⟨rfl, rfl⟩
  | @compiled c tree accepted made =>
    obtain ⟨log, ran⟩ := CompileRequest.runOpens accepted made
    obtain ⟨_, cwd, _⟩ := CompileRequest.callOk accepted
    rw [ran, reports, onBind]
    cases compiled : (CompileRequest.compileAll c.target c.options reporter c.segments c.outDir []
      r.source.entityFile.entities).on { s with tree, log } with
    | mk results t =>
      obtain ⟨left, dir⟩ := compileAllReached c [] _ (s := { s with tree, log }) cwd.symm compiled
      cases results with
      | ok done => exact ⟨left, dir.trans cwd⟩
      | error failure => exact ⟨left, dir.trans cwd⟩

end Reporting

end EntityForge
