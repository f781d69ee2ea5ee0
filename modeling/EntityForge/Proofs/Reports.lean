import EntityForge.Proofs.DiskEffect
import Mathlib.Data.List.Forall2

/-! What a call reports. Every entity of the file has one result, in the order of the file; the
observer is told before and after each of them, with the failure of its result; and the entities that
succeeded have different names. -/
namespace EntityForge
open Activity

structure Observer.Returns (o : Observer) (keep : Event → List Event) : Prop where
  before : ∀ name target s, ∃ t, (o.before name target).on s = (.ok (), t) ∧
    t.events = s.events ++ keep (.before name target)
  done : ∀ failure name target s, ∃ t, (o.done failure name target).on s = (.ok (), t) ∧
    t.events = s.events ++ keep (.done name target failure)

theorem recordingReturns : Observer.recording.Returns fun e => [e] :=
  ⟨fun _ _ _ => ⟨_, rfl, rfl⟩, fun _ _ _ _ => ⟨_, rfl, rfl⟩⟩

def GenerationResult.told (r : GenerationResult) : List Event :=
  [.before r.entity r.target.displayName, .done r.entity r.target.displayName (failureOf r.outcome)]

theorem GenerationResult.failureOfSuccess (r : GenerationResult) :
    failureOf r.outcome = none ↔ r.isSuccess = true := by
  unfold failureOf isSuccess
  cases r.outcome <;> simp

theorem GenerationResult.failureOfError (r : GenerationResult) (failure : Failure) :
    failureOf r.outcome = some failure ↔ r.outcome = .error failure := by
  unfold failureOf
  cases r.outcome <;> simp

structure Reported (target : Target) (seen : List String) (entry : Value × Value)
    (result : GenerationResult) : Prop where
  entity : result.entity = Call.nameOf entry.1
  target : result.target = target
  named : result.isSuccess = true → result.entity ∉ seen ∧ Name.read? entry.1 = some result.entity

theorem Call.generateNamed {c : Call} {t : FileTree} {seen : List String} {key raw : Value}
    {generated : Generated} (ok : (c.generate t seen key raw).2 = .ok generated) :
    Call.nameOf key ∉ seen ∧ Name.read? key = some (Call.nameOf key) := by
  unfold Call.generate at ok
  split at ok
  · cases ok
  next e artifacts accepted =>
    obtain ⟨new, rendered⟩ := Call.acceptOk accepted
    obtain ⟨normal, normalized, _⟩ := exceptBindOk rendered
    obtain ⟨read, _⟩ := normalizeOk normalized
    have name := nameOfRead read
    exact ⟨new, name ▸ readNameRead read⟩

theorem compileEntityTold (c : Call) {observer : Observer} {keep : Event → List Event}
    (returns : observer.Returns keep) (seen : List String) (key raw : Value) (s : Session) :
    ∃ result t, (CompileRequest.compileEntity c.target c.options observer c.segments c.outDir seen
        key raw).on s = (.ok result, t) ∧ Reported c.target seen (key, raw) result ∧
      t.events = s.events ++ result.told.flatMap keep := by
  obtain ⟨told, before, first⟩ := returns.before (Call.nameOf key) c.target.displayName s
  -- The observer may have changed the working directory.
  obtain ⟨log, ran⟩ := compileEntitySteps { c with cwd := told.cwd } observer seen key raw before rfl
    (Prod.eta _).symm
  have named (generated : Generated) := @Call.generateNamed { c with cwd := told.cwd } told.tree seen
    key raw generated
  generalize Call.generate { c with cwd := told.cwd } told.tree seen key raw = now at ran named
  obtain ⟨t, after, second⟩ := returns.done (failureOf now.2) (Call.nameOf key) c.target.displayName
    { told with tree := now.1, log }
  rw [onBind, after] at ran
  refine ⟨_, t, ran, ⟨rfl, rfl, fun success => ?_⟩, ?_⟩
  · cases outcome : now.2 with
    | ok generated => exact named generated outcome
    | error failure => simp [GenerationResult.isSuccess, outcome] at success
  · rw [second, first]
    simp [GenerationResult.told]

inductive ReportedAll (target : Target) : List String → Entries → List GenerationResult → Prop where
  | nil (seen : List String) : ReportedAll target seen [] []
  | cons {seen : List String} {entry : Value × Value} {result : GenerationResult} {entries : Entries}
      {results : List GenerationResult} (first : Reported target seen entry result)
      (rest : ReportedAll target (result.entity :: seen) entries results) :
      ReportedAll target seen (entry :: entries) (result :: results)

theorem compileAllTold (c : Call) {observer : Observer} {keep : Event → List Event}
    (returns : observer.Returns keep) (seen : List String) (entries : Entries) (s : Session) :
    ∃ results t, (CompileRequest.compileAll c.target c.options observer c.segments c.outDir seen
        entries).on s = (.ok results, t) ∧ ReportedAll c.target seen entries results ∧
      t.events = s.events ++ (results.flatMap GenerationResult.told).flatMap keep := by
  induction entries generalizing s seen with
  | nil => exact ⟨[], s, rfl, .nil seen, by simp⟩
  | cons entry rest ih =>
    obtain ⟨key, raw⟩ := entry
    obtain ⟨result, t, ran, reported, told⟩ := compileEntityTold c returns seen key raw s
    obtain ⟨results, u, later, others, told'⟩ := ih (result.entity :: seen) t
    refine ⟨result :: results, u, ?_, .cons reported others, ?_⟩
    · unfold CompileRequest.compileAll
      rw [onBind, ran]
      dsimp only
      rw [onBind, later]
      rfl
    · rw [told', told]
      simp

namespace ReportedAll
variable {target : Target} {seen : List String} {entries : Entries} {results : List GenerationResult}

theorem each (all : ReportedAll target seen entries results) :
    List.Forall₂ (Reported target []) entries results := by
  induction all with
  | nil => exact .nil
  | cons first _ ih =>
    exact .cons ⟨first.entity, first.target, fun success => ⟨by simp, (first.named success).2⟩⟩ ih

theorem fresh (all : ReportedAll target seen entries results) {result : GenerationResult}
    (member : result ∈ results) (success : result.isSuccess = true) : result.entity ∉ seen := by
  induction all with
  | nil => cases member
  | cons first _ ih =>
    rcases List.mem_cons.mp member with rfl | later
    · exact (first.named success).1
    · exact fun old => ih later (List.mem_cons_of_mem _ old)

theorem words (all : ReportedAll target seen entries results) {result : GenerationResult}
    (member : result ∈ results) (success : result.isSuccess = true) :
    Name.wellFormed result.entity.toList = true := by
  induction all with
  | nil => cases member
  | cons first _ ih =>
    rcases List.mem_cons.mp member with rfl | later
    · exact (readOk (first.named success).2).1
    · exact ih later

theorem apart (all : ReportedAll target seen entries results) :
    ((results.filter (·.isSuccess)).map (·.entity)).Nodup := by
  induction all with
  | nil => exact .nil
  | @cons seen entry result entries results first rest ih =>
    by_cases success : result.isSuccess = true
    · rw [List.filter_cons_of_pos success, List.map_cons, List.nodup_cons]
      refine ⟨fun member => ?_, ih⟩
      obtain ⟨other, found, same⟩ := List.mem_map.mp member
      obtain ⟨found, success'⟩ := List.mem_filter.mp found
      exact rest.fresh found success' (same ▸ List.mem_cons_self)
    · rw [List.filter_cons_of_neg success]
      exact ih

end ReportedAll

/- What is true of the results of a call: one for each entry, under its trimmed key; those that
succeeded and those that failed keep their order and make up the whole; a success has a name of its
own, the one that was checked. -/
structure Reports (c : Call) (entries : Entries) (done : Compilation) : Prop where
  target : done.target = c.target
  outDir : done.outDir = c.outDir
  each : List.Forall₂ (fun entry result => result.entity = Call.nameOf entry.1 ∧
    result.target = c.target ∧ (result.isSuccess = true → Name.read? entry.1 = some result.entity))
    entries done.results
  success : ∀ result, result ∈ done.succeeded ↔ result ∈ done.results ∧ result.isSuccess = true
  failure : ∀ result, result ∈ done.failed ↔ result ∈ done.results ∧ result.isSuccess = false
  succeeded : done.succeeded.Sublist done.results
  failed : done.failed.Sublist done.results
  whole : (done.succeeded ++ done.failed).Perm done.results
  fine : done.isSuccess = true ↔ done.failed = []
  apart : (done.succeeded.map (·.entity)).Nodup
  words : ∀ result ∈ done.succeeded, Name.wellFormed result.entity.toList = true

theorem ReportedAll.reports {c : Call} {entries : Entries} {results : List GenerationResult}
    (all : ReportedAll c.target [] entries results) :
    Reports c entries ⟨c.target, c.outDir, results⟩ where
  target := rfl
  outDir := rfl
  each := all.each.imp fun _ _ reported =>
    ⟨reported.entity, reported.target, fun success => (reported.named success).2⟩
  success result := List.mem_filter
  failure result := by simp [Compilation.failed]
  succeeded := List.filter_sublist
  failed := List.filter_sublist
  whole := List.filter_append_perm _ _
  fine := List.isEmpty_iff
  apart := all.apart
  words result member := by
    obtain ⟨member, success⟩ := List.mem_filter.mp member
    exact all.words member success

theorem runReports (r : CompileRequest) (registry : Registry) {keep : Event → List Event}
    (returns : r.observer.Returns keep) {s : Session} {c : Call}
    (accepted : r.call registry s = .ok c) {tree : FileTree}
    (made : s.tree.ensureDirectory s.cwd c.outDir = (tree, .ok ())) :
    ∃ done t, (r.run registry).on s = (.ok done, t) ∧ Reports c r.source.entityFile.entities done ∧
      t.events = s.events ++ (done.results.flatMap GenerationResult.told).flatMap keep ∧
      ∀ result ∈ done.results, (failureOf result.outcome = none ↔ result.isSuccess = true) ∧
        ∀ failure, failureOf result.outcome = some failure ↔ result.outcome = .error failure := by
  obtain ⟨log, ran⟩ := CompileRequest.runOpens accepted made
  obtain ⟨results, t, compiled, all, told⟩ := compileAllTold c returns []
    r.source.entityFile.entities { s with tree, log }
  rw [onBind, compiled] at ran
  exact ⟨_, t, ran, all.reports, told, fun result _ =>
    ⟨result.failureOfSuccess, result.failureOfError⟩⟩

def mixedRequest : CompileRequest :=
  { target := .text "doctrine"
    source := .file ⟨["App"], [(.text " Order ", .null), (.null, .null), (.text "Order", .null),
      (.int 1, .null), (.text "Price", .map [(.text "columns", .map [(.text "id", .text "uuid")])]),
      (.text "User", .null)]⟩
    observer := .recording }

def makesDirectory (s : Session) (c : Call) : Bool :=
  match s.tree.ensureDirectory s.cwd c.outDir with
  | (_, .ok ()) => true
  | _ => false

theorem mixedReports : ∃ c tree done t, mixedRequest.call .standard emptySession = .ok c ∧
    emptySession.tree.ensureDirectory emptySession.cwd c.outDir = (tree, .ok ()) ∧
    mixedRequest.observer.Returns (fun e => [e]) ∧
    done.succeeded.map (·.entity) = ["Order", "User"] ∧
    (mixedRequest.run .standard).on emptySession = (.ok done, t) ∧
    Reports c mixedRequest.source.entityFile.entities done ∧
    t.events = emptySession.events ++
      (done.results.flatMap GenerationResult.told).flatMap (fun e => [e]) ∧
    ∀ result ∈ done.results, (failureOf result.outcome = none ↔ result.isSuccess = true) ∧
      ∀ failure, failureOf result.outcome = some failure ↔ result.outcome = .error failure := by
  obtain ⟨c, accepted, makes⟩ := CompileRequest.acceptsOk mixedRequest emptySession
    (makesDirectory emptySession) (by decide +kernel)
  unfold makesDirectory at makes
  split at makes
  next tree made =>
    obtain ⟨done, t, ran, reports⟩ := runReports mixedRequest .standard recordingReturns accepted made
    obtain ⟨done', t', ran', names⟩ := CompileRequest.showsOk mixedRequest emptySession
      (fun done _ => decide (done.succeeded.map (·.entity) = ["Order", "User"])) (by decide +kernel)
    rw [ran] at ran'
    cases ran'
    exact ⟨c, tree, done, t, accepted, made, recordingReturns, of_decide_eq_true names, ran, reports⟩
  next => cases makes

end EntityForge
