import EntityForge.Proofs.DiskEffect

/-! Entities that fail before they write. Such an entity leaves nothing but its name behind, so that
the others fare as without it, up to the next one of the same name. -/
namespace EntityForge
open FileTree

inductive Failure.OfRendering : Failure → Prop where
  | name (value kind : String) : OfRendering (.invalidName value kind)
  | column (column entity : String) : OfRendering (.duplicateColumn column entity)
  | type (tag target : String) : OfRendering (.unsupportedType tag target)
  | template (name : String) : OfRendering (.template name)
  | foreign (text : String) : OfRendering (.foreign text)

section Faults
variable {failure : Failure}

theorem readNameFault {raw : Value} {kind : String}
    (failed : Entity.readName raw kind = .error failure) : failure.OfRendering := by
  unfold Entity.readName at failed
  split at failed
  · cases failed
  · cases failed
    exact .name _ _

theorem readColumnsFault {entity : String} {found : List (String × Column)} {entries : Entries}
    (failed : Entity.readColumns entity found entries = .error failure) : failure.OfRendering := by
  induction entries generalizing found with
  | nil => cases failed
  | cons entry rest ih =>
    obtain ⟨key, raw⟩ := entry
    unfold Entity.readColumns at failed
    split at failed
    next refused =>
      cases failed
      exact readNameFault refused
    next name _ =>
      split at failed
      · cases failed
        exact .column _ _
      · exact ih failed

theorem normalizeFault {cwd : Location} {key : Value} {description : Description}
    {segments : List String} {outDir : Path}
    (failed : Entity.normalize cwd key description segments outDir = .error failure) :
    failure.OfRendering := by
  rcases exceptBindError failed with failed | ⟨e, _, failed⟩
  · rcases exceptBindError failed with failed | ⟨name, _, failed⟩
    · exact readNameFault failed
    · split at failed
      · rcases exceptBindError failed with failed | ⟨columns, _, failed⟩
        · exact readColumnsFault failed
        · cases failed
      · cases failed
        exact .foreign _
  · split at failed
    · cases failed
      exact .foreign _
    · cases failed

theorem renderFormattedFault {name : String} {template : Template} {scope : Scope}
    {options : Options} (failed : renderFormatted name template scope options = .error failure) :
    failure.OfRendering := by
  rcases exceptBindError failed with failed | ⟨code, _, failed⟩
  · unfold renderPlain at failed
    split at failed
    · cases failed
    · cases failed
      exact .template _
    · cases failed
      exact .foreign _
  · split at failed
    · cases failed
    · cases failed
      exact .foreign _

theorem mapMFault {α β : Type} {f : α → Except Failure β} {xs : List α}
    (failed : xs.mapM f = .error failure) : ∃ x ∈ xs, f x = .error failure := by
  induction xs with
  | nil => cases failed
  | cons x rest ih =>
    rw [List.mapM_cons] at failed
    rcases exceptBindError failed with here | ⟨y, _, failed⟩
    · exact ⟨x, List.mem_cons_self, here⟩
    · rcases exceptBindError failed with later | ⟨ys, _, failed⟩
      · obtain ⟨z, member, there⟩ := ih later
        exact ⟨z, List.mem_cons_of_mem _ member, there⟩
      · cases failed

theorem typedFault {table : TypeTable} {columns : List (String × Column)}
    (failed : columns.mapM (fun (name, column) => do
      return (name, column, ← table.map column.tag column.id column.nullable)) =
        (.error failure : Except Failure (List (String × Column × String)))) :
    failure.OfRendering := by
  obtain ⟨entry, _, failed⟩ := mapMFault failed
  rcases exceptBindError failed with failed | ⟨native, _, failed⟩
  · unfold TypeTable.map at failed
    dsimp only at failed
    split at failed
    · cases failed
      exact .type _ _
    · cases failed
  · cases failed

theorem doctrineFault {e : Entity} {options : Options}
    (failed : Emit.Doctrine.artifacts e options = .error failure) : failure.OfRendering := by
  rcases exceptBindError failed with failed | ⟨columns, _, failed⟩
  · exact typedFault failed
  rcases exceptBindError failed with failed | ⟨phpClass, _, failed⟩
  · exact renderFormattedFault failed
  rcases exceptBindError failed with failed | ⟨phpTrait, _, failed⟩
  · exact renderFormattedFault failed
  rcases exceptBindError failed with failed | ⟨dir, _, failed⟩
  · unfold Emit.Doctrine.mappingDir at failed
    split at failed
    · cases failed
    all_goals
      split at failed <;> cases failed
      exact .foreign _
  rcases exceptBindError failed with failed | ⟨mapping, _, failed⟩
  · exact renderFormattedFault failed
  · cases failed

theorem frameworkFault {flavor : Emit.EntityFramework.Flavor} {e : Entity} {options : Options}
    (failed : Emit.EntityFramework.artifacts flavor e options = .error failure) :
    failure.OfRendering := by
  rcases exceptBindError failed with failed | ⟨columns, _, failed⟩
  · exact typedFault failed
  rcases exceptBindError failed with failed | ⟨main, _, failed⟩
  · exact renderFormattedFault failed
  rcases exceptBindError failed with failed | ⟨extensions, _, failed⟩
  · exact renderFormattedFault failed
  · cases failed

theorem emitFault {target : Target} {e : Entity} {options : Options}
    (failed : target.emit e options = .error failure) : failure.OfRendering := by
  cases target with
  | doctrine => exact doctrineFault failed
  | entityFramework => exact frameworkFault failed
  | entityFrameworkCore => exact frameworkFault failed

theorem Call.renderFault {c : Call} {key raw : Value} (failed : c.render key raw = .error failure) :
    failure.OfRendering := by
  rcases exceptBindError failed with failed | ⟨e, _, failed⟩
  · exact normalizeFault failed
  rcases exceptBindError failed with failed | ⟨artifacts, _, failed⟩
  · exact emitFault failed
  · cases failed

end Faults

namespace Call
variable {c : Call} {t : FileTree} {seen seen' : List String} {key raw : Value} {name : String}
  {entries front back : Entries}

def names (entries : Entries) : List String := entries.map fun entry => nameOf entry.1

theorem generateNew (wf : t.WellFormed) (new : nameOf key ∉ seen) :
    (c.generate t seen key raw).2 ≠ .error (.duplicateEntity name) := by
  intro clash
  rw [generateSettle wf, acceptNew new] at clash
  cases rendered : c.render key raw with
  | error failure =>
    rw [rendered] at clash
    cases clash
    cases renderFault rendered
  | ok e =>
    rw [rendered] at clash
    unfold report at clash
    dsimp only at clash
    split at clash
    next failure failed =>
      cases clash
      rcases FileTree.settleAllFault failed with ⟨fault, same⟩ | same <;> cases same
    next => cases clash

theorem generateOld (old : nameOf key ∈ seen) :
    c.generate t seen key raw = (t, .error (.duplicateEntity (nameOf key))) := by
  unfold generate accept
  rw [if_pos (by simpa using old)]

theorem acceptSeen (same : nameOf key ∈ seen ↔ nameOf key ∈ seen') :
    c.accept seen key raw = c.accept seen' key raw := by
  unfold accept
  simp [same]

theorem generateSeen (same : nameOf key ∈ seen ↔ nameOf key ∈ seen') :
    c.generate t seen key raw = c.generate t seen' key raw := by
  unfold generate
  rw [acceptSeen same]

theorem compileSeen (same : ∀ name ∈ names entries, name ∈ seen ↔ name ∈ seen') :
    c.compile t seen entries = c.compile t seen' entries := by
  induction entries generalizing t seen seen' with
  | nil => rfl
  | cons entry rest ih =>
    obtain ⟨key, raw⟩ := entry
    obtain ⟨first, others⟩ := List.forall_mem_cons.mp same
    have later (u : FileTree) : c.compile u (nameOf key :: seen) rest =
        c.compile u (nameOf key :: seen') rest := by
      refine ih fun name member => ?_
      rw [List.mem_cons, List.mem_cons, others name member]
    rw [compile, compile, generateSeen first, later]

theorem compileAppend (c : Call) (t : FileTree) (seen : List String) (front back : Entries) :
    c.compile t seen (front ++ back) =
      ((c.compile (c.compile t seen front).1 (names front ++ seen) back).1,
        (c.compile t seen front).2 ++
          (c.compile (c.compile t seen front).1 (names front ++ seen) back).2) := by
  induction front generalizing t seen with
  | nil => rfl
  | cons entry rest ih =>
    obtain ⟨key, raw⟩ := entry
    have order (u : FileTree) : c.compile u (names rest ++ nameOf key :: seen) back =
        c.compile u (names ((key, raw) :: rest) ++ seen) back :=
      compileSeen fun name _ => by simp [names, or_left_comm]
    rw [List.cons_append, compile, compile, ih, order]
    rfl

theorem compileLength (c : Call) (t : FileTree) (seen : List String) (entries : Entries) :
    (c.compile t seen entries).2.length = entries.length := by
  induction entries generalizing t seen with
  | nil => rfl
  | cons entry rest ih =>
    obtain ⟨key, raw⟩ := entry
    rw [compile, List.length_cons, List.length_cons, ih]

theorem compileWithout (old : name ∈ names entries → name ∈ seen) :
    c.compile t (name :: seen) entries = c.compile t seen entries := by
  refine compileSeen fun other member => ?_
  rw [List.mem_cons]
  constructor
  · rintro (rfl | there)
    · exact old member
    · exact there
  · exact .inr

theorem compileClash (wf : t.WellFormed) (new : name ∉ seen) (used : name ∈ names entries) :
    (c.compile t (name :: seen) entries).2 ≠ (c.compile t seen entries).2 := by
  induction entries generalizing t seen with
  | nil => cases used
  | cons entry rest ih =>
    obtain ⟨key, raw⟩ := entry
    intro same
    rw [compile, compile] at same
    obtain ⟨first, others⟩ := List.cons_eq_cons.mp same
    by_cases here : nameOf key = name
    · subst here
      have outcome := congrArg GenerationResult.outcome first
      rw [generateOld List.mem_cons_self] at outcome
      exact generateNew wf new outcome.symm
    · have alike : c.generate t (name :: seen) key raw = c.generate t seen key raw :=
        generateSeen (by simp [here])
      have order (u : FileTree) : c.compile u (nameOf key :: name :: seen) rest =
          c.compile u (name :: nameOf key :: seen) rest :=
        compileSeen fun other _ => by simp [or_left_comm]
      rw [alike, order] at others
      refine ih (generateGrows wf c seen key raw).1 ?_ ?_ others
      · simp [new, Ne.symm here]
      · exact (List.mem_cons.mp used).resolve_left (Ne.symm here)

theorem compileBroken {failure : Failure} (broken : c.accept seen key raw = .error failure) :
    c.compile t seen ((key, raw) :: back) = ((c.compile t (nameOf key :: seen) back).1,
      ⟨nameOf key, c.target, .error failure⟩ :: (c.compile t (nameOf key :: seen) back).2) := by
  have refused : c.generate t seen key raw = (t, .error failure) := by
    unfold generate
    rw [broken]
  rw [compile, refused]

/- Results with and without an entity that fails before it writes: what differs is that the entities
after it find its name in use. -/
theorem compileAside {failure : Failure} (t : FileTree) (back : Entries)
    (broken : c.accept (names front) key raw = .error failure) :
    ((c.compile t [] (front ++ (key, raw) :: back)).2.eraseIdx front.length =
      (c.compile t [] front).2 ++
        (c.compile (c.compile t [] front).1 (nameOf key :: names front) back).2) ∧
    (c.compile t [] (front ++ (key, raw) :: back)).1 =
      (c.compile (c.compile t [] front).1 (nameOf key :: names front) back).1 := by
  have length := c.compileLength t [] front
  have whole := c.compileAppend t [] front ((key, raw) :: back)
  rw [List.append_nil, compileBroken broken] at whole
  rw [whole]
  refine ⟨?_, rfl⟩
  dsimp only
  rw [List.eraseIdx_append_of_length_le (Nat.le_of_eq length), length, Nat.sub_self,
    List.eraseIdx_zero, List.tail_cons]

theorem compileTake (c : Call) (t : FileTree) (seen : List String) (front back : Entries) :
    (c.compile t seen (front ++ back)).2.take front.length = (c.compile t seen front).2 := by
  rw [compileAppend, List.take_left' (compileLength c t seen front)]

end Call

def CompileRequest.compiling (r : CompileRequest) (entries : Entries) : CompileRequest :=
  { r with source := .file ⟨r.source.entityFile.segments, entries⟩ }

/- Without an entity that fails before it writes, the call returns too. All results up to the next
entity of its name are as before; all others are as before, and so is the tree, unless its name
comes again and was first used by it. -/
theorem failureAside (r : CompileRequest) (registry : Registry) (quiet : r.observer.Quiet)
    {s t : Session} (wf : s.tree.WellFormed) {done : Compilation}
    (ran : (r.run registry).on s = (.ok done, t)) {c : Call} (accepted : r.call registry s = .ok c)
    {front back : Entries} {key raw : Value} {failure : Failure}
    (split : r.source.entityFile.entities = front ++ (key, raw) :: back)
    (broken : c.accept (Call.names front) key raw = .error failure) :
    ∃ done' t', ((r.compiling (front ++ back)).run registry).on s = (.ok done', t') ∧
      (∀ mid rest, back = mid ++ rest → Call.nameOf key ∉ Call.names mid →
        done'.results.take (front.length + mid.length) =
          (done.results.eraseIdx front.length).take (front.length + mid.length)) ∧
      (done'.results = done.results.eraseIdx front.length ↔
        (Call.nameOf key ∈ Call.names back → Call.nameOf key ∈ Call.names front)) ∧
      ((Call.nameOf key ∈ Call.names back → Call.nameOf key ∈ Call.names front) →
        t'.tree = t.tree) := by
  obtain ⟨result, t₁, ran₁, _, course⟩ := r.runCourse registry quiet s
  rw [ran] at ran₁
  obtain ⟨rfl, rfl⟩ := Prod.mk.inj ran₁
  obtain ⟨c', tree, accepted', made, rfl, left⟩ := course.returned
  obtain rfl : c = c' := Except.ok.inj (accepted.symm.trans accepted')
  have wfTree := (ensureKeeps wf (CompileRequest.callOk accepted).1 made (rootDirectory s.tree)).1
  have wfFront := (Call.compileGrows wfTree c [] front).1
  obtain ⟨result', t', ran', _, course'⟩ :=
    (r.compiling (front ++ back)).runCourse registry quiet s
  obtain ⟨rfl, left'⟩ := course'.compiles accepted made
  have without : c.compile tree [] (r.compiling (front ++ back)).source.entityFile.entities =
      c.compile tree [] (front ++ back) := rfl
  obtain ⟨aside, asideTree⟩ := Call.compileAside tree back broken
  rw [without, Call.compileAppend, List.append_nil] at ran' left'
  rw [split, asideTree] at left
  refine ⟨_, t', ran', fun mid rest parts unused => ?_, ?_, fun old => ?_⟩
  · have length := Call.compileLength c tree [] front
    dsimp only
    rw [split, aside, ← length, List.take_length_add_append, List.take_length_add_append, parts,
      Call.compileTake, Call.compileTake,
      Call.compileWithout fun used => absurd used unused]
  · dsimp only
    rw [split, aside, List.append_cancel_left_eq]
    constructor
    · intro same used
      by_contra new
      exact Call.compileClash wfFront new used same.symm
    · intro old
      rw [Call.compileWithout old]
  · rw [left', left, Call.compileWithout old]

def untyped : Value :=
  .map [(.text "columns", .map [(.text "id", .text "uuid")])]

def refuses (seen : List String) (key raw : Value) (c : Call) : Bool :=
  match c.accept seen key raw with
  | .error _ => true
  | .ok _ => false

theorem refusesOk {seen : List String} {key raw : Value} {c : Call}
    (refused : refuses seen key raw c = true) : ∃ failure, c.accept seen key raw = .error failure := by
  unfold refuses at refused
  split at refused
  next failure fault => exact ⟨failure, fault⟩
  next => cases refused

def orderRequest : CompileRequest :=
  { target := .text "doctrine"
    source := .file ⟨["App"], [(.text "Order", .null), (.text "Price", untyped),
      (.text "User", .null)]⟩ }

theorem priceAside : ∃ c failure done t done' t',
    orderRequest.call .standard emptySession = .ok c ∧
    c.accept (Call.names [(.text "Order", .null)]) (.text "Price") untyped = .error failure ∧
    (orderRequest.run .standard).on emptySession = (.ok done, t) ∧
    ((orderRequest.compiling [(.text "Order", .null), (.text "User", .null)]).run .standard).on
      emptySession = (.ok done', t') ∧
    done'.results = done.results.eraseIdx 1 ∧ t'.tree = t.tree := by
  obtain ⟨c, accepted, refused⟩ := CompileRequest.acceptsOk orderRequest emptySession
    (refuses (Call.names [(.text "Order", .null)]) (.text "Price") untyped) (by decide +kernel)
  obtain ⟨failure, broken⟩ := refusesOk refused
  obtain ⟨done, t, ran, _⟩ := CompileRequest.showsOk orderRequest emptySession (fun _ _ => true)
    (by decide +kernel)
  have unused : Call.nameOf (.text "Price") ∉ Call.names [(.text "User", .null)] := by decide
  have split : orderRequest.source.entityFile.entities =
      [(.text "Order", .null)] ++ (.text "Price", untyped) :: [(.text "User", .null)] := rfl
  obtain ⟨done', t', ran', _, same, tree⟩ := failureAside orderRequest .standard noObserverQuiet
    emptyWellFormed ran accepted split broken
  exact ⟨c, failure, done, t, done', t', accepted, broken, ran, ran',
    same.mpr fun used => absurd used unused, tree fun used => absurd used unused⟩

def blankRequest : CompileRequest :=
  { target := .text "doctrine"
    source := .file ⟨["App"], [(.text "User ", untyped), (.text "User", .null)]⟩ }

theorem namesakeRefused : ∃ c failure done t done' t',
    blankRequest.call .standard emptySession = .ok c ∧
    c.render (.text "User ") untyped = .error failure ∧
    (blankRequest.run .standard).on emptySession = (.ok done, t) ∧
    done.results.map (·.isSuccess) = [false, false] ∧
    ((blankRequest.compiling [(.text "User", .null)]).run .standard).on emptySession =
      (.ok done', t') ∧
    done'.results.map (·.isSuccess) = [true] := by
  obtain ⟨c, accepted, refused⟩ := CompileRequest.acceptsOk blankRequest emptySession
    (refuses [] (.text "User ") untyped) (by decide +kernel)
  obtain ⟨failure, broken⟩ := refusesOk refused
  obtain ⟨done, t, ran, fates⟩ := CompileRequest.showsOk blankRequest emptySession
    (fun done _ => decide (done.results.map (·.isSuccess) = [false, false])) (by decide +kernel)
  obtain ⟨done', t', ran', fates'⟩ := CompileRequest.showsOk
    (blankRequest.compiling [(.text "User", .null)]) emptySession
    (fun done _ => decide (done.results.map (·.isSuccess) = [true])) (by decide +kernel)
  exact ⟨c, failure, done, t, done', t', accepted, broken, ran, of_decide_eq_true fates, ran',
    of_decide_eq_true fates'⟩

end EntityForge
