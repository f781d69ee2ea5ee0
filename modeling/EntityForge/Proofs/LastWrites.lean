import EntityForge.Proofs.StraightPaths

/-! Artifacts in any order, also several for one path. Whether one is skipped depends on what those
before it left, so the list is followed artifact by artifact: a ledger says which were written, and the
tree after the list follows from the tree before it and from the ledger. -/
namespace EntityForge
open FileTree

def lastAt (files : List Artifact) (l : Location) : Option Artifact :=
  files.reverse.find? fun a => decide (a.path.place = l)

section LastAt
variable {files before after : List Artifact} {a : Artifact} {l : Location}

theorem lastAtSnoc : lastAt (files ++ [a]) l = if a.path.place = l then some a else lastAt files l := by
  rw [lastAt, List.reverse_append, List.reverse_singleton, List.singleton_append, List.find?_cons]
  split <;> simp_all [lastAt]

theorem lastAtNone : lastAt files l = none ↔ ∀ a ∈ files, a.path.place ≠ l := by
  simp [lastAt]

theorem lastAtSome (found : lastAt files l = some a) : a ∈ files ∧ a.path.place = l :=
  ⟨List.mem_reverse.mp (List.mem_of_find?_eq_some found), by simpa using List.find?_some found⟩

theorem lastAtSplit (apart : ∀ b ∈ after, b.path.place ≠ a.path.place) :
    lastAt (before ++ a :: after) a.path.place = some a := by
  have late : after.reverse.find? (fun b => decide (b.path.place = a.path.place)) = none := by
    simpa using apart
  simp [lastAt, late]

end LastAt

def FileTree.holding (t : FileTree) (files : List Artifact) (l : Location) : Option Entry :=
  ((lastAt files l).map fun a => .file a.content.toUTF8).or ((t.get? l).or
    (if ∃ a ∈ files, l <+: a.path.parent.place then some .directory else none))

namespace FileTree
variable {t u s : FileTree} {cwd : Location} {a : Artifact} {files : List Artifact} {l : Location}

theorem holdingSnoc (same : ∀ l, s.get? l = t.holding files l) (l : Location) :
    s.holding [a] l = t.holding (files ++ [a]) l := by
  rw [holding, holding, lastAtSnoc]
  by_cases here : a.path.place = l
  · simp [lastAt, here]
  · have alone : lastAt [a] l = none := lastAtNone.mpr (by simpa using here)
    rw [alone, if_neg here, same, holding, Option.map_none, Option.none_or, Option.or_assoc,
      Option.or_assoc]
    congr 2
    by_cases old : ∃ b ∈ files, l <+: b.path.parent.place <;>
      by_cases new : l <+: a.path.parent.place <;> simp [or_and_right, exists_or, old, new]

inductive Landing (t : FileTree) (a : Artifact) : FileTree → Fate → Prop where
  | kept (free : a.Free t) (once : a.overwrite = false)
      (there : (t.get? a.path.place).isSome = true) : Landing t a t .kept
  | written {u : FileTree} (free : a.Free t) (new : a.overwrite = true ∨ t.get? a.path.place = none)
      (put : ∀ l, u.get? l = t.holding [a] l) : Landing t a u .written
  | failed {u : FileTree} {failure : Failure} (blocked : ¬ a.Free t)
      (files : ∀ l content, u.get? l = some (.file content) ↔ t.get? l = some (.file content)) :
      Landing t a u (.failed failure)

theorem layFiles (wf : t.WellFormed) (names : List String) (l : Location) (content : ByteArray) :
    (t.lay [] names).1.get? l = some (.file content) ↔ t.get? l = some (.file content) := by
  rcases (layLaid wf (rootDirectory t) names).news l with same | ⟨absent, new, _⟩
  · rw [same]
  · simp [absent, new]

theorem settleLanding (wf : t.WellFormed) (straight : a.path.Straight) {fate : Fate}
    (done : t.settle cwd a = (u, fate)) : Landing t a u fate := by
  cases settleCases done with
  | kept once there =>
    rcases fileExistsCases wf cwd straight with ⟨_, error, _⟩ | ⟨_, opened, present⟩ | ⟨absent, _⟩
    · cases there.symm.trans error
    · exact .kept ⟨opened, fun always => by simp [once] at always⟩ once present
    · cases there.symm.trans absent
  | @written laid free walk fit clean solid =>
    rcases straight.rootOrPlain with root | plain
    · rw [rootPlace root] at solid
      exact absurd (rootDirectory laid) solid
    · have opened : a.path.Open t := (openIff straight plain).mpr ⟨clean, by rw [walk], fit⟩
      rw [layPlace wf straight plain walk] at solid
      refine .written ⟨opened, fun _ => solid⟩ (free.imp_right fun absent => ?_) fun l => ?_
      · rcases fileExistsCases wf cwd straight with ⟨_, error, _⟩ | ⟨there, _⟩ | ⟨_, gone⟩
        · cases absent.symm.trans error
        · cases absent.symm.trans there
        · exact gone clean
      · have below : a.path.parent.parts = a.path.parent.place := straight.above.place.symm
        have left := layHolds wf straight.above.onward walk l
        rw [plain.place, getPut, ← plain.place, left, holding, below]
        by_cases here : l = a.path.place
        · simp [lastAt, here]
        · simp [lastAt, here, Ne.symm here]
  | stuck tree fault =>
    refine .failed (fun free => ?_) fun l content => ?_
    · have fine := freeSettles wf cwd straight free
      rw [done] at fine
      simp [Fate.failure?] at fine
    · rcases tree with ⟨rfl, _⟩ | rfl
      · rfl
      · exact layFiles wf _ l content

end FileTree

abbrev Ledger := List (Artifact × Bool)

namespace Ledger

def artifacts (ledger : Ledger) : List Artifact := ledger.map Prod.fst

def written (ledger : Ledger) : List Artifact := (ledger.filter fun row => !row.2).map Prod.fst

def skipped (ledger : Ledger) : List Artifact := (ledger.filter fun row => row.2).map Prod.fst

theorem memWritten {ledger : Ledger} {a : Artifact} : a ∈ ledger.written ↔ (a, false) ∈ ledger := by
  simp [written]

theorem cutLast {rows before after : Ledger} {row last : Artifact × Bool}
    (same : rows ++ [last] = before ++ row :: after) :
    (rows = before ∧ last = row) ∨ ∃ rest, rows = before ++ row :: rest := by
  rcases List.eq_nil_or_concat after with rfl | ⟨rest, final, rfl⟩
  · obtain ⟨rfl, ends⟩ := List.append_inj' same rfl
    exact .inl ⟨rfl, List.singleton_inj.mp ends⟩
  · rw [List.concat_eq_append, ← List.cons_append, ← List.append_assoc] at same
    exact .inr ⟨rest, (List.append_inj' same rfl).1⟩

end Ledger

/- A tree to which artifacts were put one after the other. Each of them met what those before it left. -/
inductive Runs (t : FileTree) : Ledger → FileTree → Prop where
  | nil : Runs t [] t
  | skip {ledger : Ledger} {u : FileTree} {a : Artifact} (run : Runs t ledger u)
      (once : a.overwrite = false) (there : (u.get? a.path.place).isSome = true) :
      Runs t (ledger ++ [(a, true)]) u
  | write {ledger : Ledger} {u v : FileTree} {a : Artifact} (run : Runs t ledger u)
      (new : a.overwrite = true ∨ u.get? a.path.place = none)
      (put : ∀ l, v.get? l = u.holding [a] l) : Runs t (ledger ++ [(a, false)]) v

namespace Runs
variable {t u : FileTree} {ledger before after : Ledger} {a : Artifact} {skip : Bool} {l : Location}

theorem holds (run : Runs t ledger u) (l : Location) : u.get? l = t.holding ledger.written l := by
  induction run generalizing l with
  | nil => simp [FileTree.holding, Ledger.written, lastAt]
  | skip run once there ih => simpa [Ledger.written] using ih l
  | @write ledger u v a run new put ih =>
    rw [put, holdingSnoc ih]
    simp [Ledger.written]

theorem there (run : Runs t ledger u) (l : Location) : (u.get? l).isSome = true ↔
    (t.get? l).isSome = true ∨
      ∃ b ∈ ledger.written, b.path.place = l ∨ l <+: b.path.parent.place := by
  rw [run.holds, FileTree.holding]
  cases last : lastAt ledger.written l with
  | some b =>
    obtain ⟨member, here⟩ := lastAtSome last
    exact iff_of_true rfl (.inr ⟨b, member, .inl here⟩)
  | none =>
    have apart := lastAtNone.mp last
    cases t.get? l with
    | some e => simp
    | none =>
      by_cases needed : ∃ b ∈ ledger.written, l <+: b.path.parent.place
      · rw [if_pos needed]
        obtain ⟨b, member, below⟩ := needed
        exact iff_of_true rfl (.inr ⟨b, member, .inr below⟩)
      · rw [if_neg needed]
        refine iff_of_false (by simp) ?_
        rintro (old | ⟨b, member, here | below⟩)
        · cases old
        · exact apart b member here
        · exact needed ⟨b, member, below⟩

theorem decided (run : Runs t ledger u) (row : ledger = before ++ (a, skip) :: after) :
    ∃ s, Runs t before s ∧
      (skip = true ↔ a.overwrite = false ∧ (s.get? a.path.place).isSome = true) := by
  induction run generalizing after with
  | nil => simp at row
  | @skip rows u b run once there ih =>
    rcases Ledger.cutLast row with ⟨rfl, here⟩ | ⟨rest, earlier⟩
    · cases here
      exact ⟨u, run, by simp [once, there]⟩
    · exact ih earlier
  | @write rows u v b run new put ih =>
    rcases Ledger.cutLast row with ⟨rfl, here⟩ | ⟨rest, earlier⟩
    · cases here
      refine ⟨u, run, ?_⟩
      rcases new with always | absent
      · simp [always]
      · simp [absent]
    · exact ih earlier

end Runs

structure Account (t : FileTree) (ledger : Ledger) (o : Output) : Prop where
  written : o.written = ledger.written.map Artifact.path
  skipped : o.skipped = ledger.skipped.map Artifact.path
  skips : ∀ before a skip after, ledger = before ++ (a, skip) :: after → (skip = true ↔
    a.overwrite = false ∧ ((t.get? a.path.place).isSome = true ∨
      ∃ b ∈ Ledger.written before, b.path.place = a.path.place ∨
        a.path.place <+: b.path.parent.place))
  last : ∀ before a after, ledger.written = before ++ a :: after →
    (∀ b ∈ after, b.path.place ≠ a.path.place) →
    o.tree.get? a.path.place = some (.file a.content.toUTF8)
  untouched : ∀ l content, t.get? l = some (.file content) →
    (∀ a ∈ ledger.artifacts, a.overwrite = true → a.path.place ≠ l) →
    o.tree.get? l = some (.file content)
  others : ∀ l, (∀ a ∈ ledger.written, a.path.place ≠ l) → o.tree.get? l =
    (t.get? l).or (if ∃ a ∈ ledger.written, l <+: a.path.parent.place then some .directory else none)

theorem Runs.account {t : FileTree} {ledger : Ledger} {o : Output} (run : Runs t ledger o.tree)
    (written : o.written = ledger.written.map Artifact.path)
    (skipped : o.skipped = ledger.skipped.map Artifact.path) : Account t ledger o := by
  have skips : ∀ before a skip after, ledger = before ++ (a, skip) :: after → (skip = true ↔
      a.overwrite = false ∧ ((t.get? a.path.place).isSome = true ∨
        ∃ b ∈ Ledger.written before, b.path.place = a.path.place ∨
          a.path.place <+: b.path.parent.place)) := by
    intro before a skip after row
    obtain ⟨s, earlier, decided⟩ := run.decided row
    rw [decided, earlier.there]
  have others : ∀ l, (∀ a ∈ ledger.written, a.path.place ≠ l) → o.tree.get? l =
      (t.get? l).or
        (if ∃ a ∈ ledger.written, l <+: a.path.parent.place then some .directory else none) := by
    intro l apart
    rw [run.holds, holding, lastAtNone.mpr apart, Option.map_none, Option.none_or]
  refine ⟨written, skipped, skips, fun before a after cut apart => ?_,
    fun l content found apart => ?_, others⟩
  · rw [run.holds, holding, cut, lastAtSplit apart]
    rfl
  · rw [others l fun a member here => ?_, found, Option.some_or]
    obtain ⟨before, after, row⟩ := List.append_of_mem (Ledger.memWritten.mp member)
    have listed : a ∈ ledger.artifacts := by
      rw [row]
      simp [Ledger.artifacts]
    have once : a.overwrite = false := by
      by_contra always
      exact apart a listed (by simpa using always) here
    have skip := (skips before a false after row).mpr ⟨once, .inl (by rw [here, found]; rfl)⟩
    cases skip

section Following
variable {t : FileTree} {cwd : Location} {a : Artifact} {artifacts : List Artifact}

theorem Output.writeOneLanding {o : Output} (wf : o.tree.WellFormed) (cwd : Location)
    (straight : a.path.Straight) (clean : o.failure = none) : (writeOne cwd o a).tree.WellFormed ∧
      ∃ fate, Landing o.tree a (writeOne cwd o a).tree fate ∧
        (writeOne cwd o a).failure = fate.failure? ∧
        (writeOne cwd o a).written = o.written ++ pathsOf Fate.isWritten [a] [fate] ∧
        (writeOne cwd o a).skipped = o.skipped ++ pathsOf Fate.isKept [a] [fate] := by
  obtain ⟨tree, written, skipped, failure⟩ :=
    writeOneSettle (writeTextStraight wf cwd straight) clean
  rw [tree]
  exact ⟨settleStraightWellFormed wf cwd straight, _, settleLanding wf straight rfl, failure,
    written, skipped⟩

theorem FileTree.Landing.fine {u : FileTree} {fate : Fate} (landing : Landing t a u fate) :
    fate.failure? = none ↔ a.Free t := by
  cases landing with
  | kept free _ _ => exact iff_of_true rfl free
  | written free _ _ => exact iff_of_true rfl free
  | failed blocked _ => exact iff_of_false (by simp [Fate.failure?]) blocked

theorem Output.writeAllAppend {o : Output} (clean : o.failure = none) (front rest : List Artifact) :
    writeAll cwd o (front ++ rest) = if (writeAll cwd o front).failure = none
      then writeAll cwd (writeAll cwd o front) rest else writeAll cwd o front := by
  induction front generalizing o with
  | nil => simp [writeAll, clean]
  | cons b front ih =>
    rw [List.cons_append, writeAll, writeAll]
    cases next : (writeOne cwd o b).failure with
    | some failure => simp [next]
    | none => exact ih next

theorem Output.writeAllFails {o : Output} {failure : Failure}
    (failed : (writeAll cwd o artifacts).failure = some failure) (clean : o.failure = none) :
    ∃ before b after, artifacts = before ++ b :: after ∧ (writeAll cwd o before).failure = none ∧
      (writeOne cwd (writeAll cwd o before) b).failure = some failure := by
  induction artifacts generalizing o with
  | nil => simp [writeAll, clean] at failed
  | cons b rest ih =>
    rw [writeAll] at failed
    cases next : (writeOne cwd o b).failure with
    | some fault =>
      rw [next] at failed
      exact ⟨[], b, rest, rfl, clean, next.trans (next.symm.trans failed)⟩
    | none =>
      rw [next] at failed
      obtain ⟨before, c, after, rfl, fine, stops⟩ := ih failed next
      refine ⟨b :: before, c, after, rfl, ?_⟩
      rw [writeAll, next]
      exact ⟨fine, stops⟩

theorem FileTree.writeArtifactsNext {before : List Artifact}
    (fine : (t.writeArtifacts cwd before).failure = none) (after : List Artifact) :
    t.writeArtifacts cwd (before ++ a :: after) =
      if (Output.writeOne cwd (t.writeArtifacts cwd before) a).failure = none
      then Output.writeAll cwd (Output.writeOne cwd (t.writeArtifacts cwd before) a) after
      else Output.writeOne cwd (t.writeArtifacts cwd before) a := by
  unfold writeArtifacts at fine ⊢
  rw [Output.writeAllAppend rfl, if_pos fine, Output.writeAll]
  cases next : (Output.writeOne cwd (Output.writeAll cwd { tree := t } before) a).failure <;> simp

theorem FileTree.writeArtifactsFine {before after : List Artifact}
    (fine : (t.writeArtifacts cwd (before ++ a :: after)).failure = none) :
    (t.writeArtifacts cwd before).failure = none ∧
      (Output.writeOne cwd (t.writeArtifacts cwd before) a).failure = none := by
  have early : (t.writeArtifacts cwd before).failure = none := by
    by_contra failed
    unfold writeArtifacts at fine failed
    rw [Output.writeAllAppend rfl, if_neg failed] at fine
    exact failed fine
  refine ⟨early, ?_⟩
  by_contra failed
  rw [writeArtifactsNext early, if_neg failed] at fine
  exact failed fine

theorem FileTree.writeArtifactsRuns (wf : t.WellFormed)
    (straight : ∀ a ∈ artifacts, a.path.Straight)
    (fine : (t.writeArtifacts cwd artifacts).failure = none) :
    (t.writeArtifacts cwd artifacts).tree.WellFormed ∧
      ∃ ledger : Ledger, ledger.artifacts = artifacts ∧
        Runs t ledger (t.writeArtifacts cwd artifacts).tree ∧
        (t.writeArtifacts cwd artifacts).written = ledger.written.map Artifact.path ∧
        (t.writeArtifacts cwd artifacts).skipped = ledger.skipped.map Artifact.path := by
  induction artifacts using List.reverseRecOn with
  | nil => exact ⟨wf, [], rfl, .nil, rfl, rfl⟩
  | append_singleton front a ih =>
    obtain ⟨early, here⟩ := writeArtifactsFine fine
    obtain ⟨wf', ledger, rfl, run, written, skipped⟩ :=
      ih (fun b member => straight b (List.mem_append_left _ member)) early
    obtain ⟨well, fate, landing, failure, wrote, passed⟩ :=
      Output.writeOneLanding wf' cwd (straight a (by simp)) early
    rw [writeArtifactsNext early, if_pos here]
    simp only [Output.writeAll]
    rw [wrote, passed, written, skipped]
    refine ⟨well, ?_⟩
    generalize (Output.writeOne cwd (t.writeArtifacts cwd ledger.artifacts) a).tree = u at landing ⊢
    cases landing with
    | kept _ once there =>
      exact ⟨ledger ++ [(a, true)], by simp [Ledger.artifacts], .skip run once there,
        by simp [Ledger.written, pathsOf, Fate.isWritten],
        by simp [Ledger.skipped, pathsOf, Fate.isKept]⟩
    | written _ new put =>
      exact ⟨ledger ++ [(a, false)], by simp [Ledger.artifacts], .write run new put,
        by simp [Ledger.written, pathsOf, Fate.isWritten],
        by simp [Ledger.skipped, pathsOf, Fate.isKept]⟩
    | failed blocked _ =>
      rw [here] at failure
      simp [Fate.failure?] at failure

structure StopsAt (t : FileTree) (cwd : Location) (artifacts before : List Artifact) (a : Artifact) :
    Prop where
  fine : (t.writeArtifacts cwd before).failure = none
  blocked : ¬ a.Free (t.writeArtifacts cwd before).tree
  files : ∀ l content, (t.writeArtifacts cwd artifacts).tree.get? l = some (.file content) ↔
    (t.writeArtifacts cwd before).tree.get? l = some (.file content)
  rest : ∀ later, t.writeArtifacts cwd (before ++ a :: later) = t.writeArtifacts cwd artifacts

theorem FileTree.writeArtifactsStop (wf : t.WellFormed) (straight : ∀ a ∈ artifacts, a.path.Straight)
    {failure : Failure} (failed : (t.writeArtifacts cwd artifacts).failure = some failure) :
    ∃ before a after, artifacts = before ++ a :: after ∧ StopsAt t cwd artifacts before a := by
  obtain ⟨before, a, after, rfl, fine, stops⟩ := Output.writeAllFails failed rfl
  have stopped : (Output.writeOne cwd (t.writeArtifacts cwd before) a).failure ≠ none := by
    rw [writeArtifacts, stops]
    simp
  have wf' := (writeArtifactsRuns wf
    (fun b member => straight b (List.mem_append_left _ member)) fine).1
  obtain ⟨_, fate, landing, failure, _, _⟩ :=
    Output.writeOneLanding wf' cwd (straight a (by simp)) fine
  have ends (later : List Artifact) : t.writeArtifacts cwd (before ++ a :: later) =
      Output.writeOne cwd (t.writeArtifacts cwd before) a := by
    rw [writeArtifactsNext fine, if_neg stopped]
  rw [failure, ne_eq, landing.fine] at stopped
  refine ⟨before, a, after, rfl, fine, stopped, fun l content => ?_,
    fun later => (ends later).trans (ends after).symm⟩
  rw [ends]
  generalize (Output.writeOne cwd (t.writeArtifacts cwd before) a).tree = u at landing ⊢
  cases landing with
  | kept free _ _ => exact absurd free stopped
  | written free _ _ => exact absurd free stopped
  | failed _ files => exact files l content

theorem FileTree.writeArtifactsFree (wf : t.WellFormed) (straight : ∀ a ∈ artifacts, a.path.Straight)
    (fine : (t.writeArtifacts cwd artifacts).failure = none) {before after : List Artifact}
    (cut : artifacts = before ++ a :: after) : a.Free (t.writeArtifacts cwd before).tree := by
  subst cut
  obtain ⟨early, here⟩ := writeArtifactsFine fine
  have wf' := (writeArtifactsRuns wf
    (fun b member => straight b (List.mem_append_left _ member)) early).1
  obtain ⟨_, fate, landing, failure, _, _⟩ :=
    Output.writeOneLanding wf' cwd (straight a (by simp)) early
  exact landing.fine.mp (failure.symm.trans here)

theorem FileTree.writeArtifactsAccount (wf : t.WellFormed)
    (straight : ∀ a ∈ artifacts, a.path.Straight)
    (fine : (t.writeArtifacts cwd artifacts).failure = none) : ∃ ledger : Ledger,
      ledger.artifacts = artifacts ∧ Account t ledger (t.writeArtifacts cwd artifacts) := by
  obtain ⟨_, ledger, same, run, written, skipped⟩ := writeArtifactsRuns wf straight fine
  exact ⟨ledger, same, run.account written skipped⟩

end Following

/- A list of artifacts fails exactly at the first one that cannot pass. Without one, every artifact is
written or skipped as the account says; with one, so are those before it, and nothing else counts. -/
theorem artifactsAccounted {t : FileTree} (wf : t.WellFormed) (cwd : Location)
    {artifacts : List Artifact} (straight : ∀ a ∈ artifacts, a.path.Straight) :
    ((t.writeArtifacts cwd artifacts).failure = none ↔
      ∀ before a after, artifacts = before ++ a :: after →
        a.Free (t.writeArtifacts cwd before).tree) ∧
    ((t.writeArtifacts cwd artifacts).failure = none → ∃ ledger : Ledger,
      ledger.artifacts = artifacts ∧ Account t ledger (t.writeArtifacts cwd artifacts)) ∧
    (∀ failure, (t.writeArtifacts cwd artifacts).failure = some failure →
      ∃ before a after, artifacts = before ++ a :: after ∧ StopsAt t cwd artifacts before a ∧
        ∃ ledger : Ledger, ledger.artifacts = before ∧
          Account t ledger (t.writeArtifacts cwd before)) := by
  refine ⟨⟨fun fine before a after cut => writeArtifactsFree wf straight fine cut, fun free => ?_⟩,
    writeArtifactsAccount wf straight, fun failure failed => ?_⟩
  · by_contra failed
    obtain ⟨failure, failed⟩ := Option.ne_none_iff_exists'.mp failed
    obtain ⟨before, a, after, cut, stop⟩ := writeArtifactsStop wf straight failed
    exact stop.blocked (free before a after cut)
  · obtain ⟨before, a, after, rfl, stop⟩ := writeArtifactsStop wf straight failed
    exact ⟨before, a, after, rfl, stop, writeArtifactsAccount wf
      (fun b member => straight b (List.mem_append_left _ member)) stop.fine⟩

def shelf : FileTree :=
  (({} : FileTree).put ["w"] .directory).put ["w", "old"] (.file "old".toUTF8)

def shelfFiles : List Artifact := [
  { path := .ofText "/w/a/x", content := "1", overwrite := false },
  { path := .ofText "/w/a", content := "2", overwrite := false },
  { path := .ofText "/w/a/x", content := "3", overwrite := false },
  { path := .ofText "/w/a/x", content := "4" },
  { path := .ofText "/w/old", content := "5", overwrite := false },
  { path := .ofText "/", content := "6", overwrite := false }]

def lostFiles : List Artifact :=
  [{ path := .ofText "/w", content := "7" }, { path := .ofText "/w/new", content := "8" }]

theorem shelfWellFormed : shelf.WellFormed := by
  have empty : ({} : FileTree).WellFormed := emptyWellFormed
  have first : (({} : FileTree).put ([] ++ ["w"]) .directory).WellFormed :=
    putWellFormed empty rfl fun _ => rfl
  exact putWellFormed (l := ["w"]) first (by decide +kernel) (by decide +kernel)

theorem shelfAccounted : shelf.WellFormed ∧ (∀ a ∈ shelfFiles ++ lostFiles, a.path.Straight) ∧
    (shelf.writeArtifacts [] shelfFiles).written.map Path.text = ["/w/a/x", "/w/a/x"] ∧
    (shelf.writeArtifacts [] shelfFiles).skipped.map Path.text =
      ["/w/a", "/w/a/x", "/w/old", "/"] ∧
    (∃ ledger : Ledger, ledger.artifacts = shelfFiles ∧
      Account shelf ledger (shelf.writeArtifacts [] shelfFiles)) ∧
    ∃ before a after, shelfFiles ++ lostFiles = before ++ a :: after ∧
      StopsAt shelf [] (shelfFiles ++ lostFiles) before a ∧
      ∃ ledger : Ledger, ledger.artifacts = before ∧
        Account shelf ledger (shelf.writeArtifacts [] before) := by
  have straight : ∀ a ∈ shelfFiles ++ lostFiles, a.path.Straight := by decide +kernel
  have fine : (shelf.writeArtifacts [] shelfFiles).failure = none :=
    Option.isNone_iff_eq_none.mp (by decide +kernel)
  have failed : (shelf.writeArtifacts [] (shelfFiles ++ lostFiles)).failure.isSome = true := by
    decide +kernel
  obtain ⟨failure, failed⟩ := Option.isSome_iff_exists.mp failed
  refine ⟨shelfWellFormed, straight, by decide +kernel, by decide +kernel, ?_, ?_⟩
  · exact (artifactsAccounted shelfWellFormed []
      fun a member => straight a (List.mem_append_left _ member)).2.1 fine
  · exact (artifactsAccounted shelfWellFormed [] straight).2.2 failure failed

end EntityForge
