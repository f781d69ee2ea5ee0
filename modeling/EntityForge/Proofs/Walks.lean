import EntityForge.Output
import EntityForge.Proofs.Directories

/-! File operations on absolute paths as walks. Following a path, making directories from the last
name up and writing below them all agree with the walk `lay` from the root. -/
namespace EntityForge.FileTree

def reach (t : FileTree) (l : Location) : List String → Except Obstacle Location
  | [] => .ok l
  | name :: rest =>
    match t.enter l name with
    | .ok inner => reach t inner rest
    | .error obstacle => .error obstacle

theorem followSnoc (t : FileTree) (l : Location) (names : List String) (name : String) :
    t.follow l (names ++ [name]) =
      match t.reach l names with
      | .ok inner => t.follow inner [name]
      | .error obstacle => .error obstacle := by
  induction names generalizing l with
  | nil => rfl
  | cons head rest ih =>
    obtain ⟨next, more, shape⟩ : ∃ next more, rest ++ [name] = next :: more := by
      cases rest with
      | nil => exact ⟨name, [], rfl⟩
      | cons next more => exact ⟨next, more ++ [name], rfl⟩
    rw [List.cons_append, shape, follow, reach, ← shape]
    · cases t.enter l head with
      | ok inner => exact ih inner
      | error obstacle => rfl
    · simp

theorem reachSnoc (t : FileTree) (l : Location) (names : List String) (name : String) :
    t.reach l (names ++ [name]) =
      match t.reach l names with
      | .ok inner => t.enter inner name
      | .error obstacle => .error obstacle := by
  induction names generalizing l with
  | nil =>
    simp only [List.nil_append, reach]
    cases t.enter l name <;> rfl
  | cons head rest ih =>
    rw [List.cons_append, reach, reach]
    cases t.enter l head with
    | ok inner => exact ih inner
    | error obstacle => rfl

theorem enterPlain {t : FileTree} {l : Location} {name : String} (plain : name ≠ "..")
    (fit : fits name = true) :
    t.enter l name = match t.get? (l ++ [name]) with
      | none => .error .missing
      | some (.file _) => .error .notDirectory
      | some .directory => .ok (l ++ [name]) := by
  simp only [enter, if_neg plain, fit]
  rfl

theorem enterLong {t : FileTree} {l : Location} {name : String} (plain : name ≠ "..")
    (long : ¬ fits name = true) : t.enter l name = .error .longName := by
  simp [enter, plain, long]

theorem reachOk {t : FileTree} (wf : t.WellFormed) {l inner : Location}
    (here : t.get? l = some .directory) {names : List String} (ok : t.reach l names = .ok inner) :
    t.lay l names = (t, true) ∧ inner = names.foldl Path.step l ∧ t.get? inner = some .directory := by
  induction names generalizing l with
  | nil =>
    cases ok
    exact ⟨rfl, rfl, here⟩
  | cons name rest ih =>
    unfold reach at ok
    by_cases back : name = ".."
    · subst back
      exact ih (parentDirectory wf here) ok
    · by_cases fit : fits name = true
      · rw [enterPlain back fit] at ok
        rw [lay, if_neg back, if_pos fit, List.foldl_cons, stepName back]
        cases found : t.get? (l ++ [name]) with
        | none => simp [found] at ok
        | some e =>
          cases e with
          | file content => simp [found] at ok
          | directory =>
            rw [found] at ok
            exact ih found ok
      · rw [enterLong back fit] at ok
        cases ok

theorem reachOfLay {t : FileTree} (wf : t.WellFormed) {l : Location}
    (here : t.get? l = some .directory) {names : List String} (done : t.lay l names = (t, true)) :
    t.reach l names = .ok (names.foldl Path.step l) := by
  induction names generalizing l with
  | nil => rfl
  | cons name rest ih =>
    rw [reach, List.foldl_cons]
    by_cases back : name = ".."
    · subst back
      exact ih (parentDirectory wf here) done
    · have through : (t.lay l (name :: rest)).2 = true := by rw [done]
      have found := layReaches wf here through List.mem_cons_self
      rw [done, stepName back] at found
      rw [lay, if_neg back, found] at done
      by_cases fit : fits name = true
      · rw [if_pos fit] at done
        rw [enterPlain back fit, found, stepName back]
        exact ih found done
      · simp [fit] at done

theorem reachBlocked {t : FileTree} (wf : t.WellFormed) {l : Location}
    (here : t.get? l = some .directory) {names : List String} {obstacle : Obstacle}
    (stop : t.reach l names = .error obstacle) (blocked : obstacle ≠ .missing) :
    t.lay l names = (t, false) := by
  induction names generalizing l with
  | nil => cases stop
  | cons name rest ih =>
    unfold reach at stop
    by_cases back : name = ".."
    · subst back
      exact ih (parentDirectory wf here) stop
    · rw [lay, if_neg back]
      by_cases fit : fits name = true
      · rw [enterPlain back fit] at stop
        rw [if_pos fit]
        cases found : t.get? (l ++ [name]) with
        | none =>
          rw [found] at stop
          cases stop
          exact absurd rfl blocked
        | some e =>
          cases e with
          | file content => rfl
          | directory =>
            rw [found] at stop
            exact ih found stop
      · rw [if_neg fit]

theorem layAppend (t : FileTree) (l : Location) (names more : List String) :
    t.lay l (names ++ more) =
      if (t.lay l names).2 then (t.lay l names).1.lay (names.foldl Path.step l) more
      else ((t.lay l names).1, false) := by
  induction names generalizing t l with
  | nil => rfl
  | cons name rest ih =>
    rw [List.cons_append, lay, lay, List.foldl_cons]
    by_cases back : name = ".."
    · subst back
      exact ih t l.dropLast
    · rw [if_neg back, if_neg back, stepName back]
      by_cases fit : fits name = true
      · rw [if_pos fit, if_pos fit]
        cases t.get? (l ++ [name]) with
        | none => exact ih _ _
        | some e =>
          cases e with
          | file content => rfl
          | directory => exact ih _ _
      · rw [if_neg fit, if_neg fit]
        rfl

theorem locateAbsolute (t : FileTree) (cwd : Location) {anchor : Anchor} (absolute : anchor ≠ .relative)
    (names : List String) (name : String) :
    t.locate cwd ⟨anchor, names ++ [name]⟩ =
      match t.reach [] names with
      | .ok inner => t.follow inner [name]
      | .error obstacle => .error obstacle := by
  rw [locate, if_neg absolute]
  exact followSnoc t [] names name

theorem makeReached {t : FileTree} (wf : t.WellFormed) (cwd : Location) {anchor : Anchor}
    (absolute : anchor ≠ .relative) {names : List String} (name : String) {inner : Location}
    (reached : t.reach [] names = .ok inner) :
    (∃ made, t.makeDirectory cwd ⟨anchor, names ++ [name]⟩ = .ok made ∧
      t.lay inner [name] = (made, true)) ∨
    (∃ obstacle, t.makeDirectory cwd ⟨anchor, names ++ [name]⟩ = .error obstacle ∧
      obstacle ≠ .missing ∧
      t.lay inner [name] = (t, t.isDirectory cwd ⟨anchor, names ++ [name]⟩)) := by
  have here := (reachOk wf (rootDirectory t) reached).2.2
  rw [makeDirectory, isDirectory, stat, locateAbsolute t cwd absolute, reached]
  by_cases back : name = ".."
  · subst back
    have above := parentDirectory wf here
    refine .inr ⟨.occupied, ?_, by simp, ?_⟩ <;> simp [follow, lay, above]
  · by_cases fit : fits name = true
    · simp only [follow, if_neg back, if_pos fit, lay]
      cases found : t.get? (inner ++ [name]) with
      | none => exact .inl ⟨_, rfl, rfl⟩
      | some e =>
        refine .inr ⟨.occupied, rfl, by simp, ?_⟩
        cases e <;> rfl
    · refine .inr ⟨.longName, ?_, by simp, ?_⟩ <;> simp [follow, lay, back, fit]

theorem makeDirectoriesLay {t : FileTree} (wf : t.WellFormed) (cwd : Location) {anchor : Anchor}
    (absolute : anchor ≠ .relative) (names : List String) :
    (t.makeDirectories cwd anchor names.reverse).1 = (t.lay [] names).1 ∧
      ((t.makeDirectories cwd anchor names.reverse).2 = none ↔ (t.lay [] names).2 = true) := by
  -- a directory is tried first, and those above it only if one of them is missing: so the induction
  -- takes names off the end
  induction names using List.reverseRecOn with
  | nil => simp [makeDirectories, lay]
  | append_singleton front name ih =>
    rw [List.reverse_append, List.reverse_singleton, List.singleton_append, makeDirectories,
      List.reverse_cons, List.reverse_reverse, layAppend]
    cases reached : t.reach [] front with
    | ok inner =>
      obtain ⟨laid, rfl, _⟩ := reachOk wf (rootDirectory t) reached
      rw [laid]
      rcases makeReached wf cwd absolute name reached with
        ⟨made, ok, laid⟩ | ⟨obstacle, error, solid, laid⟩
      · simp [ok, laid]
      · rw [error]
        cases obstacle <;> simp_all
    | error obstacle =>
      have stuck : t.makeDirectory cwd ⟨anchor, front ++ [name]⟩ = .error obstacle := by
        rw [makeDirectory, locateAbsolute t cwd absolute, reached]
      have nowhere : t.isDirectory cwd ⟨anchor, front ++ [name]⟩ = false := by
        rw [isDirectory, stat, locateAbsolute t cwd absolute, reached]
      rw [stuck]
      -- only a missing name is made above, any other obstacle stops both walks alike
      by_cases missing : obstacle = .missing
      · subst missing
        have laid := layLaid wf (rootDirectory t) front
        cases above : t.makeDirectories cwd anchor front.reverse with
        | mk u result =>
          rw [above] at ih
          obtain ⟨rfl, clear⟩ := ih
          cases result with
          | some obstacle =>
            have stopped : (t.lay [] front).2 = false := by simpa using clear
            simp [stopped]
          | none =>
            have through : (t.lay [] front).2 = true := clear.mp rfl
            have again := layAgain wf (rootDirectory t) (Grows.refl (t.lay [] front).1)
            rw [through] at again ⊢
            have reached := reachOfLay laid.wellFormed (rootDirectory _) again
            rcases makeReached laid.wellFormed cwd absolute name reached with
              ⟨made, ok, last⟩ | ⟨obstacle, error, solid, last⟩
            · simp [ok, last]
            · dsimp only
              rw [error]
              cases obstacle <;> simp_all
      · rw [reachBlocked wf (rootDirectory t) reached missing]
        cases obstacle <;> simp_all

end EntityForge.FileTree
