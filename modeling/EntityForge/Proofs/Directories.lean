import EntityForge.FileTree
import Mathlib.Data.List.Induction

/-! Directories of well-formed trees. Making a directory with everything above it is one walk
from the root down: `lay`. It stops at the first file or overlong name and keeps what it made, so
the walk says at once what a second attempt and an attempt in a larger tree do. -/
namespace EntityForge.FileTree

def WellFormed (t : FileTree) : Prop :=
  ∀ l name e, t.get? (l ++ [name]) = some e → t.get? l = some .directory

theorem rootDirectory (t : FileTree) : t.get? [] = some .directory := rfl

theorem getPut {t : FileTree} {l m : Location} {name : String} {e : Entry} :
    (t.put (l ++ [name]) e).get? m = if m = l ++ [name] then some e else t.get? m := by
  by_cases root : m = []
  · subst root
    simp [get?]
  · exact putGet t (l ++ [name]) m e root

theorem parentDirectory {t : FileTree} (wf : t.WellFormed) {l : Location} {e : Entry}
    (found : t.get? l = some e) : t.get? l.dropLast = some .directory := by
  rcases List.eq_nil_or_concat l with rfl | ⟨parent, name, rfl⟩
  · rfl
  · rw [List.concat_eq_append] at found ⊢
    rw [List.dropLast_concat]
    exact wf parent name e found

theorem prefixDirectory {t : FileTree} (wf : t.WellFormed) {l rest : Location}
    (found : t.get? (l ++ rest) = some .directory) : t.get? l = some .directory := by
  induction rest using List.reverseRecOn with
  | nil => simpa using found
  | append_singleton rest name ih =>
    rw [← List.append_assoc] at found
    exact ih (wf _ name _ found)

theorem putWellFormed {t : FileTree} (wf : t.WellFormed) {l : Location} {name : String} {e : Entry}
    (parent : t.get? l = some .directory)
    (stays : t.get? (l ++ [name]) = some .directory → e = .directory) :
    (t.put (l ++ [name]) e).WellFormed := by
  intro m last found here
  rw [getPut] at here ⊢
  by_cases same : m = l ++ [name]
  · subst same
    have longer : l ++ [name] ++ [last] ≠ l ++ [name] := by simp
    rw [if_neg longer] at here
    rw [if_pos rfl, stays (wf _ _ _ here)]
  · rw [if_neg same]
    by_cases new : m ++ [last] = l ++ [name]
    · obtain ⟨rfl, _⟩ := List.append_inj' new rfl
      exact parent
    · rw [if_neg new] at here
      exact wf _ _ _ here

/- A tree grows when nothing vanishes and no file becomes a directory or the reverse. Contents of
files may change. -/
def Grows (t u : FileTree) : Prop :=
  (∀ l, t.get? l = some .directory → u.get? l = some .directory) ∧
  ∀ l content, t.get? l = some (.file content) → ∃ later, u.get? l = some (.file later)

theorem Grows.refl (t : FileTree) : t.Grows t := ⟨fun _ h => h, fun _ content h => ⟨content, h⟩⟩

theorem Grows.trans {t u v : FileTree} (first : t.Grows u) (second : u.Grows v) : t.Grows v := by
  refine ⟨fun l h => second.1 l (first.1 l h), fun l content h => ?_⟩
  obtain ⟨middle, hm⟩ := first.2 l content h
  exact second.2 l middle hm

theorem Grows.present {t u : FileTree} (grows : t.Grows u) {l : Location} {e : Entry}
    (found : t.get? l = some e) : ∃ later, u.get? l = some later := by
  cases e with
  | directory => exact ⟨_, grows.1 l found⟩
  | file content =>
    obtain ⟨later, h⟩ := grows.2 l content found
    exact ⟨_, h⟩

theorem growsOfSame {t u v : FileTree} (grows : t.Grows u) (same : ∀ l, v.get? l = u.get? l) :
    t.Grows v := by
  refine ⟨fun l h => (same l).trans (grows.1 l h), fun l content h => ?_⟩
  obtain ⟨later, hl⟩ := grows.2 l content h
  exact ⟨later, (same l).trans hl⟩

theorem wellFormedOfSame {t u : FileTree} (wf : t.WellFormed) (same : ∀ l, u.get? l = t.get? l) :
    u.WellFormed := by
  intro l name e found
  rw [same] at found ⊢
  exact wf l name e found

theorem growsPutDirectory {t : FileTree} {l : Location} {name : String}
    (free : t.get? (l ++ [name]) = none) : t.Grows (t.put (l ++ [name]) .directory) := by
  constructor
  · intro m found
    rw [getPut]
    split
    · rfl
    · exact found
  · intro m content found
    have other : m ≠ l ++ [name] := by rintro rfl; simp [free] at found
    exact ⟨content, by rw [getPut, if_neg other]; exact found⟩

theorem growsPutFile {t : FileTree} {l : Location} {name : String} {content : ByteArray}
    (noDirectory : t.get? (l ++ [name]) ≠ some .directory) :
    t.Grows (t.put (l ++ [name]) (.file content)) := by
  constructor
  · intro m found
    have other : m ≠ l ++ [name] := by rintro rfl; exact noDirectory found
    rw [getPut, if_neg other]
    exact found
  · intro m old found
    rw [getPut]
    split
    · exact ⟨content, rfl⟩
    · exact ⟨old, found⟩

def way (l : Location) : List String → List Location
  | [] => []
  | name :: rest => Path.step l name :: way (Path.step l name) rest

theorem wayAppend (l : Location) (names more : List String) :
    way l (names ++ more) = way l names ++ way (names.foldl Path.step l) more := by
  induction names generalizing l with
  | nil => rfl
  | cons name rest ih => simp [way, ih]

def lay (t : FileTree) (l : Location) : List String → FileTree × Bool
  | [] => (t, true)
  | name :: rest =>
    if name = ".." then lay t l.dropLast rest
    else if fits name then
      match t.get? (l ++ [name]) with
      | some (.file _) => (t, false)
      | some .directory => lay t (l ++ [name]) rest
      | none => lay (t.put (l ++ [name]) .directory) (l ++ [name]) rest
    else (t, false)

theorem stepName {name : String} (plain : name ≠ "..") (l : Location) :
    Path.step l name = l ++ [name] := if_neg plain

/- What the walk makes: well-formedness stays, the tree only grows, and all that is new are
directories on the way. -/
structure Laid (t u : FileTree) (l : Location) (names : List String) : Prop where
  wellFormed : u.WellFormed
  grows : t.Grows u
  news : ∀ m, u.get? m = t.get? m ∨
    (t.get? m = none ∧ u.get? m = some .directory ∧ m ∈ way l names)

theorem layLaid {t : FileTree} (wf : t.WellFormed) {l : Location} (here : t.get? l = some .directory)
    (names : List String) : Laid t (t.lay l names).1 l names := by
  induction names generalizing t l with
  | nil => exact ⟨wf, .refl t, fun _ => .inl rfl⟩
  | cons name rest ih =>
    unfold lay
    split
    next back =>
      subst back
      have inner := ih wf (parentDirectory wf here)
      refine ⟨inner.wellFormed, inner.grows, fun m => (inner.news m).imp_right fun new => ?_⟩
      exact ⟨new.1, new.2.1, List.mem_cons_of_mem _ new.2.2⟩
    next plain =>
      split
      next fit =>
        split
        next content found => exact ⟨wf, .refl t, fun _ => .inl rfl⟩
        next found =>
          have inner := ih wf found
          rw [← stepName plain l] at inner ⊢
          refine ⟨inner.wellFormed, inner.grows, fun m => (inner.news m).imp_right fun new => ?_⟩
          exact ⟨new.1, new.2.1, List.mem_cons_of_mem _ new.2.2⟩
        -- the directory is made here, so it is new and on the way
        next free =>
          have made : (t.put (l ++ [name]) .directory).get? (l ++ [name]) = some .directory := by
            simp [getPut]
          have inner := ih (putWellFormed wf here fun _ => rfl) made
          refine ⟨inner.wellFormed, (growsPutDirectory free).trans inner.grows, fun m => ?_⟩
          by_cases new : m = l ++ [name]
          · subst new
            refine .inr ⟨free, inner.grows.1 _ made, ?_⟩
            rw [way, stepName plain]
            exact List.mem_cons_self
          · rcases inner.news m with old | ⟨absent, present, onWay⟩
            · exact .inl (by rw [old, getPut, if_neg new])
            · rw [getPut, if_neg new] at absent
              refine .inr ⟨absent, present, ?_⟩
              rw [way, stepName plain]
              exact List.mem_cons_of_mem _ onWay
      next => exact ⟨wf, .refl t, fun _ => .inl rfl⟩

theorem layKeeps {t : FileTree} (wf : t.WellFormed) {l : Location} (here : t.get? l = some .directory)
    {names : List String} {m : Location} {e : Entry} (found : t.get? m = some e) :
    (t.lay l names).1.get? m = some e := by
  rcases (layLaid wf here names).news m with same | ⟨absent, _, _⟩
  · rw [same, found]
  · simp [absent] at found

theorem layReaches {t : FileTree} (wf : t.WellFormed) {l : Location}
    (here : t.get? l = some .directory) {names : List String} (through : (t.lay l names).2 = true)
    {m : Location} (onWay : m ∈ way l names) : (t.lay l names).1.get? m = some .directory := by
  induction names generalizing t l with
  | nil => simp [way] at onWay
  | cons name rest ih =>
    unfold lay at through ⊢
    split at through
    next back =>
      subst back
      have up := parentDirectory wf here
      simp only [if_pos]
      rcases List.mem_cons.mp onWay with rfl | later
      · exact layKeeps wf up up
      · exact ih wf up through later
    next plain =>
      rw [if_neg plain]
      rw [way, stepName plain] at onWay
      split at through
      next fit =>
        rw [if_pos fit]
        split at through
        next content found => simp at through
        next found =>
          rcases List.mem_cons.mp onWay with rfl | later
          · exact layKeeps wf found found
          · exact ih wf found through later
        next free =>
          have wf' : (t.put (l ++ [name]) .directory).WellFormed := putWellFormed wf here fun _ => rfl
          have made : (t.put (l ++ [name]) .directory).get? (l ++ [name]) = some .directory := by
            simp [getPut]
          rcases List.mem_cons.mp onWay with rfl | later
          · exact layKeeps wf' made made
          · exact ih wf' made through later
      next => simp at through

theorem layAgain {t u : FileTree} (wf : t.WellFormed) {l : Location}
    (here : t.get? l = some .directory) {names : List String}
    (grows : (t.lay l names).1.Grows u) : u.lay l names = (u, (t.lay l names).2) := by
  induction names generalizing t l with
  | nil => rfl
  | cons name rest ih =>
    unfold lay at grows ⊢
    split at grows
    next back => rw [if_pos back, if_pos back]; exact ih wf (parentDirectory wf here) grows
    next plain =>
      rw [if_neg plain, if_neg plain]
      split at grows
      next fit =>
        rw [if_pos fit, if_pos fit]
        split at grows
        next content found =>
          obtain ⟨later, stays⟩ := grows.2 _ content found
          rw [stays]
        next found =>
          have stays := grows.1 _ (layKeeps wf found found)
          rw [stays]
          exact ih wf found grows
        next free =>
          have wf' : (t.put (l ++ [name]) .directory).WellFormed := putWellFormed wf here fun _ => rfl
          have made : (t.put (l ++ [name]) .directory).get? (l ++ [name]) = some .directory := by
            simp [getPut]
          have stays := grows.1 _ (layKeeps wf' made made)
          rw [stays]
          exact ih wf' made grows
      next blocked => rw [if_neg blocked, if_neg blocked]

end EntityForge.FileTree
