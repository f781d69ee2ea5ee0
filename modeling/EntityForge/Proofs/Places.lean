import EntityForge.InputFiles
import EntityForge.Proofs.Walks
import Mathlib.Data.List.Nodup
import Mathlib.Data.List.Perm.Subperm

/-! Places in a file tree, as a search sees them. A place is a directory if all its names can be
entered; then what it lists is what is there, and nothing is there below any other place. -/
namespace EntityForge

structure ProperName (s : String) : Prop where
  some : s ≠ ""
  here : s ≠ "."
  up : s ≠ ".."
  whole : '/' ∉ s.toList
  clean : '\x00' ∉ s.toList
  fits : FileTree.fits s = true

instance (s : String) : Decidable (ProperName s) :=
  decidable_of_iff (s ≠ "" ∧ s ≠ "." ∧ s ≠ ".." ∧ '/' ∉ s.toList ∧ '\x00' ∉ s.toList ∧
      FileTree.fits s = true)
    ⟨fun ⟨one, here, up, whole, clean, fits⟩ => ⟨one, here, up, whole, clean, fits⟩,
      fun ⟨one, here, up, whole, clean, fits⟩ => ⟨one, here, up, whole, clean, fits⟩⟩

namespace FileTree
variable {t : FileTree} {l : Location} {name : String} {e : Entry}

/- A tree as a disk holds it: directories above everything, one entry for a location, and names that
can be names. -/
structure Sound (t : FileTree) : Prop where
  wellFormed : t.WellFormed
  apart : (t.entries.map Prod.fst).Nodup
  named : ∀ entry ∈ t.entries, ∀ name ∈ entry.1, ProperName name

theorem getMember (found : t.get? l = some e) (some : l ≠ []) : (l, e) ∈ t.entries := by
  rw [get?, if_neg some] at found
  obtain ⟨front, back, split, _⟩ := List.lookup_eq_some_iff.mp found
  rw [split]
  simp

theorem getSome (there : (l, e) ∈ t.entries) : ∃ e', t.get? l = .some e' := by
  unfold get?
  split
  · exact ⟨_, rfl⟩
  · exact Option.isSome_iff_exists.mp (List.lookup_isSome_iff.mpr ⟨_, there, by simp⟩)

theorem wellFormedIff :
    t.WellFormed ↔ ∀ entry ∈ t.entries, t.get? entry.1.dropLast = some .directory := by
  constructor
  · rintro wf ⟨l, e⟩ there
    obtain ⟨e', found⟩ := getSome there
    exact parentDirectory wf found
  · intro parents l name e found
    simpa using parents _ (getMember found (by simp))

instance (t : FileTree) : Decidable t.Sound :=
  decidable_of_iff ((∀ entry ∈ t.entries, t.get? entry.1.dropLast = some .directory) ∧
      (t.entries.map Prod.fst).Nodup ∧ ∀ entry ∈ t.entries, ∀ name ∈ entry.1, ProperName name)
    ⟨fun ⟨parents, apart, named⟩ => ⟨wellFormedIff.mpr parents, apart, named⟩,
      fun ⟨wf, apart, named⟩ => ⟨wellFormedIff.mp wf, apart, named⟩⟩

theorem Sound.proper (sound : t.Sound) (found : t.get? l = some e) : ∀ name ∈ l, ProperName name := by
  by_cases root : l = []
  · simp [root]
  · exact sound.named _ (getMember found root)

def nameBelow? (l location : Location) : Option String :=
  if location ≠ [] ∧ location.dropLast = l then location.getLast? else none

theorem nameBelowIff {location : Location} : nameBelow? l location = .some name ↔
    location = l ++ [name] := by
  unfold nameBelow?
  constructor
  · intro chosen
    split at chosen
    next below =>
      rw [← below.2]
      exact (List.dropLast_append_getLast? name chosen).symm
    next => cases chosen
  · rintro rfl
    simp

theorem childrenBelow (t : FileTree) (l : Location) :
    t.children l = (t.entries.map Prod.fst).filterMap (nameBelow? l) := by
  rw [List.filterMap_map]
  rfl

theorem memberChildren : name ∈ t.children l ↔ ∃ e, t.get? (l ++ [name]) = .some e := by
  rw [childrenBelow, List.mem_filterMap]
  constructor
  · rintro ⟨location, listed, chosen⟩
    obtain ⟨⟨_, e⟩, there, rfl⟩ := List.mem_map.mp listed
    obtain rfl := nameBelowIff.mp chosen
    exact getSome there
  · rintro ⟨e, found⟩
    exact ⟨l ++ [name], List.mem_map_of_mem (getMember found (by simp)), nameBelowIff.mpr rfl⟩

theorem Sound.childrenApart (sound : t.Sound) (l : Location) : (t.children l).Nodup := by
  rw [childrenBelow]
  refine sound.apart.filterMap fun location other name one two => ?_
  rw [nameBelowIff.mp one, nameBelowIff.mp two]

theorem Sound.child (sound : t.Sound) (listed : name ∈ t.children l) : ProperName name := by
  obtain ⟨e, found⟩ := memberChildren.mp listed
  exact sound.proper found name (by simp)

theorem frontThere (wf : t.WellFormed) {front rest : Location}
    (found : t.get? (front ++ rest) = .some e) (more : rest ≠ []) :
    t.get? front = .some .directory := by
  obtain ⟨inner, last, rfl⟩ := (List.eq_nil_or_concat rest).resolve_left more
  rw [List.concat_eq_append, ← List.append_assoc] at found
  exact prefixDirectory wf (wf _ _ _ found)

theorem Sound.depth (sound : t.Sound) (found : t.get? l = .some e) :
    l.length ≤ t.entries.length := by
  have fronts : (List.range l.length).map (fun n => l.take (n + 1)) ⊆ t.entries.map Prod.fst := by
    intro front member
    obtain ⟨n, short, rfl⟩ := List.mem_map.mp member
    have some : l.take (n + 1) ≠ [] := by
      rintro none
      have length := congrArg List.length none
      simp only [List.length_take, List.length_nil] at length
      have := List.mem_range.mp short
      omega
    by_cases whole : l.drop (n + 1) = []
    · rw [← List.take_append_drop (n + 1) l, whole, List.append_nil] at found
      exact List.mem_map_of_mem (getMember found some)
    · rw [← List.take_append_drop (n + 1) l] at found
      exact List.mem_map_of_mem (getMember (frontThere sound.wellFormed found whole) some)
  have apart : ((List.range l.length).map fun n => l.take (n + 1)).Nodup := by
    refine List.nodup_range.map_on fun a here b there same => ?_
    have lengths := congrArg List.length same
    simp only [List.length_take] at lengths
    have := List.mem_range.mp here
    have := List.mem_range.mp there
    omega
  simpa using (apart.subperm fronts).length_le

theorem enterIff (wf : t.WellFormed) {m : Location} (here : t.get? l = .some .directory) :
    t.enter l name = .ok m ↔ t.follow l [name] = .ok m ∧ t.get? m = .some .directory := by
  by_cases back : name = ".."
  · have up := parentDirectory wf here
    simp only [enter, follow, if_pos back]
    refine ⟨fun same => ⟨same, ?_⟩, And.left⟩
    cases same
    exact up
  · by_cases fit : fits name = true
    · rw [enterPlain back fit]
      simp only [follow, if_neg back, if_pos fit]
      cases found : t.get? (l ++ [name]) with
      | none =>
        refine ⟨fun same => (by cases same), ?_⟩
        rintro ⟨same, there⟩
        cases same
        rw [found] at there
        cases there
      | some e =>
        cases e with
        | file content =>
          refine ⟨fun same => (by cases same), ?_⟩
          rintro ⟨same, there⟩
          cases same
          rw [found] at there
          cases there
        | directory =>
          refine ⟨fun same => ⟨same, ?_⟩, And.left⟩
          cases same
          exact found
    · simp [enter, follow, back, fit]

theorem reachIff (wf : t.WellFormed) {m : Location} (here : t.get? l = .some .directory)
    (names : List String) :
    t.reach l names = .ok m ↔ t.follow l names = .ok m ∧ t.get? m = .some .directory := by
  rcases List.eq_nil_or_concat names with rfl | ⟨front, last, rfl⟩
  · refine ⟨fun same => ⟨same, ?_⟩, And.left⟩
    cases same
    exact here
  · rw [List.concat_eq_append, reachSnoc, followSnoc]
    cases reached : t.reach l front with
    | ok inner => exact enterIff wf (reachOk wf here reached).2.2
    | error obstacle => exact ⟨fun same => (by cases same), fun both => (by cases both.1)⟩

end FileTree

namespace InputFiles
open FileTree
variable {t : FileTree} {cwd : Location} {p : Path} {name : String}

def origin (cwd : Location) (p : Path) : Location := if p.anchor = .relative then cwd else []

def entered (t : FileTree) (cwd : Location) (p : Path) : Except Obstacle Location :=
  t.reach (origin cwd p) p.parts

theorem originDirectory (here : t.get? cwd = some .directory) (p : Path) :
    t.get? (origin cwd p) = some .directory := by
  unfold origin
  split
  · exact here
  · rfl

theorem enteredUnder (t : FileTree) (cwd : Location) (p : Path) (name : String) :
    entered t cwd (under p name) = match entered t cwd p with
      | .ok l => t.enter l name
      | .error obstacle => .error obstacle :=
  reachSnoc t (origin cwd p) p.parts name

theorem locateUnder (t : FileTree) (cwd : Location) (p : Path) (name : String) :
    t.locate cwd (under p name) = match entered t cwd p with
      | .ok l => t.follow l [name]
      | .error obstacle => .error obstacle :=
  followSnoc t (origin cwd p) p.parts name

theorem underClean {p : Path} {name : String} :
    (under p name).hasNul = false ↔ p.hasNul = false ∧ '\x00' ∉ name.toList := by
  simp [under, Path.hasNul]

section
variable (wf : t.WellFormed) (here : t.get? cwd = some .directory)
include wf here

theorem enteredIff {l : Location} :
    entered t cwd p = .ok l ↔ t.locate cwd p = .ok l ∧ t.get? l = some .directory :=
  reachIff wf (originDirectory here p) p.parts

theorem directoryIff : isDirectoryAt t cwd p = true ↔
    p.hasNul = false ∧ ∃ l, entered t cwd p = .ok l := by
  have entered (l : Location) := enteredIff (p := p) wf here (l := l)
  unfold isDirectoryAt isDirectory stat
  rw [Bool.and_eq_true, Bool.not_eq_true']
  refine and_congr_right fun _ => ?_
  simp only [entered]
  cases located : t.locate cwd p with
  | error obstacle => simp
  | ok l =>
    cases found : t.get? l with
    | none => simp [found]
    | some e => cases e <;> simp [found]

theorem namesAtClean (clean : p.hasNul = false) : namesAt t cwd p = .ok (match entered t cwd p with
    | .ok l => t.children l
    | .error _ => []) := by
  unfold namesAt
  rw [if_neg (by simp [clean])]
  cases reached : entered t cwd p with
  | ok l =>
    obtain ⟨located, found⟩ := (enteredIff wf here).mp reached
    simp [located, found]
  | error obstacle =>
    cases located : t.locate cwd p with
    | error obstacle => rfl
    | ok l =>
      have closed : t.get? l ≠ some .directory := fun found => by
        rw [(enteredIff wf here).mpr ⟨located, found⟩] at reached
        cases reached
      simp [closed]

theorem thereUnder : isThere t cwd (under p name) = true ↔
    (p.hasNul = false ∧ '\x00' ∉ name.toList) ∧ ∃ l, entered t cwd p = .ok l ∧
      (name = ".." ∨ fits name = true ∧ ∃ e, t.get? (l ++ [name]) = some e) := by
  unfold isThere stat
  rw [Bool.and_eq_true, Bool.not_eq_true', underClean, locateUnder]
  refine and_congr_right fun _ => ?_
  cases reached : entered t cwd p with
  | error obstacle => simp [Except.toBool]
  | ok l =>
    have up := parentDirectory wf ((enteredIff wf here).mp reached).2
    by_cases back : name = ".."
    · simp [follow, back, up, Except.toBool]
    · by_cases fit : fits name = true
      · cases found : t.get? (l ++ [name]) <;> simp [follow, back, fit, found, Except.toBool]
      · simp [follow, back, fit, Except.toBool]

end

end InputFiles

end EntityForge
