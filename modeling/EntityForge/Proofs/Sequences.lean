import EntityForge.Proofs.Entities

/-! Entities one after the other. The files of a call are those of its accepted entities; no two of
them have one place, and the tree changes nowhere else but on the ways to them. -/
namespace EntityForge
open FileTree

namespace Call

variable {c : Call} {seen : List String} {key raw : Value} {e : Entity} {artifacts : List Artifact}
  {t : FileTree} {entries : Entries}

theorem acceptOk (ok : c.accept seen key raw = .ok (e, artifacts)) :
    nameOf key ∉ seen ∧ c.render key raw = .ok (e, artifacts) := by
  unfold accept at ok
  split at ok
  · cases ok
  next new => exact ⟨by simpa using new, ok⟩

theorem acceptNew (new : nameOf key ∉ seen) : c.accept seen key raw = c.render key raw := by
  unfold accept
  rw [if_neg (by simpa using new)]

def report (c : Call) (e : Entity) (artifacts : List Artifact) (fates : List Fate) :
    Except Failure Generated :=
  match fates.findSome? Fate.failure? with
  | some failure => .error failure
  | none => .ok ⟨pathsOf Fate.isWritten artifacts fates, pathsOf Fate.isKept artifacts fates,
      c.target.warnings e, e.columns.length, e.segments⟩

theorem renderPlain (ok : c.render key raw = .ok (e, artifacts)) : ∀ a ∈ artifacts, a.path.Plain := by
  obtain ⟨shelf, label, absolute, bundled⟩ := c.bundled
  exact (bundled key raw e artifacts ok).plain (renderOk ok).2.1 absolute

theorem generateSettle (wf : t.WellFormed) (c : Call) (seen : List String) (key raw : Value) :
    c.generate t seen key raw = match c.accept seen key raw with
      | .error failure => (t, .error failure)
      | .ok (e, artifacts) => ((t.settleAll c.cwd artifacts).1,
          c.report e artifacts (t.settleAll c.cwd artifacts).2) := by
  unfold generate
  cases accepted : c.accept seen key raw with
  | error failure => rfl
  | ok rendered =>
    obtain ⟨e, artifacts⟩ := rendered
    obtain ⟨tree, written, skipped, failure⟩ :=
      FileTree.writeArtifactsSettle wf c.cwd (renderPlain (acceptOk accepted).2)
    cases fault : (t.settleAll c.cwd artifacts).2.findSome? Fate.failure? <;>
      simp [outcome, report, tree, written, skipped, failure, fault]

theorem generateGrows (wf : t.WellFormed) (c : Call) (seen : List String) (key raw : Value) :
    (c.generate t seen key raw).1.WellFormed ∧ t.Grows (c.generate t seen key raw).1 := by
  rw [generateSettle wf]
  cases accepted : c.accept seen key raw with
  | error failure => exact ⟨wf, .refl t⟩
  | ok rendered =>
    exact settleAllWellFormed wf c.cwd (renderPlain (acceptOk accepted).2)

theorem compileGrows (wf : t.WellFormed) (c : Call) (seen : List String) (entries : Entries) :
    (c.compile t seen entries).1.WellFormed ∧ t.Grows (c.compile t seen entries).1 := by
  induction entries generalizing t seen with
  | nil => exact ⟨wf, .refl t⟩
  | cons entry rest ih =>
    obtain ⟨key, raw⟩ := entry
    have first := generateGrows wf c seen key raw
    have later := ih first.1 (nameOf key :: seen)
    exact ⟨later.1, first.2.trans later.2⟩

def files (c : Call) (seen : List String) (key raw : Value) : List Artifact :=
  match c.accept seen key raw with
  | .ok (_, artifacts) => artifacts
  | .error _ => []

def rendered (c : Call) (seen : List String) : Entries → List Artifact
  | [] => []
  | (key, raw) :: rest => c.files seen key raw ++ c.rendered (nameOf key :: seen) rest

theorem generateChange (wf : t.WellFormed) (c : Call) (seen : List String) (key raw : Value)
    (l : Location) : Change t (c.generate t seen key raw).1 (c.files seen key raw) l := by
  rw [generateSettle wf, files]
  cases accepted : c.accept seen key raw with
  | error failure => exact .same rfl
  | ok rendered =>
    obtain ⟨e, artifacts⟩ := rendered
    obtain ⟨_, ok⟩ := acceptOk accepted
    obtain ⟨shelf, label, absolute, bundled⟩ := c.bundled
    exact (bundled key raw e artifacts ok).change wf (renderOk ok).2.1 absolute l

theorem compileChange (wf : t.WellFormed) (c : Call) (seen : List String) (entries : Entries)
    (l : Location) : Change t (c.compile t seen entries).1 (c.rendered seen entries) l := by
  induction entries generalizing t seen with
  | nil => exact .same rfl
  | cons entry rest ih =>
    obtain ⟨key, raw⟩ := entry
    exact (generateChange wf c seen key raw l).trans
      (ih (generateGrows wf c seen key raw).1 (nameOf key :: seen))

section Names
variable {shelf : Path} {label : String}

theorem filesNamed (bundled : Shelved c shelf label) {a : Artifact} (member : a ∈ c.files seen key raw) :
    nameOf key ∉ seen ∧ Name.wellFormed (nameOf key).toList = true ∧
      ∃ role, Filed c shelf label (nameOf key) role a := by
  unfold files at member
  split at member
  next e artifacts accepted =>
    obtain ⟨new, ok⟩ := acceptOk accepted
    obtain ⟨name, words, _⟩ := renderOk ok
    rw [name] at new ⊢
    exact ⟨new, words, (bundled key raw e artifacts ok).filed a member⟩
  next => cases member

theorem renderedNamed (bundled : Shelved c shelf label) {a : Artifact}
    (member : a ∈ c.rendered seen entries) : ∃ name role, name ∉ seen ∧
      Name.wellFormed name.toList = true ∧ Filed c shelf label name role a := by
  induction entries generalizing seen with
  | nil => cases member
  | cons entry rest ih =>
    obtain ⟨key, raw⟩ := entry
    rcases List.mem_append.mp member with here | later
    · obtain ⟨new, words, role, filed⟩ := filesNamed bundled here
      exact ⟨_, role, new, words, filed⟩
    · obtain ⟨name, role, new, words, filed⟩ := ih later
      exact ⟨name, role, fun old => new (List.mem_cons_of_mem _ old), words, filed⟩

theorem filesApart (bundled : Shelved c shelf label) {a b : Artifact}
    (here : a ∈ c.files seen key raw) (later : b ∈ c.rendered (nameOf key :: seen) entries) :
    a.path.place ≠ b.path.place := by
  intro same
  obtain ⟨_, words, role, filed⟩ := filesNamed bundled here
  obtain ⟨name, role', new, words', filed'⟩ := renderedNamed bundled later
  rw [filed.path, filed'.path] at same
  rw [← (siteApart words words' same).1] at new
  exact new List.mem_cons_self

end Names

theorem renderedApart (c : Call) (seen : List String) (entries : Entries) :
    (c.rendered seen entries).Pairwise fun a b => a.path.place ≠ b.path.place := by
  obtain ⟨shelf, label, _, bundled⟩ := c.bundled
  induction entries generalizing seen with
  | nil => exact .nil
  | cons entry rest ih =>
    obtain ⟨key, raw⟩ := entry
    refine List.pairwise_append.mpr ⟨?_, ih (nameOf key :: seen), fun a here b later =>
      filesApart bundled here later⟩
    unfold files
    split
    next e artifacts accepted =>
      obtain ⟨_, ok⟩ := acceptOk accepted
      exact (bundled key raw e artifacts ok).apart (renderOk ok).2.1
    next => exact .nil

end Call

end EntityForge
