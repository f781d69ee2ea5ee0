import EntityForge.Proofs.Walks

/-! Writing files one after the other. An artifact is kept, written or fails; what happens to it
depends on the tree alone, and a list of artifacts settles up to the first that fails. -/
namespace EntityForge

namespace Path

structure Plain (p : Path) : Prop where
  absolute : p.anchor ≠ .relative
  ending : p.parts = p.parent.parts ++ [p.name]
  named : p.name ≠ ".."

def place (p : Path) : Location := p.parts.foldl step []

def way (p : Path) : List Location := FileTree.way [] p.parts

theorem Plain.place {p : Path} (plain : p.Plain) : p.place = p.parent.place ++ [p.name] := by
  rw [Path.place, plain.ending, List.foldl_append]
  exact FileTree.stepName plain.named _

theorem plainOf {anchor : Anchor} (absolute : anchor ≠ .relative) (names : List String)
    {name : String} (named : name ≠ "..") : Plain ⟨anchor, names ++ [name]⟩ := by
  refine ⟨absolute, ?_, ?_⟩ <;> simp [parent, Path.name, named]

end Path

namespace FileTree

theorem ensureDirectoryLay {t : FileTree} (wf : t.WellFormed) (cwd : Location) {p : Path}
    (absolute : p.anchor ≠ .relative) :
    t.ensureDirectory cwd p =
      if p.hasNul then (t, .error nulFault)
      else ((t.lay [] p.parts).1,
        if (t.lay [] p.parts).2 then .ok () else .error (.files (.createDirectory p.text))) := by
  unfold ensureDirectory
  split
  · rfl
  · obtain ⟨tree, clear⟩ := makeDirectoriesLay wf cwd absolute p.parts
    cases made : t.makeDirectories cwd p.anchor p.parts.reverse with
    | mk u result =>
      rw [made] at tree clear
      obtain rfl := tree
      cases result with
      | none =>
        have through : (t.lay [] p.parts).2 = true := clear.mp rfl
        simp [through]
      | some obstacle =>
        have stopped : (t.lay [] p.parts).2 = false := by simpa using clear
        simp [stopped]

def deposit (t : FileTree) (p : Path) (content : ByteArray) : FileTree × Except Failure Unit :=
  if p.parent.hasNul then (t, .error nulFault)
  else
    match t.lay [] p.parent.parts with
    | (u, false) => (u, .error (.files (.createDirectory p.parent.text)))
    | (u, true) =>
      if p.hasNul then (u, .error nulFault)
      else if fits p.name ∧ u.get? p.place ≠ some .directory then
        (u.put p.place (.file content), .ok ())
      else (u, .error (.files (.writeFile p.text)))

theorem locatePlain {t : FileTree} (cwd : Location) {p : Path} (plain : p.Plain) :
    t.locate cwd p =
      match t.reach [] p.parent.parts with
      | .ok inner => if fits p.name then .ok (inner ++ [p.name]) else .error .longName
      | .error obstacle => .error obstacle := by
  have whole : p = ⟨p.anchor, p.parent.parts ++ [p.name]⟩ := by
    rw [← plain.ending]
  rw [whole, locateAbsolute t cwd plain.absolute, ← whole]
  cases t.reach [] p.parent.parts with
  | ok inner => simp [follow, plain.named]
  | error obstacle => rfl

theorem writeTextDeposit {t : FileTree} (wf : t.WellFormed) (cwd : Location) {p : Path}
    (plain : p.Plain) (content : String) :
    t.writeText cwd p content = t.deposit p content.toUTF8 := by
  rw [writeText, ensureDirectoryLay (p := p.parent) wf cwd plain.absolute, deposit]
  by_cases nul : p.parent.hasNul = true
  · rw [if_pos nul, if_pos nul]
  · rw [if_neg nul, if_neg nul]
    have laid := layLaid wf (rootDirectory t) p.parent.parts
    have again := layAgain wf (rootDirectory t) (Grows.refl (t.lay [] p.parent.parts).1)
    cases walk : t.lay [] p.parent.parts with
    | mk u through =>
      rw [walk] at laid again
      cases through with
      | false => rfl
      | true =>
        have reached := reachOfLay laid.wellFormed (rootDirectory u) again
        have there : p.parent.parts.foldl Path.step [] ++ [p.name] = p.place := plain.place.symm
        simp only [if_true, write, locatePlain cwd plain, reached, there]
        by_cases fit : fits p.name = true
        · simp only [fit, if_true, true_and]
          cases u.get? p.place with
          | none => simp
          | some e => cases e <;> simp
        · simp [fit]

theorem fileExistsReach {t : FileTree} (wf : t.WellFormed) (cwd : Location) {p : Path}
    (plain : p.Plain) :
    t.fileExists cwd p =
      if p.hasNul then .ok false
      else
        match t.reach [] p.parent.parts with
        | .error .longName => .error (.files (.checkExistence p.text))
        | .error _ => .ok false
        | .ok _ =>
          if fits p.name then .ok (t.get? p.place).isSome
          else .error (.files (.checkExistence p.text)) := by
  unfold fileExists
  split
  · rfl
  · rw [exists?, stat, locatePlain cwd plain]
    cases reached : t.reach [] p.parent.parts with
    | error obstacle => cases obstacle <;> rfl
    | ok inner =>
      obtain ⟨_, rfl, _⟩ := reachOk wf (rootDirectory t) reached
      have there : p.parent.parts.foldl Path.step [] ++ [p.name] = p.place := plain.place.symm
      by_cases fit : fits p.name = true
      · simp only [fit, if_true, there]
        cases t.get? p.place <;> rfl
      · simp [fit]

end FileTree

inductive Fate where
  | kept
  | written
  | failed (failure : Failure)

def Fate.failure? : Fate → Option Failure
  | .failed failure => some failure
  | _ => none

namespace FileTree

def settle (t : FileTree) (cwd : Location) (a : Artifact) : FileTree × Fate :=
  match (if a.overwrite then .ok false else t.fileExists cwd a.path) with
  | .error failure => (t, .failed failure)
  | .ok true => (t, .kept)
  | .ok false =>
    match t.deposit a.path a.content.toUTF8 with
    | (u, .ok ()) => (u, .written)
    | (u, .error failure) => (u, .failed failure)

def settleAll (t : FileTree) (cwd : Location) : List Artifact → FileTree × List Fate
  | [] => (t, [])
  | a :: rest =>
    match t.settle cwd a with
    | (u, .failed failure) => (u, [.failed failure])
    | (u, fate) => ((u.settleAll cwd rest).1, fate :: (u.settleAll cwd rest).2)

end FileTree

def pathsOf (wanted : Fate → Bool) (artifacts : List Artifact) (fates : List Fate) : List Path :=
  ((artifacts.zip fates).filter fun pair => wanted pair.2).map fun pair => pair.1.path

def Fate.isWritten : Fate → Bool
  | .written => true
  | _ => false

def Fate.isKept : Fate → Bool
  | .kept => true
  | _ => false

namespace FileTree

/- All that depositing can do to a well-formed tree. -/
theorem depositCases (t : FileTree) (p : Path) (content : ByteArray) :
    (∃ u, t.lay [] p.parent.parts = (u, true) ∧ fits p.name = true ∧ p.hasNul = false ∧
      u.get? p.place ≠ some .directory ∧ t.deposit p content = (u.put p.place (.file content), .ok ())) ∨
    (∃ u failure, t.deposit p content = (u, .error failure) ∧
      (u = t ∧ p.parent.hasNul = true ∨ u = (t.lay [] p.parent.parts).1) ∧
      ((∃ fault, failure = .files fault) ∨ failure = nulFault)) := by
  unfold deposit
  split
  next nul => exact .inr ⟨_, _, rfl, .inl ⟨rfl, nul⟩, .inr rfl⟩
  · cases walk : t.lay [] p.parent.parts with
    | mk u through =>
      cases through with
      | false => exact .inr ⟨_, _, rfl, .inr rfl, .inl ⟨_, rfl⟩⟩
      | true =>
        dsimp only
        split
        · exact .inr ⟨_, _, rfl, .inr rfl, .inr rfl⟩
        next clean =>
          split
          next free =>
            exact .inl ⟨u, rfl, free.1, by simpa using clean, free.2, rfl⟩
          next => exact .inr ⟨_, _, rfl, .inr rfl, .inl ⟨_, rfl⟩⟩

theorem depositWellFormed {t : FileTree} (wf : t.WellFormed) {p : Path} (plain : p.Plain)
    (content : ByteArray) : (t.deposit p content).1.WellFormed ∧ t.Grows (t.deposit p content).1 := by
  have laid := layLaid wf (rootDirectory t) p.parent.parts
  rcases depositCases t p content with
    ⟨u, walk, _, _, free, done⟩ | ⟨u, failure, done, ⟨rfl, _⟩ | rfl, _⟩
  · rw [done]
    rw [walk] at laid
    have last : p.place = p.parent.place ++ [p.name] := plain.place
    rw [last] at free ⊢
    refine ⟨putWellFormed laid.wellFormed ?_ fun directory => absurd directory free,
      laid.grows.trans (growsPutFile free)⟩
    have again := layAgain wf (rootDirectory t) (Grows.refl (t.lay [] p.parent.parts).1)
    rw [walk] at again
    exact (reachOk laid.wellFormed (rootDirectory u)
      (reachOfLay laid.wellFormed (rootDirectory u) again)).2.2
  · rw [done]
    exact ⟨wf, .refl u⟩
  · rw [done]
    exact ⟨laid.wellFormed, laid.grows⟩

theorem settleWellFormed {t : FileTree} (wf : t.WellFormed) (cwd : Location) {a : Artifact}
    (plain : a.path.Plain) :
    (t.settle cwd a).1.WellFormed ∧ t.Grows (t.settle cwd a).1 := by
  have step := depositWellFormed wf plain a.content.toUTF8
  unfold settle
  split
  · exact ⟨wf, .refl t⟩
  · exact ⟨wf, .refl t⟩
  · split
    · simp_all
    · simp_all

theorem settleAllWellFormed {t : FileTree} (wf : t.WellFormed) (cwd : Location)
    {artifacts : List Artifact} (plain : ∀ a ∈ artifacts, a.path.Plain) :
    (t.settleAll cwd artifacts).1.WellFormed ∧ t.Grows (t.settleAll cwd artifacts).1 := by
  induction artifacts generalizing t with
  | nil => exact ⟨wf, .refl t⟩
  | cons a rest ih =>
    have step := settleWellFormed wf cwd (plain a List.mem_cons_self)
    unfold settleAll
    split
    next u failure same => rw [same] at step; exact step
    next u fate _ same =>
      rw [same] at step
      have later := ih step.1 fun b member => plain b (List.mem_cons_of_mem _ member)
      exact ⟨later.1, step.2.trans later.2⟩

end FileTree

namespace Output

theorem writeOneSettle {o : Output} {cwd : Location} {a : Artifact}
    (same : o.tree.writeText cwd a.path a.content = o.tree.deposit a.path a.content.toUTF8)
    (clean : o.failure = none) :
    (writeOne cwd o a).tree = (o.tree.settle cwd a).1 ∧
    (writeOne cwd o a).written = o.written ++ pathsOf Fate.isWritten [a] [(o.tree.settle cwd a).2] ∧
    (writeOne cwd o a).skipped = o.skipped ++ pathsOf Fate.isKept [a] [(o.tree.settle cwd a).2] ∧
    (writeOne cwd o a).failure = (o.tree.settle cwd a).2.failure? := by
  unfold writeOne FileTree.settle
  rw [← same]
  cases (if a.overwrite then .ok false else o.tree.fileExists cwd a.path : Except Failure Bool) with
  | error failure => simp [pathsOf, Fate.isWritten, Fate.isKept, Fate.failure?]
  | ok present =>
    cases present with
    | true => simp [pathsOf, Fate.isWritten, Fate.isKept, Fate.failure?, clean]
    | false =>
      cases o.tree.writeText cwd a.path a.content with
      | mk u result =>
        cases result <;> simp [pathsOf, Fate.isWritten, Fate.isKept, Fate.failure?, clean]

theorem writeAllSettle {o : Output} (wf : o.tree.WellFormed) (cwd : Location)
    {artifacts : List Artifact} (plain : ∀ a ∈ artifacts, a.path.Plain) (clean : o.failure = none) :
    (writeAll cwd o artifacts).tree = (o.tree.settleAll cwd artifacts).1 ∧
    (writeAll cwd o artifacts).written =
      o.written ++ pathsOf Fate.isWritten artifacts (o.tree.settleAll cwd artifacts).2 ∧
    (writeAll cwd o artifacts).skipped =
      o.skipped ++ pathsOf Fate.isKept artifacts (o.tree.settleAll cwd artifacts).2 ∧
    (writeAll cwd o artifacts).failure =
      (o.tree.settleAll cwd artifacts).2.findSome? Fate.failure? := by
  induction artifacts generalizing o with
  | nil => simp [writeAll, FileTree.settleAll, pathsOf, clean]
  | cons a rest ih =>
    obtain ⟨tree, written, skipped, failure⟩ :=
      writeOneSettle (FileTree.writeTextDeposit wf cwd (plain a List.mem_cons_self) a.content) clean
    have next := (FileTree.settleWellFormed wf cwd (plain a List.mem_cons_self)).1
    rw [← tree] at next
    have later (done : (writeOne cwd o a).failure = none) :=
      ih next (fun b member => plain b (List.mem_cons_of_mem _ member)) done
    unfold writeAll FileTree.settleAll
    cases settled : o.tree.settle cwd a with
    | mk u fate =>
      simp only [settled] at tree written skipped failure
      rw [tree] at later
      cases fate with
      | failed fault =>
        simp [failure, Fate.failure?, tree, written, skipped, pathsOf]
      | kept =>
        obtain ⟨t, w, s, f⟩ := later (by simpa [Fate.failure?] using failure)
        simp [failure, Fate.failure?, t, w, s, f, written, skipped, pathsOf, Fate.isWritten,
          Fate.isKept, List.findSome?_cons]
      | written =>
        obtain ⟨t, w, s, f⟩ := later (by simpa [Fate.failure?] using failure)
        simp [failure, Fate.failure?, t, w, s, f, written, skipped, pathsOf, Fate.isWritten,
          Fate.isKept, List.findSome?_cons]

end Output

theorem FileTree.writeArtifactsSettle {t : FileTree} (wf : t.WellFormed) (cwd : Location)
    {artifacts : List Artifact} (plain : ∀ a ∈ artifacts, a.path.Plain) :
    (t.writeArtifacts cwd artifacts).tree = (t.settleAll cwd artifacts).1 ∧
    (t.writeArtifacts cwd artifacts).written =
      pathsOf Fate.isWritten artifacts (t.settleAll cwd artifacts).2 ∧
    (t.writeArtifacts cwd artifacts).skipped =
      pathsOf Fate.isKept artifacts (t.settleAll cwd artifacts).2 ∧
    (t.writeArtifacts cwd artifacts).failure =
      (t.settleAll cwd artifacts).2.findSome? Fate.failure? := by
  simpa [FileTree.writeArtifacts] using Output.writeAllSettle (o := { tree := t }) wf cwd plain rfl

end EntityForge
