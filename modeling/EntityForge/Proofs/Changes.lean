import EntityForge.Proofs.Settling

/-! What writing files changes. An artifact is settled in one of four ways; each of them leaves every
location as it was, makes a directory on the way to the file, or puts the file in its place. -/
namespace EntityForge

def Failure.OfWriting (failure : Failure) : Prop :=
  (∃ fault, failure = .files fault) ∨ failure = nulFault

namespace FileTree

variable {t u v : FileTree} {cwd : Location} {a : Artifact}

inductive Settled (t : FileTree) (cwd : Location) (a : Artifact) : FileTree → Fate → Prop where
  | kept (extension : a.overwrite = false) (there : t.fileExists cwd a.path = .ok true) :
      Settled t cwd a t .kept
  | written {u : FileTree} (free : a.overwrite = true ∨ t.fileExists cwd a.path = .ok false)
      (walk : t.lay [] a.path.parent.parts = (u, true)) (fit : fits a.path.name = true)
      (clean : a.path.hasNul = false)
      (solid : u.get? a.path.place ≠ some .directory) :
      Settled t cwd a (u.put a.path.place (.file a.content.toUTF8)) .written
  | stuck {u : FileTree} {failure : Failure}
      (tree : u = t ∧ (a.overwrite = true → a.path.parent.hasNul = true) ∨
        u = (t.lay [] a.path.parent.parts).1)
      (fault : failure.OfWriting) : Settled t cwd a u (.failed failure)

theorem fileExistsFault {p : Path} {failure : Failure} (fault : t.fileExists cwd p = .error failure) :
    failure.OfWriting := by
  unfold fileExists at fault
  split at fault
  · cases fault
  · split at fault
    · cases fault
    · cases fault
      exact .inl ⟨_, rfl⟩

theorem settleCases {fate : Fate} (done : t.settle cwd a = (u, fate)) : Settled t cwd a u fate := by
  unfold settle at done
  split at done
  next failure seen =>
    cases done
    split at seen
    · cases seen
    next extension =>
      exact .stuck (.inl ⟨rfl, fun always => absurd always extension⟩) (fileExistsFault seen)
  next seen =>
    cases done
    split at seen
    · cases seen
    next extension => exact .kept (by simpa using extension) seen
  next seen =>
    have free : a.overwrite = true ∨ t.fileExists cwd a.path = .ok false := by
      split at seen
      next always => exact .inl always
      next => exact .inr seen
    rcases depositCases t a.path a.content.toUTF8 with
      ⟨v, walk, fit, clean, solid, put⟩ | ⟨v, failure, put, tree, fault⟩
    · rw [put] at done
      cases done
      exact .written free walk fit clean solid
    · rw [put] at done
      cases done
      exact .stuck (tree.imp_left fun ⟨same, nul⟩ => ⟨same, fun _ => nul⟩) fault

theorem ensuredLay (wf : t.WellFormed) {p : Path} (absolute : p.anchor ≠ .relative)
    (made : t.ensureDirectory cwd p = (u, .ok ())) : t.lay [] p.parts = (u, true) ∧ p.hasNul = false := by
  rw [ensureDirectoryLay wf cwd absolute] at made
  split at made
  · cases made
  next clean =>
    cases walk : t.lay [] p.parts with
    | mk v through =>
      rw [walk] at made
      cases through with
      | false => cases made
      | true =>
        cases made
        exact ⟨rfl, by simpa using clean⟩

theorem ensureKeeps (wf : t.WellFormed) {p : Path} (absolute : p.anchor ≠ .relative)
    {result : Except Failure Unit} (ran : t.ensureDirectory cwd p = (u, result)) {l : Location}
    {e : Entry} (found : t.get? l = some e) : u.WellFormed ∧ u.get? l = some e := by
  rw [ensureDirectoryLay wf cwd absolute] at ran
  split at ran
  · cases ran
    exact ⟨wf, found⟩
  · cases ran
    exact ⟨(layLaid wf (rootDirectory t) p.parts).wellFormed, layKeeps wf (rootDirectory t) found⟩

theorem ensureFault {p : Path} {failure : Failure}
    (blocked : t.ensureDirectory cwd p = (u, .error failure)) : failure.OfWriting := by
  unfold ensureDirectory at blocked
  split at blocked
  · cases blocked
    exact .inr rfl
  · split at blocked
    · cases blocked
    · cases blocked
      exact .inl ⟨_, rfl⟩

/- What a location holds after files were written: what was there, a new directory on the way to a
file, or a file; one that is written once only where nothing was. -/
inductive Change (t u : FileTree) (artifacts : List Artifact) (l : Location) : Prop where
  | same (same : u.get? l = t.get? l)
  | made (absent : t.get? l = none) (directory : u.get? l = some .directory)
      (onWay : ∃ a ∈ artifacts, l ∈ a.path.parent.way)
  | landed (file : ∃ a ∈ artifacts, a.path.place = l ∧ u.get? l = some (.file a.content.toUTF8) ∧
      (a.overwrite = true ∨ t.get? l = none))

namespace Change

variable {l : Location} {before after : List Artifact}

theorem trans (first : Change t u before l) (second : Change u v after l) :
    Change t v (before ++ after) l := by
  cases first with
  | same kept =>
    cases second with
    | same again => exact .same (again.trans kept)
    | made absent directory onWay =>
      obtain ⟨a, member, way⟩ := onWay
      exact .made (kept ▸ absent) directory ⟨a, List.mem_append_right _ member, way⟩
    | landed file =>
      obtain ⟨a, member, here, file, free⟩ := file
      exact .landed ⟨a, List.mem_append_right _ member, here, file, kept ▸ free⟩
  | made absent directory onWay =>
    obtain ⟨a, member, way⟩ := onWay
    cases second with
    | same again =>
      exact .made absent (again.trans directory) ⟨a, List.mem_append_left _ member, way⟩
    | made gone _ _ => simp [directory] at gone
    | landed file =>
      obtain ⟨b, member, here, file, _⟩ := file
      exact .landed ⟨b, List.mem_append_right _ member, here, file, .inr absent⟩
  | landed file =>
    obtain ⟨a, member, here, file, free⟩ := file
    cases second with
    | same again =>
      exact .landed ⟨a, List.mem_append_left _ member, here, again.trans file, free⟩
    | made gone _ _ => simp [file] at gone
    | landed later =>
      obtain ⟨b, member, here, later, always⟩ := later
      have always : b.overwrite = true := by simpa [file] using always
      exact .landed ⟨b, List.mem_append_right _ member, here, later, .inl always⟩

theorem widen {more : List Artifact} (change : Change t u before l)
    (each : ∀ a ∈ before, a ∈ more) : Change t u more l := by
  cases change with
  | same kept => exact .same kept
  | made absent directory onWay =>
    obtain ⟨a, member, way⟩ := onWay
    exact .made absent directory ⟨a, each a member, way⟩
  | landed file =>
    obtain ⟨a, member, rest⟩ := file
    exact .landed ⟨a, each a member, rest⟩

theorem still {artifacts : List Artifact} {e : Entry} (change : Change t u artifacts l)
    (found : t.get? l = some e)
    (apart : ∀ a ∈ artifacts, a.overwrite = true → a.path.place ≠ l) : u.get? l = some e := by
  cases change with
  | same kept => exact kept.trans found
  | made absent _ _ => simp [found] at absent
  | landed file =>
    obtain ⟨a, member, here, _, free⟩ := file
    rcases free with always | absent
    · exact absurd here (apart a member always)
    · simp [found] at absent

theorem earlier {artifacts : List Artifact} {content : ByteArray} (change : Change t u artifacts l)
    (apart : ∀ a ∈ artifacts, a.path.place ≠ l) (file : u.get? l = some (.file content)) :
    t.get? l = some (.file content) := by
  cases change with
  | same kept => exact kept.symm.trans file
  | made _ directory _ => simp [directory] at file
  | landed landing =>
    obtain ⟨a, member, here, _⟩ := landing
    exact absurd here (apart a member)

end Change

theorem layChange (wf : t.WellFormed) {p : Path} {artifacts : List Artifact}
    (aim : ∃ a ∈ artifacts, a.path.parent = p) (l : Location) :
    Change t (t.lay [] p.parts).1 artifacts l := by
  obtain ⟨a, member, rfl⟩ := aim
  rcases (layLaid wf (rootDirectory t) a.path.parent.parts).news l with same | ⟨absent, new, onWay⟩
  · exact .same same
  · exact .made absent new ⟨a, member, onWay⟩

/- `absent` says that a file which is written only once is written where nothing was. -/
theorem Settled.change {fate : Fate} (settled : Settled t cwd a u fate) (wf : t.WellFormed)
    (plain : a.path.Plain)
    (absent : a.overwrite = false → fate = .written → t.get? a.path.place = none) (l : Location) :
    Change t u [a] l := by
  cases settled with
  | kept _ _ => exact .same rfl
  | @written laid free walk _ _ _ =>
    have walked := layChange wf (p := a.path.parent) ⟨a, List.mem_singleton_self a, rfl⟩ l
    rw [walk] at walked
    rw [plain.place] at absent ⊢
    by_cases here : l = a.path.parent.place ++ [a.path.name]
    · subst here
      refine .landed ⟨a, List.mem_singleton_self a, plain.place, by simp [getPut], ?_⟩
      cases always : a.overwrite with
      | true => exact .inl rfl
      | false => exact .inr (absent always rfl)
    · have other : (laid.put (a.path.parent.place ++ [a.path.name])
          (.file a.content.toUTF8)).get? l = laid.get? l := by
        rw [getPut, if_neg here]
      cases walked with
      | same kept => exact .same (other.trans kept)
      | made absent new onWay => exact .made absent (other.trans new) onWay
      | landed file =>
        obtain ⟨b, member, at_, file, free⟩ := file
        exact .landed ⟨b, member, at_, other.trans file, free⟩
  | stuck tree _ =>
    rcases tree with ⟨rfl, _⟩ | rfl
    · exact .same rfl
    · exact layChange wf ⟨a, List.mem_singleton_self a, rfl⟩ l

theorem settleWritten (wf : t.WellFormed) (plain : a.path.Plain)
    (done : t.settle cwd a = (u, .written)) :
    u.get? a.path.place = some (.file a.content.toUTF8) ∧
      u.lay [] a.path.parent.parts = (u, true) ∧ fits a.path.name = true ∧
      a.path.hasNul = false := by
  cases settleCases done with
  | @written laid _ walk fit clean solid =>
    rw [plain.place] at solid ⊢
    have grows : (t.lay [] a.path.parent.parts).1.Grows
        (laid.put (a.path.parent.place ++ [a.path.name]) (.file a.content.toUTF8)) := by
      rw [walk]
      exact growsPutFile solid
    have again := layAgain wf (rootDirectory t) grows
    rw [walk] at again
    exact ⟨by rw [getPut, if_pos rfl], again, fit, clean⟩

theorem settleKept (wf : t.WellFormed) (plain : a.path.Plain)
    (done : t.settle cwd a = (u, .kept)) :
    u = t ∧ (t.get? a.path.place).isSome ∧ t.lay [] a.path.parent.parts = (t, true) := by
  cases settleCases done with
  | kept _ there =>
    refine ⟨rfl, ?_⟩
    rw [fileExistsReach wf cwd plain] at there
    split at there
    · cases there
    · cases reached : t.reach [] a.path.parent.parts with
      | error obstacle =>
        rw [reached] at there
        cases obstacle <;> cases there
      | ok inner =>
        rw [reached] at there
        dsimp only at there
        split at there
        · exact ⟨Except.ok.inj there, (reachOk wf (rootDirectory t) reached).1⟩
        · cases there

theorem settleFailed {failure : Failure} (failed : t.settle cwd a = (u, .failed failure)) :
    failure.OfWriting := by
  cases settleCases failed with
  | stuck _ fault => exact fault

theorem settlePresent {fate : Fate} (wf : t.WellFormed) (plain : a.path.Plain)
    (done : t.settle cwd a = (u, fate)) (fine : fate.failure? = none) :
    (∃ e, u.get? a.path.place = some e) ∧ ∀ l ∈ a.path.parent.way, u.get? l = some .directory := by
  have wf' := (settleWellFormed wf cwd plain).1
  rw [done] at wf'
  have laid : u.lay [] a.path.parent.parts = (u, true) ∧ ∃ e, u.get? a.path.place = some e := by
    cases fate with
    | failed failure => simp [Fate.failure?] at fine
    | kept =>
      obtain ⟨rfl, present, laid⟩ := settleKept wf plain done
      exact ⟨laid, Option.isSome_iff_exists.mp present⟩
    | written =>
      obtain ⟨file, laid, _, _⟩ := settleWritten wf plain done
      exact ⟨laid, _, file⟩
  refine ⟨laid.2, fun l onWay => ?_⟩
  have through : (u.lay [] a.path.parent.parts).2 = true := by rw [laid.1]
  have there := layReaches wf' (rootDirectory u) through onWay
  rwa [laid.1] at there

theorem alwaysWritten {fate : Fate} (done : t.settle cwd a = (u, fate)) (always : a.overwrite = true)
    (fine : fate.failure? = none) : fate = .written := by
  cases settleCases done with
  | kept extension _ => simp [always] at extension
  | written _ _ _ _ _ => rfl
  | stuck _ _ => simp [Fate.failure?] at fine

section Lists
variable {artifacts : List Artifact}

theorem settleAllFailed {failure : Failure} (failed : t.settle cwd a = (u, .failed failure)) :
    t.settleAll cwd (a :: artifacts) = (u, [.failed failure]) := by
  rw [settleAll, failed]

theorem settleAllNext {fate : Fate} (done : t.settle cwd a = (u, fate)) (fine : fate.failure? = none) :
    t.settleAll cwd (a :: artifacts) =
      ((u.settleAll cwd artifacts).1, fate :: (u.settleAll cwd artifacts).2) := by
  rw [settleAll, done]
  cases fate with
  | failed failure => simp [Fate.failure?] at fine
  | _ => rfl

theorem settleAllCases (t : FileTree) (cwd : Location) (a : Artifact) (artifacts : List Artifact) :
    (∃ u failure, t.settle cwd a = (u, .failed failure) ∧
      t.settleAll cwd (a :: artifacts) = (u, [.failed failure])) ∨
    ∃ u fate, t.settle cwd a = (u, fate) ∧ fate.failure? = none ∧
      t.settleAll cwd (a :: artifacts) =
        ((u.settleAll cwd artifacts).1, fate :: (u.settleAll cwd artifacts).2) := by
  cases done : t.settle cwd a with
  | mk u fate =>
    cases fate with
    | failed failure => exact .inl ⟨u, failure, rfl, settleAllFailed done⟩
    | kept => exact .inr ⟨u, .kept, rfl, rfl, settleAllNext done rfl⟩
    | written => exact .inr ⟨u, .written, rfl, rfl, settleAllNext done rfl⟩

theorem settleAllPresent (wf : t.WellFormed) (plain : ∀ a ∈ artifacts, a.path.Plain)
    (fine : (t.settleAll cwd artifacts).2.findSome? Fate.failure? = none) :
    ∀ a ∈ artifacts, (∃ e, (t.settleAll cwd artifacts).1.get? a.path.place = some e) ∧
      ∀ l ∈ a.path.parent.way, (t.settleAll cwd artifacts).1.get? l = some .directory := by
  induction artifacts generalizing t with
  | nil => simp
  | cons first rest ih =>
    obtain ⟨plainFirst, plainRest⟩ := List.forall_mem_cons.mp plain
    obtain ⟨u, failure, _, all⟩ | ⟨u, fate, done, kept, all⟩ := settleAllCases t cwd first rest
    · simp [all, Fate.failure?] at fine
    · have wf' := (settleWellFormed wf cwd plainFirst).1
      rw [done] at wf'
      rw [all] at fine ⊢
      rw [List.findSome?_cons, kept] at fine
      have grows := (settleAllWellFormed wf' cwd plainRest).2
      intro a member
      rcases List.mem_cons.mp member with rfl | later
      · obtain ⟨⟨e, found⟩, way⟩ := settlePresent wf plainFirst done kept
        exact ⟨grows.present found, fun l onWay => grows.1 l (way l onWay)⟩
      · exact ih wf' plainRest fine a later

theorem settleAllFault {failure : Failure}
    (failed : (t.settleAll cwd artifacts).2.findSome? Fate.failure? = some failure) :
    failure.OfWriting := by
  induction artifacts generalizing t with
  | nil => simp [settleAll] at failed
  | cons first rest ih =>
    obtain ⟨u, fault, done, all⟩ | ⟨u, fate, _, kept, all⟩ := settleAllCases t cwd first rest
    · rw [all] at failed
      cases failed
      exact settleFailed done
    · rw [all, List.findSome?_cons, kept] at failed
      exact ih failed

end Lists

def verdict (a : Artifact) (through blocked : Bool) : Fate :=
  if a.path.parent.hasNul then .failed nulFault
  else if through then
    if a.path.hasNul then .failed nulFault
    else if fits a.path.name ∧ blocked = false then .written
    else .failed (.files (.writeFile a.path.text))
  else .failed (.files (.createDirectory a.path.parent.text))

theorem settleVerdict (cwd : Location) (always : a.overwrite = true) :
    (t.settle cwd a).2 = verdict a (t.lay [] a.path.parent.parts).2
      (decide ((t.lay [] a.path.parent.parts).1.get? a.path.place = some .directory)) := by
  unfold settle deposit verdict
  rw [if_pos always]
  by_cases nul : a.path.parent.hasNul = true
  · simp [nul]
  · cases walk : t.lay [] a.path.parent.parts with
    | mk u through =>
      cases through with
      | false => simp [nul]
      | true =>
        by_cases dirty : a.path.hasNul = true
        · simp [nul, dirty]
        · by_cases free : fits a.path.name = true ∧ u.get? a.path.place ≠ some .directory
          · simp [nul, dirty, free]
          · simp [nul, dirty, free]

end FileTree

end EntityForge
