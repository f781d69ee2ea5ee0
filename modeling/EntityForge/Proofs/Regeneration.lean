import EntityForge.Proofs.Extensions

/-! The same call once more. It finds every directory and file of the first run in place: extensions
are kept, all other files are written with the content they have, and what failed fails again. -/
namespace EntityForge
open FileTree

def Fate.again (a : Artifact) : Fate → Fate
  | .failed failure => .failed failure
  | _ => if a.overwrite then .written else .kept

namespace FileTree
variable {t u v : FileTree} {cwd : Location} {a : Artifact} {fate : Fate}

theorem putSame {l : Location} {name : String} {e : Entry} (found : t.get? (l ++ [name]) = some e)
    (m : Location) : (t.put (l ++ [name]) e).get? m = t.get? m := by
  rw [getPut]
  split
  next here => rw [here, found]
  next => rfl

theorem layWithin (plain : a.path.Plain) (always : a.overwrite = true)
    (clean : ¬ a.path.parent.hasNul = true) (done : t.settle cwd a = (u, fate)) :
    (t.lay [] a.path.parent.parts).1.Grows u := by
  cases settleCases done with
  | kept once _ => simp [always] at once
  | written _ walk _ _ solid =>
    rw [walk]
    rw [plain.place] at solid ⊢
    exact growsPutFile solid
  | stuck tree _ =>
    rcases tree with ⟨_, nul⟩ | rfl
    · exact absurd (nul always) clean
    · exact .refl _

theorem verdictBlocked {through : Bool} {failure : Failure}
    (failed : verdict a through false = .failed failure) (blocked : Bool) :
    verdict a through blocked = .failed failure := by
  unfold verdict at failed ⊢
  split
  next nul => simpa [nul] using failed
  next nul =>
    rw [if_neg nul] at failed
    cases through with
    | false => exact failed
    | true =>
      simp only [if_true] at failed ⊢
      split
      next nul' => simpa [nul'] using failed
      next nul' =>
        rw [if_neg nul'] at failed
        split at failed
        · cases failed
        next unfit => simp_all

theorem alwaysAgain (wf : t.WellFormed) (plain : a.path.Plain) (always : a.overwrite = true)
    (done : t.settle cwd a = (u, fate)) (grows : u.Grows v)
    (holds : ∀ e, u.get? a.path.place = some e → v.get? a.path.place = some e) :
    ∃ v', v.settle cwd a = (v', fate.again a) ∧ ∀ l, v'.get? l = v.get? l := by
  by_cases nul : a.path.parent.hasNul = true
  · have same (w : FileTree) : w.settle cwd a = (w, .failed nulFault) := by
      simp [settle, deposit, always, nul]
    rw [same] at done
    cases done
    exact ⟨v, same v, fun _ => rfl⟩
  -- all of the way is there by now, so the second walk makes nothing and the place decides
  · have within := (layWithin plain always nul done).trans grows
    have walk := layAgain wf (rootDirectory t) within
    have first := settleVerdict (t := t) cwd always
    cases settleCases done with
    | kept once _ => simp [always] at once
    | @written laid _ through fit clean _ =>
      rw [through] at walk
      have there := holds (.file a.content.toUTF8) (settleWritten wf plain done).1
      refine ⟨v.put a.path.place (.file a.content.toUTF8), ?_, ?_⟩
      · simp [settle, deposit, always, nul, walk, clean, fit, there, Fate.again]
      · rw [plain.place] at there ⊢
        exact putSame there
    | @stuck _ failure _ _ =>
      have second := settleVerdict (t := v) cwd always
      rw [done] at first
      rw [walk] at second
      dsimp only at first second
      have same : (v.settle cwd a).2 = .failed failure := by
        rw [second]
        by_cases blocked : (t.lay [] a.path.parent.parts).1.get? a.path.place = some .directory
        · rw [first]
          simp [blocked, within.1 _ blocked]
        · simp only [blocked, decide_false] at first
          exact verdictBlocked first.symm _
      cases settled : v.settle cwd a with
      | mk v' fate' =>
        rw [settled] at same
        obtain rfl : fate' = .failed failure := same
        cases settleCases settled with
        | stuck tree _ =>
          rcases tree with ⟨rfl, _⟩ | rfl
          · exact ⟨_, rfl, fun _ => rfl⟩
          · exact ⟨_, rfl, by rw [walk]; exact fun _ => rfl⟩

end FileTree

section Filed
variable {c : Call} {t u v : FileTree} {cwd : Location} {shelf : Path} {label name : String}
  {a : Artifact} {fate : Fate}

theorem extensionFatePresent (housed : Housed c v) (plain : a.path.Plain)
    (folder : a.path.parent = c.annex) (fine : (c.extensionFate t a).failure? = none) {e : Entry}
    (there : v.get? a.path.place = some e) : c.extensionFate v a = .kept := by
  have directory : v.get? c.annex.place = some .directory := by
    rw [plain.place, folder] at there
    exact housed.wellFormed _ _ _ there
  unfold Call.extensionFate at fine ⊢
  split at fine
  next fits => simp [fits, directory, there, isFile]
  next => cases fine

theorem extensionFateFailed (grows : t.Grows v) {failure : Failure}
    (failed : c.extensionFate t a = .failed failure) : c.extensionFate v a = .failed failure := by
  unfold Call.extensionFate at failed ⊢
  split at failed
  next fits =>
    rw [if_pos fits]
    split at failed
    next blocked =>
      obtain ⟨content, file⟩ := isFileIff.mp blocked
      obtain ⟨later, there⟩ := grows.2 _ _ file
      rw [if_pos (isFileIff.mpr ⟨later, there⟩)]
      exact failed
    next => split at failed <;> cases failed
  next fits =>
    rw [if_neg fits]
    exact failed

theorem extensionAgain (housed : Housed c t) (housed' : Housed c v)
    (words : Name.wellFormed name.toList = true) (absolute : shelf.anchor ≠ .relative)
    (filed : Filed c shelf label name .extension a)
    (fit : fits (name ++ c.target.extension) = true) (done : t.settle cwd a = (u, fate))
    (grows : u.Grows v) : v.settle cwd a = (v, fate.again a) := by
  have plain := filed.plain absolute words
  have once : a.overwrite = false := filed.overwrite
  have before := (settleWellFormed housed.wellFormed cwd plain).2
  have first := (extensionSettle cwd housed words absolute filed fit).1
  obtain ⟨second, still⟩ := extensionSettle cwd housed' words absolute filed fit
  rw [done] at first before
  dsimp only at first before
  have again : c.extensionFate v a = fate.again a := by
    cases failing : fate.failure? with
    | none =>
      obtain ⟨⟨e, found⟩, _⟩ := settlePresent housed.wellFormed plain done failing
      obtain ⟨later, there⟩ := grows.present found
      rw [extensionFatePresent housed' plain filed.parent (first ▸ failing) there]
      cases fate <;> simp_all [Fate.again, Fate.failure?]
    | some failure =>
      have failed : fate = .failed failure := by
        cases fate <;> simp_all [Fate.failure?]
      subst failed
      exact extensionFateFailed (before.trans grows) first.symm
  rw [again] at second still
  have tree : (v.settle cwd a).1 = v := by
    rcases still with same | new
    · exact same
    · cases fate <;> simp [Fate.again, once] at new
  exact Prod.ext tree second

theorem filedAgain (housed : Housed c t) (housed' : Housed c v)
    (words : Name.wellFormed name.toList = true) (absolute : shelf.anchor ≠ .relative)
    (fit : fits (name ++ c.target.extension) = true) {role : Role}
    (filed : Filed c shelf label name role a) (done : t.settle cwd a = (u, fate)) (grows : u.Grows v)
    (holds : ∀ e, u.get? a.path.place = some e → v.get? a.path.place = some e) :
    ∃ v', v.settle cwd a = (v', fate.again a) ∧ ∀ l, v'.get? l = v.get? l := by
  have plain := filed.plain absolute words
  cases role with
  | extension =>
    exact ⟨v, extensionAgain housed housed' words absolute filed fit done grows, fun _ => rfl⟩
  | main => exact alwaysAgain housed.wellFormed plain filed.overwrite done grows holds
  | mapping => exact alwaysAgain housed.wellFormed plain filed.overwrite done grows holds

theorem againFailure (fate : Fate) (a : Artifact) : (fate.again a).failure? = fate.failure? := by
  cases fate <;> cases always : a.overwrite <;> simp [Fate.again, Fate.failure?, always]

def Repeats (cwd : Location) (t v : FileTree) (artifacts : List Artifact) : Prop :=
  ∃ v', v.settleAll cwd artifacts =
    (v', List.zipWith (fun a fate => Fate.again a fate) artifacts (t.settleAll cwd artifacts).2) ∧
    ∀ l, v'.get? l = v.get? l

theorem repeatsCons {rest : List Artifact} {t₁ : FileTree} (step : t.settle cwd a = (t₁, fate))
    (first : ∃ v₁, v.settle cwd a = (v₁, fate.again a) ∧ ∀ l, v₁.get? l = v.get? l)
    (later : fate.failure? = none → ∀ v₁ : FileTree, (∀ l, v₁.get? l = v.get? l) →
      Repeats cwd t₁ v₁ rest) : Repeats cwd t v (a :: rest) := by
  obtain ⟨v₁, again, same⟩ := first
  unfold Repeats
  obtain ⟨_, failure, done, all⟩ | ⟨_, _, done, kept, all⟩ := settleAllCases t cwd a rest
  · cases step.symm.trans done
    refine ⟨v₁, ?_, same⟩
    rw [all, settleAllFailed again]
    simp [Fate.again]
  · cases step.symm.trans done
    obtain ⟨v', rest', same'⟩ := later kept v₁ same
    refine ⟨v', ?_, fun l => (same' l).trans (same l)⟩
    rw [all, settleAllNext again (by rw [againFailure, kept]), rest']
    simp

theorem afterFirst {rest : List Artifact} {t₁ : FileTree} (step : t.settle cwd a = (t₁, fate))
    (housed : fate.failure? = none → Housed c t₁) (words : Name.wellFormed name.toList = true)
    (absolute : shelf.anchor ≠ .relative)
    (fit : fate.failure? = none → fits (name ++ c.target.extension) = true)
    (others : ∀ b ∈ rest, ∃ role, Filed c shelf label name role b)
    (apart : ∀ b ∈ rest, a.path.place ≠ b.path.place) :
    t₁.Grows (t.settleAll cwd (a :: rest)).1 ∧ ∀ e, t₁.get? a.path.place = some e →
      (t.settleAll cwd (a :: rest)).1.get? a.path.place = some e := by
  obtain ⟨_, failure, done, all⟩ | ⟨_, _, done, kept, all⟩ := settleAllCases t cwd a rest
  · cases step.symm.trans done
    rw [all]
    exact ⟨.refl t₁, fun _ found => found⟩
  · cases step.symm.trans done
    rw [all]
    have plain : ∀ b ∈ rest, b.path.Plain := by
      intro b member
      obtain ⟨role, filed⟩ := others b member
      exact filed.plain absolute words
    refine ⟨(settleAllWellFormed (housed kept).wellFormed cwd plain).2, fun e found => ?_⟩
    refine (filedAllChange (housed kept) words absolute (fit kept) others _).still found ?_
    exact fun b member _ same => apart b member same.symm

theorem filedAllAgain (housed : Housed c t) (housed' : Housed c v)
    (words : Name.wellFormed name.toList = true) (absolute : shelf.anchor ≠ .relative)
    (fit : fits (name ++ c.target.extension) = true) {artifacts : List Artifact}
    (each : ∀ a ∈ artifacts, ∃ role, Filed c shelf label name role a)
    (apart : artifacts.Pairwise fun a b => a.path.place ≠ b.path.place)
    (grows : (t.settleAll cwd artifacts).1.Grows v)
    (stays : ∀ a ∈ artifacts, ∀ e, (t.settleAll cwd artifacts).1.get? a.path.place = some e →
      v.get? a.path.place = some e) : Repeats cwd t v artifacts := by
  induction artifacts generalizing t v with
  | nil => exact ⟨v, by simp [settleAll], fun _ => rfl⟩
  | cons first rest ih =>
    obtain ⟨⟨role, filed⟩, others⟩ := List.forall_mem_cons.mp each
    obtain ⟨here, later⟩ := List.forall_mem_cons.mp stays
    obtain ⟨alone, apart⟩ := List.pairwise_cons.mp apart
    have next := settleWellFormed housed.wellFormed cwd (filed.plain absolute words)
    cases step : t.settle cwd first with
    | mk t₁ fate =>
      rw [step] at next
      have housed₁ := housed.grow next.1 next.2
      obtain ⟨more, kept⟩ := afterFirst step (fun _ => housed₁) words absolute (fun _ => fit) others
        alone
      have again := filedAgain housed housed' words absolute fit filed step (more.trans grows)
        fun e found => here e (kept e found)
      refine repeatsCons step again fun failing v₁ same => ?_
      rw [settleAllNext step failing] at grows later
      have housed₁' := housed'.grow (wellFormedOfSame housed'.wellFormed same)
        (growsOfSame (.refl v) same)
      exact ih housed₁ housed₁' others apart (growsOfSame grows same)
        fun a member e found => by rw [same]; exact later a member e found

theorem bundleAgain {artifacts : List Artifact} (bundle : Bundle c shelf label name artifacts)
    (wf : t.WellFormed) (wf' : v.WellFormed) (words : Name.wellFormed name.toList = true)
    (absolute : shelf.anchor ≠ .relative) (grows : (t.settleAll cwd artifacts).1.Grows v)
    (stays : ∀ a ∈ artifacts, ∀ e, (t.settleAll cwd artifacts).1.get? a.path.place = some e →
      v.get? a.path.place = some e) : Repeats cwd t v artifacts := by
  cases bundle with
  | @mk main extension rest first second others single =>
    have bundle := Bundle.mk first second others single
    obtain ⟨alone, apart⟩ := List.pairwise_cons.mp (bundle.apart words)
    have filed := (List.forall_mem_cons.mp bundle.filed).2
    obtain ⟨plain, _⟩ := List.forall_mem_cons.mp (bundle.plain words absolute)
    obtain ⟨here, later⟩ := List.forall_mem_cons.mp stays
    cases step : t.settle cwd main with
    | mk t₁ fate =>
      have landed (fine : fate.failure? = none) :
          Housed c t₁ ∧ fits (name ++ c.target.extension) = true :=
        classHoused wf words absolute first (alwaysWritten step first.overwrite fine ▸ step)
      obtain ⟨more, kept⟩ := afterFirst step (fun fine => (landed fine).1) words absolute
        (fun fine => (landed fine).2) filed alone
      have again := alwaysAgain wf plain first.overwrite step (more.trans grows)
        fun e found => here e (kept e found)
      refine repeatsCons step again fun fine v₁ same => ?_
      obtain ⟨housed, fit⟩ := landed fine
      have housed' : Housed c v := housed.grow wf' (more.trans grows)
      have housed₁ := housed'.grow (wellFormedOfSame wf' same) (growsOfSame (.refl v) same)
      rw [settleAllNext step fine] at grows later
      exact filedAllAgain housed housed₁ words absolute fit filed apart (growsOfSame grows same)
        fun a member e found => by rw [same]; exact later a member e found

end Filed

theorem againFates {t : FileTree} {cwd : Location} {artifacts : List Artifact} :
    (List.zipWith (fun a fate => Fate.again a fate) artifacts
      (t.settleAll cwd artifacts).2).findSome? Fate.failure? =
        (t.settleAll cwd artifacts).2.findSome? Fate.failure? := by
  induction artifacts generalizing t with
  | nil => simp [settleAll]
  | cons first rest ih =>
    obtain ⟨u, failure, _, all⟩ | ⟨u, fate, _, _, all⟩ := settleAllCases t cwd first rest
    · simp [all, Fate.again]
    · simp [all, List.findSome?_cons, againFailure, ih]

theorem pathsOfCons (wanted : Fate → Bool) (a : Artifact) (rest : List Artifact) (fate : Fate)
    (fates : List Fate) : pathsOf wanted (a :: rest) (fate :: fates) =
      (if wanted fate then [a.path] else []) ++ pathsOf wanted rest fates := by
  unfold pathsOf
  rw [List.zip_cons_cons, List.filter_cons]
  split <;> simp

theorem againFine {fate : Fate} (fine : fate.failure? = none) (a : Artifact) :
    fate.again a = if a.overwrite then .written else .kept := by
  cases fate with
  | failed failure => cases fine
  | kept => rfl
  | written => rfl

theorem againPaths {t : FileTree} {cwd : Location} {artifacts : List Artifact}
    (fine : (t.settleAll cwd artifacts).2.findSome? Fate.failure? = none) :
    pathsOf Fate.isWritten artifacts (List.zipWith (fun a fate => Fate.again a fate) artifacts
      (t.settleAll cwd artifacts).2) = (artifacts.filter (·.overwrite)).map (·.path) ∧
    pathsOf Fate.isKept artifacts (List.zipWith (fun a fate => Fate.again a fate) artifacts
      (t.settleAll cwd artifacts).2) = (artifacts.filter (!·.overwrite)).map (·.path) := by
  induction artifacts generalizing t with
  | nil => simp [pathsOf]
  | cons first rest ih =>
    obtain ⟨u, failure, _, all⟩ | ⟨u, fate, _, unfailed, all⟩ := settleAllCases t cwd first rest
    · simp [all, Fate.failure?] at fine
    · rw [all] at fine ⊢
      rw [List.findSome?_cons, unfailed] at fine
      obtain ⟨written, kept⟩ := ih fine
      rw [List.zipWith_cons_cons, pathsOfCons, pathsOfCons, written, kept, againFine unfailed]
      cases always : first.overwrite <;> simp [always, Fate.isWritten, Fate.isKept]

/- The outcome of an entity and that of a second run: a failure stays the same failure, and what was
generated is generated again, with its extension skipped and all other files written. -/
inductive RepeatedOutcome (c : Call) (key raw : Value) :
    Except Failure Generated → Except Failure Generated → Prop where
  | failed (failure : Failure) : RepeatedOutcome c key raw (.error failure) (.error failure)
  | generated {e : Entity} {artifacts : List Artifact} (ok : c.render key raw = .ok (e, artifacts))
      (g : Generated) : RepeatedOutcome c key raw (.ok g) (.ok { g with
        written := (artifacts.filter (·.overwrite)).map (·.path)
        skipped := (artifacts.filter (!·.overwrite)).map (·.path) })

inductive Repeated (c : Call) : Entries → List GenerationResult → List GenerationResult → Prop where
  | nil : Repeated c [] [] []
  | cons {key raw : Value} {rest : Entries} {name : String} {target : Target}
      {outcome outcome' : Except Failure Generated} {first second : List GenerationResult}
      (now : RepeatedOutcome c key raw outcome outcome') (later : Repeated c rest first second) :
      Repeated c ((key, raw) :: rest) (⟨name, target, outcome⟩ :: first)
        (⟨name, target, outcome'⟩ :: second)

theorem generateAgain {c : Call} {t v : FileTree} {seen : List String} {key raw : Value}
    (wf : t.WellFormed) (wf' : v.WellFormed) (grows : (c.generate t seen key raw).1.Grows v)
    (stays : ∀ a ∈ c.files seen key raw, ∀ e,
      (c.generate t seen key raw).1.get? a.path.place = some e → v.get? a.path.place = some e) :
    ∃ v' outcome', c.generate v seen key raw = (v', outcome') ∧ (∀ l, v'.get? l = v.get? l) ∧
      RepeatedOutcome c key raw (c.generate t seen key raw).2 outcome' := by
  rw [Call.generateSettle wf'] at *
  rw [Call.generateSettle wf] at *
  unfold Call.files at stays
  cases accepted : c.accept seen key raw with
  | error failure => exact ⟨v, _, rfl, fun _ => rfl, .failed failure⟩
  | ok rendered =>
    obtain ⟨e, artifacts⟩ := rendered
    rw [accepted] at grows stays
    obtain ⟨_, ok⟩ := Call.acceptOk accepted
    obtain ⟨shelf, label, absolute, bundled⟩ := c.bundled
    obtain ⟨v', again, same⟩ := bundleAgain (bundled key raw e artifacts ok) wf wf'
      (Call.renderOk ok).2.1 absolute grows stays
    refine ⟨v', _, by dsimp only; rw [again], same, ?_⟩
    dsimp only
    unfold Call.report
    rw [againFates]
    cases fine : (t.settleAll c.cwd artifacts).2.findSome? Fate.failure? with
    | some failure => exact .failed failure
    | none =>
      obtain ⟨written, kept⟩ := againPaths fine
      dsimp only
      rw [written, kept]
      exact .generated ok _

theorem compileAgain {c : Call} {t u v : FileTree} {seen : List String} {entries : Entries}
    {results : List GenerationResult} (wf : t.WellFormed) (wf' : v.WellFormed)
    (done : c.compile t seen entries = (u, results)) (grows : u.Grows v)
    (stays : ∀ a ∈ c.rendered seen entries, ∀ e, u.get? a.path.place = some e →
      v.get? a.path.place = some e) :
    ∃ v' results', c.compile v seen entries = (v', results') ∧ (∀ l, v'.get? l = v.get? l) ∧
      Repeated c entries results results' := by
  obtain ⟨shelf, label, absolute, bundled⟩ := c.bundled
  induction entries generalizing t v seen results with
  | nil =>
    cases done
    exact ⟨v, [], rfl, fun _ => rfl, .nil⟩
  | cons entry rest ih =>
    obtain ⟨key, raw⟩ := entry
    have next := Call.generateGrows wf c seen key raw
    have more := Call.compileGrows next.1 c (Call.nameOf key :: seen) rest
    obtain ⟨rfl, rfl⟩ := Prod.mk.inj done
    have here : ∀ a ∈ c.files seen key raw, ∀ e,
        (c.generate t seen key raw).1.get? a.path.place = some e → v.get? a.path.place = some e := by
      intro a member e found
      have change := Call.compileChange next.1 c (Call.nameOf key :: seen) rest a.path.place
      refine stays a (List.mem_append_left _ member) e (change.still found fun b later _ same => ?_)
      exact Call.filesApart bundled member later same.symm
    obtain ⟨v₁, outcome, again, same, now⟩ := generateAgain wf wf' (more.2.trans grows) here
    obtain ⟨v', results, rest', same', later⟩ := ih next.1 (wellFormedOfSame wf' same)
      (Prod.eta _).symm (growsOfSame grows same) (fun a member e found => by
        rw [same]
        exact stays a (List.mem_append_right _ member) e found)
    refine ⟨v', _, ?_, fun l => (same' l).trans (same l), .cons now later⟩
    rw [Call.compile, again, rest']

theorem callAgain (r : CompileRequest) (registry : Registry) {s t : Session} (cwd : t.cwd = s.cwd)
    (config : ∀ name, r.configuration = .described (.text name) →
      t.tree.stat t.cwd (.ofText name) = s.tree.stat s.cwd (.ofText name)) :
    r.call registry t = r.call registry s := by
  unfold CompileRequest.call
  rw [outPathAgain r cwd, cwd]
  have options (key : String) := optionsAgain r key cwd config
  simp only [options]

/- A call that returned returns again, leaves the tree as it found it, and gives the same results but
for the extensions, which it skips. If its configuration is read from a file, that is the file it was
before the first run. -/
theorem runAgain (r : CompileRequest) (registry : Registry) (quiet : r.observer.Quiet)
    {s t : Session} (wf : s.tree.WellFormed) {done : Compilation}
    (ran : (r.run registry).on s = (.ok done, t))
    (config : ∀ name, r.configuration = .described (.text name) →
      t.tree.stat s.cwd (.ofText name) = s.tree.stat s.cwd (.ofText name)) :
    ∃ done' t' c, r.call registry s = .ok c ∧ (r.run registry).on t = (.ok done', t') ∧
      (∀ l, t'.tree.get? l = t.tree.get? l) ∧ done'.target = done.target ∧
      done'.outDir = done.outDir ∧
      Repeated c r.source.entityFile.entities done.results done'.results := by
  obtain ⟨result, t₁, ran₁, cwd, course⟩ := r.runCourse registry quiet s
  rw [ran] at ran₁
  obtain ⟨rfl, rfl⟩ := Prod.mk.inj ran₁
  obtain ⟨result', t', ran', _, course'⟩ := r.runCourse registry quiet t
  have same := callAgain r registry cwd (by rw [cwd]; exact config)
  obtain ⟨c, tree, accepted, made, rfl, left⟩ := course.returned
  obtain ⟨absolute, _, _⟩ := CompileRequest.callOk accepted
  obtain ⟨walk, clean⟩ := ensuredLay wf absolute made
  have wfTree := (layLaid wf (rootDirectory s.tree) c.outDir.parts).wellFormed
  rw [walk] at wfTree
  have grown := Call.compileGrows wfTree c [] r.source.entityFile.entities
  rw [← left] at grown
  have walk' := layAgain wf (rootDirectory s.tree) (by rw [walk]; exact grown.2)
  rw [walk] at walk'
  have remade : t.tree.ensureDirectory t.cwd c.outDir = (t.tree, .ok ()) := by
    rw [ensureDirectoryLay grown.1 t.cwd absolute, if_neg (by simp [clean]), walk']
    rfl
  obtain ⟨v', results', again, still, repeated⟩ := compileAgain wfTree grown.1
    (Prod.eta (c.compile tree [] r.source.entityFile.entities)).symm (left ▸ .refl t.tree)
    (fun a _ e found => by rw [left]; exact found)
  obtain ⟨rfl, left'⟩ := course'.compiles (same.trans accepted) remade
  rw [again] at left' ran'
  refine ⟨_, t', c, accepted, ran', fun l => ?_, rfl, rfl, repeated⟩
  rw [left']
  exact still l

theorem userAgain : ∃ done t done' t' c,
    (userRequest.run .standard).on userSession = (.ok done, t) ∧ userSession.tree.WellFormed ∧
    done.results.map (·.isSuccess) = [true, false, true] ∧
    (∀ name, userRequest.configuration = .described (.text name) →
      t.tree.stat userSession.cwd (.ofText name) =
        userSession.tree.stat userSession.cwd (.ofText name)) ∧
    userRequest.call .standard userSession = .ok c ∧
    (userRequest.run .standard).on t = (.ok done', t') ∧ (∀ l, t'.tree.get? l = t.tree.get? l) ∧
    done'.target = done.target ∧ done'.outDir = done.outDir ∧
    Repeated c userRequest.source.entityFile.entities done.results done'.results := by
  obtain ⟨done, t, ran, fates⟩ := CompileRequest.showsOk userRequest userSession
    (fun done _ => decide (done.results.map (·.isSuccess) = [true, false, true])) (by decide +kernel)
  have config (name : String) (named : userRequest.configuration = .described (.text name)) :
      t.tree.stat userSession.cwd (.ofText name) =
        userSession.tree.stat userSession.cwd (.ofText name) := by
    cases named
  obtain ⟨done', t', c, again⟩ := runAgain userRequest .standard noObserverQuiet userWellFormed ran
    config
  exact ⟨done, t, done', t', c, ran, userWellFormed, of_decide_eq_true fates, config, again⟩

def selfRequest : CompileRequest :=
  { target := .text "doctrine"
    source := .file ⟨[], [(.text "User", .null)]⟩
    configuration := .described (.text "User.php") }

def selfSession : Session :=
  { cwd := [], tree := emptySession.tree.put ["User.php"] (.file "{}".toUTF8) }

theorem selfWellFormed : selfSession.tree.WellFormed :=
  @putWellFormed emptySession.tree emptyWellFormed [] "User.php" (.file "{}".toUTF8) rfl nofun

def classAtRoot (c : Call) : Bool :=
  match c.options.lineEnding, c.render (.text "User") .null with
  | .text _, .ok (_, main :: _) => decide (c.target = .doctrine ∧ main.path.place = ["User.php"] ∧
      main.overwrite = true)
  | _, _ => false

theorem phpDetected : Format.detect (Path.ofText "User.php").name = .ok .json := by rfl

theorem phpPath : Path.ofText "User.php" = ⟨.relative, ["User.php"]⟩ := by rfl

theorem selfRefused {t : Session} (cwd : t.cwd = []) {content : String} {rest : List Char}
    (there : t.tree.get? ["User.php"] = some (.file content.toUTF8))
    (begins : content.toList = '<' :: rest) :
    ∃ failure, ((selfRequest.run .standard).on t).1 = .error failure := by
  have stat : t.tree.stat t.cwd (.ofText "User.php") = .ok (.file content.toUTF8) := by
    have fit : fits "User.php" = true := by decide
    rw [phpPath, cwd]
    simp [FileTree.stat, FileTree.locate, FileTree.follow, fit, there]
  obtain ⟨failure, refused⟩ := loadRefused (by decide +kernel) phpDetected stat begins
  obtain ⟨result, t', ran, _, course⟩ := selfRequest.runCourse .standard noObserverQuiet t
  rw [ran]
  generalize t'.tree = after at course
  cases course with
  | refused _ => exact ⟨_, rfl⟩
  | homeless _ _ => exact ⟨_, rfl⟩
  | compiled accepted _ =>
    obtain ⟨_, _, accepted⟩ := exceptBindOk accepted
    obtain ⟨key, _, accepted⟩ := exceptBindOk accepted
    obtain ⟨_, _, accepted⟩ := exceptBindOk accepted
    obtain ⟨options, chosen, _⟩ := exceptBindOk accepted
    have read : (selfRequest.options key).on t = (Config.load key .null (.text "User.php")).on t := rfl
    have load : ((Config.load key .null (.text "User.php")).on t).1 = .error failure := by
      unfold Config.load Config.loadNamed
      rw [Activity.onBind]
      dsimp only
      rw [if_neg (by decide)]
      cases run : (Config.loadFile (.ofText "User.php")).on t with
      | mk result u =>
        rw [run] at refused
        obtain rfl : result = .error failure := refused
        rfl
    rw [read, load] at chosen
    cases chosen

/- A second run need not return: the first one may have written over its configuration. -/
theorem configurationLost : ∃ done t failure,
    (selfRequest.run .standard).on selfSession = (.ok done, t) ∧
      ((selfRequest.run .standard).on t).1 = .error failure := by
  obtain ⟨done, t, ran, fine⟩ := CompileRequest.showsOk selfRequest selfSession
    (fun done _ => undisturbed done.results) (by decide +kernel)
  obtain ⟨c, accepted, shape⟩ := CompileRequest.acceptsOk selfRequest selfSession classAtRoot
    (by decide +kernel)
  obtain ⟨result, t', ran', cwd, course⟩ := selfRequest.runCourse .standard noObserverQuiet selfSession
  rw [ran] at ran'
  obtain ⟨rfl, rfl⟩ := Prod.mk.inj ran'
  obtain ⟨c', tree, accepted', made, rfl, left⟩ := course.returned
  obtain rfl : c = c' := Except.ok.inj (accepted.symm.trans accepted')
  have wf := (ensureKeeps selfWellFormed (CompileRequest.callOk accepted).1 made
    (rootDirectory selfSession.tree)).1
  unfold classAtRoot at shape
  split at shape
  next ending e main others given ok =>
    obtain ⟨target, place, always⟩ := of_decide_eq_true shape
    obtain ⟨⟨rest, begins⟩, _⟩ := doctrineClassText target ok given
    have inPlace := (Call.compileClear wf (clearOfUndisturbed fine)).2
    have member : main ∈ c.rendered [] [(.text "User", .null)] := by
      simp [Call.rendered, Call.files, Call.accept, ok]
    have holds := (inPlace main member).holds always
    rw [← left, place] at holds
    obtain ⟨failure, failed⟩ := selfRefused cwd holds begins
    exact ⟨_, t, failure, ran, failed⟩
  next => cases shape

end EntityForge
