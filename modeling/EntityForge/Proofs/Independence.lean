import EntityForge.Proofs.DiskEffect

/-! Entities beside each other. What the entities before it leave behind does not change the result of
an entity: their files have other places, and the directories they make it would make itself. -/
namespace EntityForge
open FileTree

section Directories
variable {c : Call}

theorem Path.childWhole (p : Path) {s : String} (whole : '/' ∉ s.toList) :
    ∃ more, p.child s = ⟨p.anchor, p.parts ++ more⟩ := by
  have anchored : (ofText s).anchor = .relative :=
    anchorRelative.mpr fun first => whole (List.mem_of_head? first)
  refine ⟨(ofText s).parts, ?_⟩
  unfold child join
  rw [anchored]

def Call.Whole (c : Call) : Prop := ∀ segment ∈ c.segments, '/' ∉ segment.toList

theorem Call.homeBelow (whole : c.Whole) : ∃ more, c.home.parts = c.root.parts ++ more := by
  unfold Call.Whole at whole
  unfold Call.home
  generalize c.root = dir
  generalize c.segments = segments at whole
  induction segments generalizing dir with
  | nil => exact ⟨[], by simp⟩
  | cons segment rest ih =>
    obtain ⟨first, others⟩ := List.forall_mem_cons.mp whole
    obtain ⟨names, child⟩ := Path.childWhole dir first
    obtain ⟨more, below⟩ := ih (dir.child segment) others
    refine ⟨names ++ more, ?_⟩
    rw [List.foldl_cons, below, child, List.append_assoc]

theorem homeInAnnex {l : Location} (onWay : l ∈ c.home.way) : l ∈ c.annex.way := by
  rcases annexCases c with ⟨_, _, deeper⟩ | ⟨_, _, flat⟩
  · rw [deeper, Path.way, Path.under, wayAppend]
    exact List.mem_append_left _ onWay
  · rw [flat]
    exact onWay

theorem rootInHome (whole : c.Whole) {l : Location} (onWay : l ∈ c.root.way) : l ∈ c.home.way := by
  obtain ⟨more, below⟩ := c.homeBelow whole
  rw [Path.way, below, wayAppend]
  exact List.mem_append_left _ onWay

theorem folderInAnnex (whole : c.Whole) (role : Role) {l : Location}
    (onWay : l ∈ (c.folder c.root role).way) : l ∈ c.annex.way := by
  cases role with
  | main => exact homeInAnnex onWay
  | extension => exact onWay
  | mapping => exact homeInAnnex (rootInHome whole onWay)

theorem siteNotAnnex (doctrine : c.annex = c.home.under "Extensions") (target : c.target = .doctrine)
    {label name : String} {role : Role} (words : Name.wellFormed name.toList = true) (shelf : Path) :
    (c.site shelf label name role).place ≠ c.annex.place := by
  intro same
  rw [sitePlace words, doctrine, Path.underPlace _ (by decide)] at same
  have files : c.file label name role = "Extensions" :=
    List.singleton_inj.mp (List.append_inj' same rfl).2
  have lasts := congrArg (fun s => s.toList.getLast?) files
  cases role <;> simp [Call.file, Call.extensionSuffix, target, Target.extension, List.getLast?_append]
    at lasts

theorem siteOnWay {shelf : Path} {label name : String} {role : Role}
    (words : Name.wellFormed name.toList = true)
    (onWay : (c.site shelf label name role).place ∈ c.annex.way) :
    (c.site shelf label name role).place ∈ c.home.way := by
  rcases annexCases c with ⟨target, _, deeper⟩ | ⟨_, _, flat⟩
  · have apart := @siteNotAnnex c deeper target label name role words shelf
    rw [deeper, Path.underPlace _ (by decide)] at apart
    rw [deeper, Path.way, Path.under, wayAppend] at onWay
    rcases List.mem_append.mp onWay with home | last
    · exact home
    · simp only [FileTree.way, List.mem_singleton] at last
      exact absurd (last.trans (stepName (by decide) _)) apart
  · rw [flat] at onWay
    exact onWay

end Directories

theorem FileTree.layAhead {t u : FileTree} {l : Location} {names : List String}
    (ahead : ∀ m ∈ way l names, u.get? m = t.get? m ∨
      (t.get? m = none ∧ u.get? m = some .directory)) :
    (u.lay l names).2 = (t.lay l names).2 := by
  induction names generalizing t u l with
  | nil => rfl
  | cons name rest ih =>
    rw [way] at ahead
    obtain ⟨here, later⟩ := List.forall_mem_cons.mp ahead
    unfold lay
    split
    next back =>
      subst back
      exact ih later
    next plain =>
      rw [stepName plain] at here later
      split
      next fit =>
        have put (w : FileTree) (m : Location) : (w.put (l ++ [name]) .directory).get? m =
            if m = l ++ [name] then some .directory else w.get? m := getPut
        rcases here with same | ⟨absent, there⟩
        · rw [same]
          cases found : t.get? (l ++ [name]) with
          | none =>
            refine ih fun m onWay => ?_
            rw [put, put]
            split
            · exact .inl rfl
            · exact later m onWay
          | some e =>
            cases e with
            | file content => rfl
            | directory => exact ih later
        -- here one walk makes the directory that the other one finds
        · rw [absent, there]
          refine ih fun m onWay => ?_
          rw [put]
          split
          next here => exact .inl (by rw [here, there])
          next => exact later m onWay
      next => rfl

/- What a location may hold after other entities: what was there, a directory on the way to the
extensions, or a file of one of them, and then the directory of the classes is there. -/
inductive BesideAt (c : Call) (names : List String) (t u : FileTree) (l : Location) : Prop where
  | same (same : u.get? l = t.get? l)
  | made (absent : t.get? l = none) (directory : u.get? l = some .directory)
      (onWay : l ∈ c.annex.way)
  | sibling (housed : Housed c u) (file : ∃ content, u.get? l = some (.file content))
      (site : ∃ name ∈ names, Name.wellFormed name.toList = true ∧
        ∃ role, l = (c.site c.root c.stem name role).place)

structure Beside (c : Call) (names : List String) (t u : FileTree) : Prop where
  wellFormed : u.WellFormed
  grows : t.Grows u
  at_ : ∀ l, BesideAt c names t u l

section Steps
variable {c : Call} {names : List String} {t u v : FileTree} {cwd : Location} {name : String}
  {artifacts : List Artifact}

theorem Beside.refl (wf : t.WellFormed) : Beside c names t t :=
  ⟨wf, .refl t, fun _ => .same rfl⟩

theorem Grows.absent (grows : t.Grows u) {l : Location} (gone : u.get? l = none) :
    t.get? l = none := by
  cases found : t.get? l with
  | none => rfl
  | some e =>
    obtain ⟨later, there⟩ := grows.present found
    rw [gone] at there
    cases there

theorem bundleHoused (cwd : Location) {shelf : Path} {label : String} (bundle : Bundle c shelf label name artifacts)
    (wf : t.WellFormed) (words : Name.wellFormed name.toList = true)
    (absolute : shelf.anchor ≠ .relative) :
    Housed c (t.settleAll cwd artifacts).1 ∨ (t.settleAll cwd artifacts).1 = t ∨
      (t.settleAll cwd artifacts).1 = (t.lay [] c.home.parts).1 := by
  have plain := bundle.plain words absolute
  cases bundle with
  | @mk main extension rest first second others _ =>
    obtain ⟨u, failure, done, all⟩ | ⟨u, fate, done, kept, all⟩ :=
      settleAllCases t cwd main (extension :: rest)
    · rw [all]
      have folder : main.path.parent = c.home := first.parent
      cases settleCases done with
      | stuck tree _ =>
        rw [folder] at tree
        rcases tree with ⟨rfl, _⟩ | rfl
        · exact .inr (.inl rfl)
        · exact .inr (.inr rfl)
    · obtain rfl := alwaysWritten done first.overwrite kept
      obtain ⟨housed, _⟩ := classHoused wf words absolute first done
      rw [all]
      have later := settleAllWellFormed housed.wellFormed cwd (List.forall_mem_cons.mp plain).2
      exact .inl (housed.grow later.1 later.2)

theorem Beside.afterBundle (beside : Beside c names t u) (whole : c.Whole)
    (absolute : c.root.anchor ≠ .relative) (bundle : Bundle c c.root c.stem name artifacts)
    (words : Name.wellFormed name.toList = true) :
    Beside c (name :: names) t (u.settleAll cwd artifacts).1 := by
  have wf := beside.wellFormed
  have plain := bundle.plain words absolute
  obtain ⟨wf', more⟩ := settleAllWellFormed wf cwd plain
  refine ⟨wf', beside.grows.trans more, fun l => ?_⟩
  have old (same : (u.settleAll cwd artifacts).1.get? l = u.get? l) :
      BesideAt c (name :: names) t (u.settleAll cwd artifacts).1 l := by
    cases beside.at_ l with
    | same kept => exact .same (same.trans kept)
    | made absent directory onWay => exact .made absent (same.trans directory) onWay
    | sibling housed file site =>
      obtain ⟨content, file⟩ := file
      obtain ⟨n, member, rest⟩ := site
      exact .sibling (housed.grow wf' more) ⟨content, same.trans file⟩
        ⟨n, List.mem_cons_of_mem _ member, rest⟩
  -- either the directory of the classes is there now, or nothing but the way to it
  rcases bundleHoused cwd bundle wf words absolute with housed | still | walked
  · have changed : Change u (u.settleAll cwd artifacts).1 artifacts l :=
      bundle.change wf words absolute l
    cases changed with
    | same kept => exact old kept
    | made absent directory onWay =>
      obtain ⟨a, member, onWay⟩ := onWay
      obtain ⟨role, filed⟩ := bundle.filed a member
      rw [filed.parent] at onWay
      exact .made (Grows.absent beside.grows absent) directory (folderInAnnex whole role onWay)
    | landed file =>
      obtain ⟨a, member, here, file, _⟩ := file
      obtain ⟨role, filed⟩ := bundle.filed a member
      refine .sibling housed ⟨_, file⟩ ⟨name, List.mem_cons_self, words, role, ?_⟩
      rw [← here, filed.path]
  · exact old (by rw [still])
  · rcases (layLaid wf (rootDirectory u) c.home.parts).news l with same | ⟨absent, new, onWay⟩
    · exact old (by rw [walked, same])
    · refine .made (Grows.absent beside.grows absent) ?_ (homeInAnnex onWay)
      rw [walked]
      exact new

theorem Housed.onWay (housed : Housed c t) {l : Location} (onWay : l ∈ c.home.way) :
    t.get? l = some .directory := by
  have through : (t.lay [] c.home.parts).2 = true := by rw [housed.laid]
  have there := layReaches housed.wellFormed (rootDirectory t) through onWay
  rwa [housed.laid] at there

theorem Beside.ahead (beside : Beside c names t u) {l : Location} (onWay : l ∈ c.home.way) :
    u.get? l = t.get? l ∨ (t.get? l = none ∧ u.get? l = some .directory) := by
  cases beside.at_ l with
  | same kept => exact .inl kept
  | made absent directory _ => exact .inr ⟨absent, directory⟩
  | sibling housed file _ =>
    obtain ⟨content, file⟩ := file
    rw [housed.onWay onWay] at file
    cases file

theorem Beside.place (beside : Beside c names t u) (new : name ∉ names)
    (words : Name.wellFormed name.toList = true) (role : Role) :
    (c.site c.root c.stem name role).place ∈ c.home.way ∨
      u.get? (c.site c.root c.stem name role).place =
        t.get? (c.site c.root c.stem name role).place := by
  cases beside.at_ (c.site c.root c.stem name role).place with
  | same kept => exact .inr kept
  | made _ _ onWay => exact .inl (siteOnWay words onWay)
  | sibling _ _ site =>
    obtain ⟨n, member, words', role', same⟩ := site
    rw [(siteApart words words' same).1] at new
    exact absurd member new

theorem layPlace (wf : t.WellFormed) {l : Location} (off : l ∉ c.home.way) :
    (t.lay [] c.home.parts).1.get? l = t.get? l := by
  rcases (layLaid wf (rootDirectory t) c.home.parts).news l with same | ⟨_, _, onWay⟩
  · exact same
  · exact absurd onWay off

theorem classAlike (cwd : Location) (beside : Beside c names t u) (wf : t.WellFormed) (new : name ∉ names)
    (words : Name.wellFormed name.toList = true) {a : Artifact}
    (filed : Filed c c.root c.stem name .main a) : (u.settle cwd a).2 = (t.settle cwd a).2 := by
  have folder : a.path.parent = c.home := filed.parent
  rw [settleVerdict cwd filed.overwrite, settleVerdict cwd filed.overwrite, folder]
  have through : (u.lay [] c.home.parts).2 = (t.lay [] c.home.parts).2 :=
    layAhead fun m onWay => beside.ahead onWay
  rw [through]
  cases came : (t.lay [] c.home.parts).2 with
  | false => simp [verdict]
  | true =>
    have entry : (u.lay [] c.home.parts).1.get? a.path.place =
        (t.lay [] c.home.parts).1.get? a.path.place := by
      by_cases onWay : a.path.place ∈ c.home.way
      · rw [layReaches beside.wellFormed (rootDirectory u) (through.trans came) onWay,
          layReaches wf (rootDirectory t) came onWay]
      · rw [layPlace beside.wellFormed onWay, layPlace wf onWay]
        have place := beside.place new words .main
        rw [← filed.path] at place
        exact place.resolve_left onWay
    rw [entry]

theorem placeStays {done : List Artifact} {role : Role} (whole : c.Whole)
    (words : Name.wellFormed name.toList = true)
    (each : ∀ a ∈ done, ∃ other, other ≠ role ∧ Filed c c.root c.stem name other a)
    (change : Change t v done (c.site c.root c.stem name role).place) :
    (c.site c.root c.stem name role).place ∈ c.home.way ∨
      v.get? (c.site c.root c.stem name role).place =
        t.get? (c.site c.root c.stem name role).place := by
  cases change with
  | same kept => exact .inr kept
  | made _ _ onWay =>
    obtain ⟨a, member, onWay⟩ := onWay
    obtain ⟨other, _, filed⟩ := each a member
    rw [filed.parent] at onWay
    exact .inl (siteOnWay words (folderInAnnex whole other onWay))
  | landed file =>
    obtain ⟨a, member, here, _⟩ := file
    obtain ⟨other, differ, filed⟩ := each a member
    rw [filed.path] at here
    exact absurd (siteApart words words here).2 differ

theorem placeAlike {t' u' : FileTree} {done : List Artifact} {role : Role}
    (beside : Beside c names t u) (whole : c.Whole) (new : name ∉ names)
    (words : Name.wellFormed name.toList = true)
    (each : ∀ a ∈ done, ∃ other, other ≠ role ∧ Filed c c.root c.stem name other a)
    (housed : Housed c t') (housed' : Housed c u')
    (change : ∀ l, Change t t' done l) (change' : ∀ l, Change u u' done l) :
    u'.get? (c.site c.root c.stem name role).place =
      t'.get? (c.site c.root c.stem name role).place := by
  by_cases onWay : (c.site c.root c.stem name role).place ∈ c.home.way
  · rw [housed.onWay onWay, housed'.onWay onWay]
  · have first := (placeStays whole words each (change _)).resolve_left onWay
    have second := (placeStays whole words each (change' _)).resolve_left onWay
    have start := (beside.place new words role).resolve_left onWay
    rw [first, second, start]

theorem annexAlike {t' u' : FileTree} {main : Artifact} (beside : Beside c names t u)
    (words : Name.wellFormed name.toList = true) (filed : Filed c c.root c.stem name .main main)
    (housed : Housed c t') (housed' : Housed c u') (grows : t.Grows t') (grows' : u.Grows u')
    (change : ∀ l, Change t t' [main] l) (change' : ∀ l, Change u u' [main] l) :
    isFile (u'.get? c.annex.place) = isFile (t'.get? c.annex.place) := by
  rcases annexCases c with ⟨target, _, deeper⟩ | ⟨_, _, flat⟩
  · have apart {n : String} {role : Role} (words : Name.wellFormed n.toList = true) :=
      @siteNotAnnex c deeper target c.stem n role words c.root
    have others : ∀ a ∈ [main], a.path.place ≠ c.annex.place := by
      intro a member
      obtain rfl := List.mem_singleton.mp member
      rw [filed.path]
      exact apart words
    rw [Bool.eq_iff_iff, isFileIff, isFileIff]
    constructor
    · rintro ⟨content, file⟩
      have before := (change' _).earlier others file
      cases beside.at_ c.annex.place with
      | same kept => exact grows.2 _ content (kept.symm.trans before)
      | made _ directory _ => simp [directory] at before
      | sibling _ _ site =>
        obtain ⟨n, _, words', role, same⟩ := site
        exact absurd same.symm (apart words')
    · rintro ⟨content, file⟩
      obtain ⟨later, there⟩ := beside.grows.2 _ content ((change _).earlier others file)
      exact grows'.2 _ later there
  · rw [flat, housed.here, housed'.here]

theorem extensionAlike {t' u' : FileTree} {a : Artifact}
    (annex : isFile (u'.get? c.annex.place) = isFile (t'.get? c.annex.place))
    (place : u'.get? a.path.place = t'.get? a.path.place) :
    c.extensionFate u' a = c.extensionFate t' a := by
  unfold Call.extensionFate
  rw [annex, place]

theorem layPrefix (wf : t.WellFormed) {names more : List String}
    (laid : t.lay [] (names ++ more) = (t, true)) : t.lay [] names = (t, true) := by
  have start := layLaid wf (rootDirectory t) names
  rw [layAppend] at laid
  cases walk : t.lay [] names with
  | mk w through =>
    rw [walk] at laid start
    cases through with
    | false => simp at laid
    | true =>
      have again := layAgain wf (rootDirectory t) (Grows.refl (t.lay [] names).1)
      rw [walk] at again
      have here := (reachOk start.wellFormed (rootDirectory w)
        (reachOfLay start.wellFormed (rootDirectory w) again)).2.2
      have later := (layLaid start.wellFormed here more).grows
      simp only [if_true] at laid
      rw [laid] at later
      have within : (t.lay [] names).1.Grows t := by
        rw [walk]
        exact later
      have still := layAgain wf (rootDirectory t) within
      rw [walk] at still
      exact still

theorem Housed.rootLaid (housed : Housed c t) (whole : c.Whole) :
    t.lay [] c.root.parts = (t, true) := by
  obtain ⟨more, below⟩ := c.homeBelow whole
  exact layPrefix housed.wellFormed (below ▸ housed.laid)

theorem mappingAlike {t' u' : FileTree} {a : Artifact} (whole : c.Whole)
    (filed : Filed c c.root c.stem name .mapping a) (housed : Housed c t') (housed' : Housed c u')
    (place : u'.get? a.path.place = t'.get? a.path.place) :
    (u'.settle cwd a).2 = (t'.settle cwd a).2 := by
  have folder : a.path.parent = c.root := filed.parent
  rw [settleVerdict cwd filed.overwrite, settleVerdict cwd filed.overwrite, folder,
    housed.rootLaid whole, housed'.rootLaid whole, place]

structure Abreast (c : Call) (name : String) (t u : FileTree) (done : List Artifact)
    (t' u' : FileTree) : Prop where
  housed : Housed c t'
  housed' : Housed c u'
  change : ∀ l, Change t t' done l
  change' : ∀ l, Change u u' done l

theorem Abreast.next {done : List Artifact} {t' u' v' w' : FileTree} {a : Artifact} {role : Role}
    {fate : Fate} (abreast : Abreast c name t u done t' u') (words : Name.wellFormed name.toList = true)
    (absolute : c.root.anchor ≠ .relative) (fit : fits (name ++ c.target.extension) = true)
    (filed : Filed c c.root c.stem name role a) (alone : t'.settle cwd a = (v', fate))
    (along : u'.settle cwd a = (w', fate)) : Abreast c name t u (done ++ [a]) v' w' := by
  have plain := filed.plain absolute words
  have next := settleWellFormed abreast.housed.wellFormed cwd plain
  have next' := settleWellFormed abreast.housed'.wellFormed cwd plain
  rw [alone] at next
  rw [along] at next'
  refine ⟨abreast.housed.grow next.1 next.2, abreast.housed'.grow next'.1 next'.2, fun l => ?_,
    fun l => ?_⟩
  · exact (abreast.change l).trans (filedChange abreast.housed words absolute fit filed alone l)
  · exact (abreast.change' l).trans (filedChange abreast.housed' words absolute fit filed along l)

theorem settleAllAlike {a : Artifact} {rest : List Artifact}
    (first : (u.settle cwd a).2 = (t.settle cwd a).2)
    (later : ∀ t' u' fate, t.settle cwd a = (t', fate) → u.settle cwd a = (u', fate) →
      fate.failure? = none → (u'.settleAll cwd rest).2 = (t'.settleAll cwd rest).2) :
    (u.settleAll cwd (a :: rest)).2 = (t.settleAll cwd (a :: rest)).2 := by
  have along : u.settle cwd a = ((u.settle cwd a).1, (t.settle cwd a).2) := by rw [← first]
  obtain ⟨t', failure, alone, all⟩ | ⟨t', fate, alone, kept, all⟩ := settleAllCases t cwd a rest
  · rw [alone] at along
    rw [all, settleAllFailed along]
  · rw [alone] at along
    rw [all, settleAllNext along kept, later _ _ _ alone along kept]

theorem Abreast.place {done : List Artifact} {t' u' : FileTree} {a : Artifact} {role : Role}
    (abreast : Abreast c name t u done t' u') (beside : Beside c names t u) (whole : c.Whole)
    (new : name ∉ names) (words : Name.wellFormed name.toList = true)
    (each : ∀ b ∈ done, ∃ other, other ≠ role ∧ Filed c c.root c.stem name other b)
    (filed : Filed c c.root c.stem name role a) :
    u'.get? a.path.place = t'.get? a.path.place := by
  rw [filed.path]
  exact placeAlike beside whole new words each abreast.housed abreast.housed' abreast.change
    abreast.change'

theorem mappingsAlike {main extension : Artifact} {rest : List Artifact} {t' u' : FileTree}
    (abreast : Abreast c name t u [main, extension] t' u') (beside : Beside c names t u)
    (whole : c.Whole) (new : name ∉ names) (words : Name.wellFormed name.toList = true)
    (first : Filed c c.root c.stem name .main main)
    (second : Filed c c.root c.stem name .extension extension)
    (others : ∀ a ∈ rest, Filed c c.root c.stem name .mapping a) (single : rest.length ≤ 1) :
    (u'.settleAll cwd rest).2 = (t'.settleAll cwd rest).2 := by
  match rest, single with
  | [], _ => rfl
  | [a], _ =>
    have filed := others a (List.mem_singleton_self a)
    have each : ∀ b ∈ [main, extension],
        ∃ other, other ≠ Role.mapping ∧ Filed c c.root c.stem name other b := by
      intro b member
      rcases List.mem_cons.mp member with rfl | member
      · exact ⟨.main, by simp, first⟩
      · obtain rfl := List.mem_singleton.mp member
        exact ⟨.extension, by simp, second⟩
    have place := abreast.place beside whole new words each filed
    exact settleAllAlike (mappingAlike whole filed abreast.housed abreast.housed' place)
      fun _ _ _ _ _ _ => rfl

theorem followersAlike {main extension : Artifact} {rest : List Artifact} {t' u' : FileTree}
    (abreast : Abreast c name t u [main] t' u') (beside : Beside c names t u) (whole : c.Whole)
    (absolute : c.root.anchor ≠ .relative) (new : name ∉ names)
    (words : Name.wellFormed name.toList = true) (fit : fits (name ++ c.target.extension) = true)
    (grows : t.Grows t') (grows' : u.Grows u') (first : Filed c c.root c.stem name .main main)
    (second : Filed c c.root c.stem name .extension extension)
    (others : ∀ a ∈ rest, Filed c c.root c.stem name .mapping a) (single : rest.length ≤ 1) :
    (u'.settleAll cwd (extension :: rest)).2 = (t'.settleAll cwd (extension :: rest)).2 := by
  have each : ∀ b ∈ [main], ∃ other, other ≠ Role.extension ∧ Filed c c.root c.stem name other b := by
    intro b member
    obtain rfl := List.mem_singleton.mp member
    exact ⟨.main, by simp, first⟩
  have annex := annexAlike beside words first abreast.housed abreast.housed' grows grows'
    abreast.change abreast.change'
  refine settleAllAlike ?_ fun _ _ _ alone along _ => ?_
  · rw [(extensionSettle cwd abreast.housed words absolute second fit).1,
      (extensionSettle cwd abreast.housed' words absolute second fit).1]
    exact extensionAlike annex (abreast.place beside whole new words each second)
  · have abreast := abreast.next words absolute fit second alone along
    exact mappingsAlike abreast beside whole new words first second others single

theorem bundleAlike (beside : Beside c names t u) (wf : t.WellFormed) (whole : c.Whole)
    (absolute : c.root.anchor ≠ .relative) (new : name ∉ names)
    (words : Name.wellFormed name.toList = true)
    (bundle : Bundle c c.root c.stem name artifacts) :
    (u.settleAll cwd artifacts).2 = (t.settleAll cwd artifacts).2 := by
  cases bundle with
  | @mk main extension rest first second others single =>
    have plain := first.plain absolute words
    refine settleAllAlike (classAlike cwd beside wf new words first)
      fun t' u' fate alone along fine => ?_
    obtain rfl := alwaysWritten alone first.overwrite fine
    obtain ⟨housed, fit⟩ := classHoused wf words absolute first alone
    obtain ⟨housed', _⟩ := classHoused beside.wellFormed words absolute first along
    have grows := (settleWellFormed wf cwd plain).2
    have grows' := (settleWellFormed beside.wellFormed cwd plain).2
    rw [alone] at grows
    rw [along] at grows'
    have always : main.overwrite = false → Fate.written = .written →
        t.get? main.path.place = none := by simp [first.overwrite, Role.always]
    have always' : main.overwrite = false → Fate.written = .written →
        u.get? main.path.place = none := by simp [first.overwrite, Role.always]
    have abreast : Abreast c name t u [main] t' u' :=
      ⟨housed, housed', fun l => (settleCases alone).change wf plain always l,
        fun l => (settleCases along).change beside.wellFormed plain always' l⟩
    exact followersAlike abreast beside whole absolute new words fit grows grows' first second others
      single

end Steps

theorem Beside.more {c : Call} {names : List String} {t u : FileTree} (beside : Beside c names t u)
    (name : String) : Beside c (name :: names) t u := by
  refine ⟨beside.wellFormed, beside.grows, fun l => ?_⟩
  cases beside.at_ l with
  | same kept => exact .same kept
  | made absent directory onWay => exact .made absent directory onWay
  | sibling housed file site =>
    obtain ⟨n, member, rest⟩ := site
    exact .sibling housed file ⟨n, List.mem_cons_of_mem _ member, rest⟩

section Entities
variable {c : Call} {seen : List String} {t u : FileTree}

theorem generateBeside (beside : Beside c seen t u) (whole : c.Whole)
    (absolute : c.root.anchor ≠ .relative) (flat : c.Shelved c.root c.stem) (key raw : Value) :
    Beside c (Call.nameOf key :: seen) t (c.generate u seen key raw).1 := by
  rw [Call.generateSettle beside.wellFormed]
  cases accepted : c.accept seen key raw with
  | error failure => exact beside.more _
  | ok rendered =>
    obtain ⟨e, artifacts⟩ := rendered
    obtain ⟨_, ok⟩ := Call.acceptOk accepted
    obtain ⟨name, words, _⟩ := Call.renderOk ok
    rw [name]
    exact beside.afterBundle whole absolute (flat key raw e artifacts ok) words

theorem generateAlike (beside : Beside c seen t u) (wf : t.WellFormed) (whole : c.Whole)
    (absolute : c.root.anchor ≠ .relative) (flat : c.Shelved c.root c.stem) {key : Value}
    (new : Call.nameOf key ∉ seen) (raw : Value) :
    (c.generate u seen key raw).2 = (c.generate t [] key raw).2 := by
  have alone : Call.nameOf key ∉ [] := List.not_mem_nil
  rw [Call.generateSettle beside.wellFormed, Call.generateSettle wf, Call.acceptNew new,
    Call.acceptNew alone]
  cases ok : c.render key raw with
  | error failure => rfl
  | ok rendered =>
    obtain ⟨e, artifacts⟩ := rendered
    obtain ⟨name, words, _⟩ := Call.renderOk ok
    rw [name] at new
    dsimp only
    rw [bundleAlike beside wf whole absolute new words (flat key raw e artifacts ok)]

theorem compileAlike (beside : Beside c seen t u) (wf : t.WellFormed) (whole : c.Whole)
    (absolute : c.root.anchor ≠ .relative) (flat : c.Shelved c.root c.stem) {front back : Entries}
    {key raw : Value} (new : Call.nameOf key ∉ seen)
    (first : ∀ entry ∈ front, Call.nameOf entry.1 ≠ Call.nameOf key) :
    (c.compile u seen (front ++ (key, raw) :: back)).2[front.length]? =
      some ⟨Call.nameOf key, c.target, (c.generate t [] key raw).2⟩ := by
  induction front generalizing u seen with
  | nil =>
    have same := generateAlike beside wf whole absolute flat new raw
    simp [Call.compile, same]
  | cons entry rest ih =>
    obtain ⟨other, raw'⟩ := entry
    obtain ⟨differ, first⟩ := List.forall_mem_cons.mp first
    have next := generateBeside beside whole absolute flat other raw'
    have new : Call.nameOf key ∉ Call.nameOf other :: seen := by
      simp [new, differ.symm]
    have later := ih next new first
    simpa [Call.compile] using later

end Entities

def CompileRequest.only (r : CompileRequest) (key raw : Value) : CompileRequest :=
  { r with source := .file ⟨r.source.entityFile.segments, [(key, raw)]⟩ }

/- The result of an entity whose name is new in its file is the one it has in a file of its own. -/
theorem entityAlone (r : CompileRequest) (registry : Registry) (quiet : r.observer.Quiet)
    {s t : Session} (wf : s.tree.WellFormed) {done : Compilation}
    (ran : (r.run registry).on s = (.ok done, t)) {front back : Entries} {key raw : Value}
    (split : r.source.entityFile.entities = front ++ (key, raw) :: back)
    (first : ∀ entry ∈ front, Call.nameOf entry.1 ≠ Call.nameOf key)
    (whole : ∀ segment ∈ r.source.entityFile.segments, '/' ∉ segment.toList)
    (blank : ∀ c, r.call registry s = .ok c → c.options.xmlOutDir = .null ∨
      ∃ text, c.options.xmlOutDir = .text text ∧ Text.trim text = "") :
    ∃ result done' t', done.results[front.length]? = some result ∧
      ((r.only key raw).run registry).on s = (.ok done', t') ∧ done'.results = [result] := by
  obtain ⟨result, t₁, ran₁, _, course⟩ := r.runCourse registry quiet s
  rw [ran] at ran₁
  obtain ⟨rfl, rfl⟩ := Prod.mk.inj ran₁
  obtain ⟨c, tree, accepted, made, rfl, _⟩ := course.returned
  obtain ⟨absolute, _, segments⟩ := CompileRequest.callOk accepted
  obtain ⟨walk, _⟩ := ensuredLay wf absolute made
  have wf' := (layLaid wf (rootDirectory s.tree) c.outDir.parts).wellFormed
  rw [walk] at wf'
  have flatDir : c.mappingDir = .ok c.root := by
    unfold Call.mappingDir
    rcases blank c accepted with none | ⟨text, given, empty⟩
    · simp [none, Value.truthy]
    · simp [given, empty]
  have whole : c.Whole := by
    unfold Call.Whole
    rw [segments]
    exact whole
  have flat : c.Shelved c.root c.stem := fun _ _ _ _ ok => Call.bundledFlat whole flatDir ok
  have start : c.root.anchor ≠ .relative := by simp [Call.root, Path.resolve, Path.ofLocation]
  obtain ⟨result', t', ran', _, course'⟩ := (r.only key raw).runCourse registry quiet s
  obtain ⟨rfl, _⟩ := course'.compiles accepted made
  refine ⟨_, _, t', ?_, ran', rfl⟩
  dsimp only
  rw [split]
  exact compileAlike (Beside.refl wf') wf' whole start flat (by simp) first

def unnamedMappings (c : Call) : Bool :=
  c.options.xmlOutDir matches .null

def shopRequest : CompileRequest :=
  { target := .text "ef"
    source := .file ⟨["App"], [(.text "User", .null), (.text "Order", .null)]⟩ }

theorem orderAlone : ∃ done t, (shopRequest.run .standard).on emptySession = (.ok done, t) ∧
    emptySession.tree.WellFormed ∧
    shopRequest.source.entityFile.entities = [(.text "User", .null)] ++ (.text "Order", .null) :: [] ∧
    (∀ entry ∈ [(Value.text "User", Value.null)],
      Call.nameOf entry.1 ≠ Call.nameOf (.text "Order")) ∧
    (∀ segment ∈ shopRequest.source.entityFile.segments, '/' ∉ segment.toList) ∧
    (∀ c, shopRequest.call .standard emptySession = .ok c → c.options.xmlOutDir = .null ∨
      ∃ text, c.options.xmlOutDir = .text text ∧ Text.trim text = "") ∧
    ∃ result done' t', done.results[1]? = some result ∧
      ((shopRequest.only (.text "Order") .null).run .standard).on emptySession = (.ok done', t') ∧
      done'.results = [result] := by
  obtain ⟨done, t, ran, _⟩ := CompileRequest.showsOk shopRequest emptySession (fun _ _ => true)
    (by decide +kernel)
  have blank (c : Call) (accepted : shopRequest.call .standard emptySession = .ok c) :
      c.options.xmlOutDir = .null ∨
        ∃ text, c.options.xmlOutDir = .text text ∧ Text.trim text = "" := by
    obtain ⟨c', accepted', test⟩ := CompileRequest.acceptsOk shopRequest emptySession
      unnamedMappings (by decide +kernel)
    obtain rfl : c = c' := Except.ok.inj (accepted.symm.trans accepted')
    unfold unnamedMappings at test
    split at test
    next none => exact .inl none
    next => cases test
  have differ : ∀ entry ∈ [(Value.text "User", Value.null)],
      Call.nameOf entry.1 ≠ Call.nameOf (.text "Order") := by
    intro entry member
    obtain rfl := List.mem_singleton.mp member
    decide
  have whole : ∀ segment ∈ shopRequest.source.entityFile.segments, '/' ∉ segment.toList := by
    intro segment member
    obtain rfl := List.mem_singleton.mp member
    decide
  exact ⟨done, t, ran, emptyWellFormed, rfl, differ, whole, blank,
    entityAlone shopRequest .standard noObserverQuiet emptyWellFormed ran rfl differ whole blank⟩

end EntityForge
