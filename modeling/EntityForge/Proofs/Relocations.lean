import EntityForge.Proofs.Expansions
import EntityForge.Proofs.Wildcards

/-! The working directory is taken literally. It stands in front of every local pattern and in every
text that files are sorted by, but what is found below it, and in which order, depends on what is below
it alone. -/
namespace EntityForge
open FileTree EntityForge.Path

namespace FileTree
variable {t : FileTree} {l : Location} {names : List String}

theorem reachAppend (t : FileTree) (l : Location) (names more : List String) :
    t.reach l (names ++ more) = match t.reach l names with
      | .ok inner => t.reach inner more
      | .error obstacle => .error obstacle := by
  induction names generalizing l with
  | nil => rfl
  | cons name rest ih =>
    rw [List.cons_append, reach, reach]
    cases t.enter l name with
    | ok inner => exact ih inner
    | error obstacle => rfl

theorem reachNamed (sound : t.Sound) {m : Location} (reached : t.reach l names = .ok m) :
    ∀ name ∈ names, name = ".." ∨ ProperName name := by
  induction names generalizing l with
  | nil => exact nofun
  | cons name rest ih =>
    unfold reach at reached
    cases entered : t.enter l name with
    | error obstacle => simp [entered] at reached
    | ok inner =>
      rw [entered] at reached
      refine List.forall_mem_cons.mpr ⟨?_, ih reached⟩
      by_cases back : name = ".."
      · exact .inl back
      by_cases fit : fits name = true
      · rw [enterPlain back fit] at entered
        cases found : t.get? (l ++ [name]) with
        | none => simp [found] at entered
        | some e => exact .inr (sound.proper found name (by simp))
      · rw [enterLong back fit] at entered
        cases entered

theorem reachBelow (sound : t.Sound) (here : t.get? l = some .directory) (level : ".." ∉ names)
    {m : Location} :
    t.reach l names = .ok m ↔ m = l ++ names ∧ t.get? (l ++ names) = some .directory := by
  constructor
  · intro reached
    obtain ⟨_, rfl, there⟩ := reachOk sound.wellFormed here reached
    rw [Path.stepsPlain (fun name member same => level (same ▸ member))] at there ⊢
    exact ⟨rfl, there⟩
  · rintro ⟨rfl, there⟩
    induction names generalizing l with
    | nil => simp [reach]
    | cons name rest ih =>
      rw [List.mem_cons, not_or] at level
      have proper := sound.proper there name (by simp)
      rw [← List.singleton_append, ← List.append_assoc] at there ⊢
      have inner : t.get? (l ++ [name]) = some .directory := prefixDirectory sound.wellFormed there
      rw [List.singleton_append, reach, enterPlain proper.up proper.fits, inner]
      exact ih inner level.2 there

end FileTree

namespace InputFiles
open Activity Pattern
variable {t : FileTree} {cwd l : Location} {p base : Path} {comps : List (List Char)} {name : String}
  {names : List String}

section Escaped
variable (sound : t.Sound) (here : t.get? cwd = some .directory)
include sound

theorem listingApart (p : Path) : (listing t cwd p).Nodup := by
  unfold listing
  split
  · exact List.nodup_nil
  · split
    · exact sound.childrenApart _
    · exact List.nodup_nil

include here

theorem directoryListed (plain : name ≠ "..") (directory : isDirectoryAt t cwd (under p name) = true) :
    name ∈ listing t cwd p := by
  obtain ⟨clean, m, reached⟩ := (directoryIff sound.wellFormed here).mp directory
  rw [enteredUnder] at reached
  cases above : entered t cwd p with
  | error obstacle => simp [above] at reached
  | ok l =>
    rw [above] at reached
    dsimp only at reached
    by_cases fit : fits name = true
    · rw [enterPlain plain fit] at reached
      rw [listing, if_neg (by simp [(underClean.mp clean).1]), above]
      cases found : t.get? (l ++ [name]) with
      | none => simp [found] at reached
      | some e => exact memberChildren.mpr ⟨e, found⟩
    · rw [enterLong plain fit] at reached
      cases reached

theorem visitEscaped (dot : name ≠ ".") (more : comps ≠ []) (p : Path) :
    visit t cwd (escape name.toList :: comps) p = visit t cwd comps (under p name) := by
  by_cases magic : name.toList.any isMagic = true
  · have plain : name ≠ ".." := by
      rintro rfl
      revert magic
      decide
    have bracket := escapeBracket magic
    have single : escape name.toList ≠ ['*', '*'] := by
      intro stars
      rw [stars] at bracket
      simp at bracket
    have last : comps.isEmpty = false := by simpa using more
    have picks (other : String) : ((isHidden (escape name.toList) || !isHidden other.toList) &&
        accepts (escape name.toList) other.toList &&
        (false || isDirectoryAt t cwd (under p other))) =
          (other == name && isDirectoryAt t cwd (under p name)) := by
      rw [escapeHead]
      by_cases same : other = name
      · subst same
        have accepted : accepts (escape other.toList) other.toList = true := acceptsEscape.mpr rfl
        cases isHidden other.toList <;> simp [accepted]
      · have refused : accepts (escape name.toList) other.toList = false := by
          rw [← Bool.not_eq_true, acceptsEscape, String.toList_inj]
          exact same
        simp [refused, same]
    rw [visit, next, if_neg single, if_pos (List.any_eq_true.mpr ⟨'[', bracket, rfl⟩), last]
    simp only [picks]
    by_cases directory : isDirectoryAt t cwd (under p name) = true
    · have found := List.count_eq_one_of_mem (listingApart sound p)
        (directoryListed sound here plain directory)
      simp only [directory, Bool.and_true, List.filter_beq, found]
      simp
    · have nowhere : isDirectoryAt t cwd (under p name) = false := by simpa using directory
      simp [nowhere, visitNowhere sound here nowhere more]
  · have plain : name.toList.any isMagic = false := by simpa using magic
    have other : name.toList ≠ ['.'] := fun same => dot (String.toList_inj.mp same)
    rw [escapePlain plain, ← visitLiteral sound here plain more, literal, if_neg other,
      String.ofList_toList]

end Escaped

theorem underDown (base : Path) (names : List String) (name : String) :
    under (base.down names) name = base.down (names ++ [name]) := by
  simp [under, down]

structure Seat (t : FileTree) (cwd : Location) (base : Path) (l : Location) : Prop where
  sound : t.Sound
  here : t.get? cwd = some .directory
  absolute : base.anchor ≠ .relative
  named : ∀ name ∈ base.parts, PathName name ∧ name ≠ "."
  reached : entered t cwd base = .ok l

namespace Seat
variable (seat : Seat t cwd base l)
include seat

theorem clean : base.hasNul = false := by
  have parts := reachNamed seat.sound seat.reached
  unfold hasNul
  rw [List.any_eq_false]
  intro name member zero
  rcases parts name member with rfl | proper
  · revert zero
    decide
  · exact proper.clean (by simpa using zero)

theorem directory : t.get? l = some .directory :=
  ((enteredIff seat.sound.wellFormed seat.here).mp seat.reached).2

theorem enteredDown (names : List String) : entered t cwd (base.down names) = t.reach l names := by
  have reached := seat.reached
  unfold entered at reached ⊢
  have same : origin cwd (base.down names) = origin cwd base := rfl
  rw [same, down, reachAppend, reached]

theorem downClean {e : Entry} (found : t.get? (l ++ names) = some e) :
    (base.down names).hasNul = false := by
  have front := seat.clean
  have rest : ∀ name ∈ names, '\x00' ∉ name.toList := fun name member =>
    (seat.sound.proper found name (List.mem_append_right l member)).clean
  unfold hasNul at front ⊢
  rw [down, List.any_append, front, Bool.false_or, List.any_eq_false]
  simpa using rest

theorem directoryDown (level : ".." ∉ names) :
    isDirectoryAt t cwd (base.down names) = true ↔ t.get? (l ++ names) = some .directory := by
  rw [directoryIff seat.sound.wellFormed seat.here, seat.enteredDown]
  simp only [reachBelow seat.sound seat.directory level]
  exact ⟨fun ⟨_, _, _, found⟩ => found, fun found => ⟨seat.downClean found, _, rfl, found⟩⟩

theorem listingDown (level : ".." ∉ names) :
    listing t cwd (base.down names) = t.children (l ++ names) := by
  by_cases found : t.get? (l ++ names) = some .directory
  · have reached := (reachBelow seat.sound seat.directory level).mpr ⟨rfl, found⟩
    rw [listing, if_neg (by simp [seat.downClean found]), seat.enteredDown, reached]
  · have closed : t.children (l ++ names) = [] := by
      refine List.eq_nil_iff_forall_not_mem.mpr fun name member => found ?_
      obtain ⟨e, inner⟩ := memberChildren.mp member
      exact seat.sound.wellFormed _ _ _ inner
    rw [closed]
    refine List.eq_nil_iff_forall_not_mem.mpr fun name member => found ?_
    exact (seat.directoryDown level).mp (listingDirectory seat.sound.wellFormed seat.here member)

theorem thereDown (level : ".." ∉ names) (plain : name ≠ "..") :
    isThere t cwd (under (base.down names) name) = true ↔
      ∃ e, t.get? (l ++ (names ++ [name])) = some e := by
  rw [thereUnder seat.sound.wellFormed seat.here, seat.enteredDown]
  simp only [reachBelow seat.sound seat.directory level]
  constructor
  · rintro ⟨_, _, ⟨rfl, _⟩, back | ⟨_, e, found⟩⟩
    · exact absurd back plain
    · exact ⟨e, by rwa [← List.append_assoc]⟩
  · rintro ⟨e, found⟩
    have clean := seat.downClean found
    rw [← underDown, underClean] at clean
    rw [← List.append_assoc] at found
    have proper := seat.sound.proper found name (by simp)
    exact ⟨clean, _, ⟨rfl, seat.sound.wellFormed _ _ _ found⟩, .inr ⟨proper.fits, e, found⟩⟩

theorem resolveDown (level : ".." ∉ names) :
    (base.down names).resolve cwd = .ofLocation (l ++ names) := by
  have steps := (reachOk seat.sound.wellFormed (originDirectory seat.here base) seat.reached).2.1
  have absolute := seat.absolute
  have located : (base.down names).locate cwd = (base.parts ++ names).foldl step [] := by
    unfold Path.locate
    cases anchored : (base.down names).anchor with
    | relative => exact absurd anchored absolute
    | root => rfl
    | doubleRoot => rfl
  rw [origin, if_neg absolute] at steps
  rw [Path.resolve, located, List.foldl_append, ← steps,
    stepsPlain (fun name member same => level (same ▸ member))]

omit seat in
theorem shallowNext {depth : Nat} (shallow : Shallow t (depth + 1) (l ++ names)) (name : String) :
    Shallow t depth (l ++ (names ++ [name])) := by
  intro more e found
  have short := shallow (name :: more) e (by simpa using found)
  simpa using short

theorem insideNone (level : ".." ∉ names) (shallow : Shallow t 0 (l ++ names)) (directories : Bool)
    (depth : Nat) : inside t cwd directories depth (base.down names) = [] := by
  have none : listing t cwd (base.down names) = [] := by
    rw [seat.listingDown level]
    refine List.eq_nil_iff_forall_not_mem.mpr fun name member => ?_
    obtain ⟨e, found⟩ := memberChildren.mp member
    exact absurd (shallow [name] e found) (Nat.not_lt_zero _)
  cases depth with
  | zero => rfl
  | succ depth => rw [inside, none, List.flatMap_nil]

end Seat

def Alike (ordered : Prop) (good : Location → Prop) (first next : Location → Path)
    (xs ys : List Path) : Prop :=
  ∃ as bs : List Location, xs = as.map first ∧ ys = bs.map next ∧ (∀ names ∈ as, good names) ∧
    as.Perm bs ∧ (ordered → as = bs)

theorem pickEach {α β : Type} (zs : List α) (picks : α → Bool) (f : α → β) :
    (zs.filter picks).map f = zs.flatMap fun z => if picks z then [f z] else [] := by
  induction zs with
  | nil => rfl
  | cons z rest ih =>
    rw [List.flatMap_cons, ← ih]
    cases own : picks z <;> simp [own]

namespace Alike
variable {ordered : Prop} {good better : Location → Prop} {first next : Location → Path}
  {xs ys xs' ys' : List Path}

theorem nil : Alike ordered good first next [] [] :=
  ⟨[], [], rfl, rfl, nofun, .nil, fun _ => rfl⟩

theorem single {names : Location} (fine : good names) :
    Alike ordered good first next [first names] [next names] :=
  ⟨[names], [names], rfl, rfl, by simpa using fine, .refl _, fun _ => rfl⟩

theorem append (one : Alike ordered good first next xs ys)
    (two : Alike ordered good first next xs' ys') :
    Alike ordered good first next (xs ++ xs') (ys ++ ys') := by
  obtain ⟨as, bs, rfl, rfl, fine, perm, same⟩ := one
  obtain ⟨as', bs', rfl, rfl, fine', perm', same'⟩ := two
  refine ⟨as ++ as', bs ++ bs', by simp, by simp, ?_, perm.append perm', fun order => ?_⟩
  · exact List.forall_mem_append.mpr ⟨fine, fine'⟩
  · rw [same order, same' order]

theorem spread {α : Type} {zs ws : List α} (perm : zs.Perm ws) (same : ordered → zs = ws)
    {f g : α → List Path} (each : ∀ z ∈ zs, Alike ordered good first next (f z) (g z)) :
    Alike ordered good first next (zs.flatMap f) (ws.flatMap g) := by
  choose! as bs ones twos fine perms sames using each
  refine ⟨zs.flatMap as, ws.flatMap bs, ?_, ?_, ?_, perm.flatMap perms, fun order => ?_⟩
  · rw [List.map_flatMap]
    exact List.flatMap_congr ones
  · rw [List.map_flatMap]
    exact List.flatMap_congr fun z member => twos z (perm.mem_iff.mpr member)
  · intro names member
    obtain ⟨z, there, inner⟩ := List.mem_flatMap.mp member
    exact fine z there names inner
  · rw [← same order]
    exact List.flatMap_congr fun z member => sames z member order

theorem through (alike : Alike ordered good first next xs ys) {first' next' : Location → Path}
    {f g : Path → List Path} (each : ∀ names, good names →
      Alike ordered better first' next' (f (first names)) (g (next names))) :
    Alike ordered better first' next' (xs.flatMap f) (ys.flatMap g) := by
  obtain ⟨as, bs, rfl, rfl, fine, perm, same⟩ := alike
  rw [List.flatMap_map, List.flatMap_map]
  exact spread perm same fun names member => each names (fine names member)

end Alike

/- Two directories with the same things below them. -/
structure Twins (t t' : FileTree) (cwd cwd' : Location) (base base' : Path) (l l' : Location) :
    Prop where
  one : Seat t cwd base l
  two : Seat t' cwd' base' l'
  same : ∀ names, t.get? (l ++ names) = t'.get? (l' ++ names)

def SameOrder (t t' : FileTree) (l l' : Location) : Prop :=
  ∀ names, t.children (l ++ names) = t'.children (l' ++ names)

namespace Twins
variable {t' : FileTree} {cwd' l' : Location} {base' : Path}
  (twins : Twins t t' cwd cwd' base base' l l')
include twins

abbrev Found (t t' : FileTree) (l l' : Location) (base base' : Path) : List Path → List Path → Prop :=
  Alike (SameOrder t t' l l') (fun names => ".." ∉ names) base.down base'.down

theorem directories (level : ".." ∉ names) :
    isDirectoryAt t cwd (base.down names) = isDirectoryAt t' cwd' (base'.down names) := by
  rw [Bool.eq_iff_iff, twins.one.directoryDown level, twins.two.directoryDown level, twins.same]

theorem theres (level : ".." ∉ names) (plain : name ≠ "..") :
    isThere t cwd (under (base.down names) name) = isThere t' cwd' (under (base'.down names) name) := by
  rw [Bool.eq_iff_iff, twins.one.thereDown level plain, twins.two.thereDown level plain, twins.same]

theorem listings (level : ".." ∉ names) :
    (listing t cwd (base.down names)).Perm (listing t' cwd' (base'.down names)) ∧
      (SameOrder t t' l l' → listing t cwd (base.down names) = listing t' cwd' (base'.down names)) := by
  rw [twins.one.listingDown level, twins.two.listingDown level]
  refine ⟨(List.perm_ext_iff_of_nodup (twins.one.sound.childrenApart _)
    (twins.two.sound.childrenApart _)).mpr fun name => ?_, fun order => order names⟩
  rw [memberChildren, memberChildren, List.append_assoc, List.append_assoc, twins.same]

theorem listedPlain (level : ".." ∉ names) (listed : name ∈ listing t cwd (base.down names)) :
    ".." ∉ names ++ [name] := by
  rw [twins.one.listingDown level] at listed
  have proper := twins.one.sound.child listed
  simp [level, proper.up.symm]

theorem shallows {depth : Nat} (shallow : Shallow t' depth (l' ++ names)) :
    Shallow t depth (l ++ names) := by
  intro more e found
  rw [List.append_assoc, twins.same, ← List.append_assoc] at found
  exact shallow more e found

theorem insides (directories : Bool) {depth depth' : Nat} (level : ".." ∉ names)
    (shallow : Shallow t depth (l ++ names)) (shallow' : Shallow t' depth' (l' ++ names)) :
    Found t t' l l' base base' (inside t cwd directories depth (base.down names))
      (inside t' cwd' directories depth' (base'.down names)) := by
  induction depth generalizing depth' names with
  | zero =>
    have back : Shallow t' 0 (l' ++ names) := fun more e found =>
      shallow more e (by rwa [List.append_assoc, twins.same, ← List.append_assoc])
    rw [twins.two.insideNone level back, twins.one.insideNone level shallow]
    exact .nil
  | succ depth ih =>
    cases depth' with
    | zero =>
      rw [twins.one.insideNone level (twins.shallows shallow'), twins.two.insideNone level shallow']
      exact .nil
    | succ depth' =>
      obtain ⟨perm, same⟩ := twins.listings level
      rw [inside, inside]
      refine Alike.spread perm same fun name listed => ?_
      have inner := twins.listedPlain level listed
      rw [underDown, underDown, twins.directories inner]
      split
      · exact .nil
      · exact (Alike.single inner).append
          (ih inner (Seat.shallowNext shallow name) (Seat.shallowNext shallow' name))

theorem nexts (last : Bool) {c : List Char} (up : c ≠ ['.', '.']) (level : ".." ∉ names) :
    Found t t' l l' base base' (next t cwd last c (base.down names))
      (next t' cwd' last c (base'.down names)) := by
  have itself : Found t t' l l' base base'
      (if isDirectoryAt t cwd (base.down names) then [base.down names] else [])
      (if isDirectoryAt t' cwd' (base'.down names) then [base'.down names] else []) := by
    rw [twins.directories level]
    split
    · exact .single level
    · exact .nil
  unfold next
  -- the four kinds of components: two stars, magic, a dot, a name
  by_cases stars : c = ['*', '*']
  · rw [if_pos stars, if_pos stars]
    exact itself.append (twins.insides _ level (shallowTree twins.one.sound _)
      (shallowTree twins.two.sound _))
  · rw [if_neg stars, if_neg stars]
    by_cases magic : c.any isMagic = true
    · obtain ⟨perm, same⟩ := twins.listings level
      rw [if_pos magic, if_pos magic, pickEach, pickEach]
      refine Alike.spread perm same fun name listed => ?_
      have inner := twins.listedPlain level listed
      rw [underDown, underDown, twins.directories inner]
      split
      · exact .single inner
      · exact .nil
    · rw [if_neg magic, if_neg magic]
      by_cases dot : c = ['.']
      · rw [if_pos dot, if_pos dot]
        exact itself
      · have plain : String.ofList c ≠ ".." := fun same =>
          up ((String.toList_ofList (l := c)).symm.trans (congrArg String.toList same))
        rw [if_neg dot, if_neg dot, twins.theres level plain]
        split
        · rw [underDown, underDown]
          exact .single (by simp [level, plain.symm])
        · exact .nil

theorem visits (level : ['.', '.'] ∉ comps) {names : List String} (inner : ".." ∉ names) :
    Found t t' l l' base base' (visit t cwd comps (base.down names))
      (visit t' cwd' comps (base'.down names)) := by
  induction comps generalizing names with
  | nil => exact .single inner
  | cons c rest ih =>
    rw [List.mem_cons, not_or] at level
    exact (twins.nexts rest.isEmpty (fun same => level.1 same.symm) inner).through fun names fine =>
      ih level.2 fine

end Twins

section Searching
variable (seat : Seat t cwd base l)
include seat

theorem Seat.rooted : Seat t cwd (.ofLocation base.parts) l where
  sound := seat.sound
  here := seat.here
  absolute := nofun
  named := seat.named
  reached := by
    have reached := seat.reached
    have absolute := seat.absolute
    rw [entered, origin, if_neg absolute] at reached
    exact reached

theorem Seat.visitNames (more : comps ≠ []) (parts front : List String)
    (dots : ∀ name ∈ parts, name ≠ ".") :
    visit t cwd (parts.map (fun name => escape name.toList) ++ comps) (.ofLocation front) =
      visit t cwd comps (.ofLocation (front ++ parts)) := by
  induction parts generalizing front with
  | nil => simp
  | cons name rest ih =>
    obtain ⟨dot, others⟩ := List.forall_mem_cons.mp dots
    rw [List.map_cons, List.cons_append, visitEscaped seat.sound seat.here dot (by simp [more])]
    have inner := ih (front ++ [name]) others
    rw [List.append_assoc, List.singleton_append] at inner
    exact inner

theorem Seat.reportedVisit {text : String} (some : text ≠ "") (onward : text.toList.head? ≠ .some '/')
    (returns : ∃ places, find t cwd (fullPattern base.text text.toList) = .ok places) :
    reported t cwd base.text text =
      visit t cwd (components (ignoringCase text.toList)) ((ofLocation base.parts).down []) := by
  obtain ⟨places, found⟩ := returns
  have chars : text.toList ≠ [] := by simpa using some
  rw [reported, found]
  dsimp only
  have start : (ofLocation base.parts).down [] = .ofLocation ([] ++ base.parts) := by
    simp [down, ofLocation]
  rw [findVisit seat.sound seat.here found, outsetLocal seat.absolute onward, start,
    componentsLocal seat.absolute (fun name member => (seat.named name member).1) chars onward]
  exact seat.visitNames (componentsSome chars onward) base.parts []
    fun name member => (seat.named name member).2

end Searching

section Files
variable {t' : FileTree} {cwd' l' : Location} {base' : Path} {xs ys : List Path}

def beneath (l names : Location) : Path := .ofLocation (l ++ names)

theorem beneathInjective (l : Location) : Function.Injective (beneath l) := by
  intro a b same
  exact List.append_cancel_left (congrArg Path.parts same)

def FileAt (t : FileTree) (l names : Location) : Prop :=
  ∃ content, t.get? (l ++ names) = some (.file content)

theorem filesEach (t : FileTree) (cwd : Location) (places : List Path) :
    filesOf t cwd places = places.flatMap fun p => filesOf t cwd [p] := by
  induction places with
  | nil => rfl
  | cons p rest ih =>
    rw [List.flatMap_cons, ← ih, filesOf, filesOf, filesOf, ← List.singleton_append, List.map_append,
      List.filter_append]

theorem Seat.filesDown (seat : Seat t cwd base l) {names : Location} (level : ".." ∉ names) :
    filesOf t cwd [base.down names] = match t.get? (l ++ names) with
      | some (.file _) => [beneath l names]
      | _ => [] := by
  rw [filesOf, List.map_singleton, seat.resolveDown level]
  cases found : t.get? (l ++ names) with
  | none => simp [ofLocation, found]
  | some e => cases e <;> simp [ofLocation, found, beneath]

namespace Twins
variable (twins : Twins t t' cwd cwd' base base' l l')
include twins

theorem files (found : Found t t' l l' base base' xs ys) :
    Alike (SameOrder t t' l l') (FileAt t l) (beneath l) (beneath l')
      (filesOf t cwd xs) (filesOf t' cwd' ys) := by
  rw [filesEach t, filesEach t']
  refine found.through fun names level => ?_
  rw [twins.one.filesDown level, twins.two.filesDown level, ← twins.same]
  cases there : t.get? (l ++ names) with
  | none => exact .nil
  | some e =>
    cases e with
    | directory => exact .nil
    | file content => exact .single ⟨content, there⟩

end Twins

theorem Alike.firsts {ordered : Prop} {good : Location → Prop} {first next : Location → Path}
    (alike : Alike ordered good first next xs ys) (apart : Function.Injective first)
    (apart' : Function.Injective next) : Alike ordered good first next xs.eraseDups ys.eraseDups := by
  obtain ⟨as, bs, rfl, rfl, fine, perm, same⟩ := alike
  exact ⟨as.eraseDups, bs.eraseDups, firstsMap apart as, firstsMap apart' bs,
    fun names member => fine names (List.mem_eraseDups.mp member), firstsPerm perm,
    fun order => by rw [same order]⟩

def beforeBelow (a b : Location) : Bool := before (.ofLocation a) (.ofLocation b)

theorem sortBeneath (l : Location) {as : List Location}
    (named : ∀ names ∈ as, names ≠ [] ∧ ∀ name ∈ names, PathName name) :
    (as.map (beneath l)).mergeSort before = (as.mergeSort beforeBelow).map (beneath l) := by
  refine (List.map_mergeSort fun a first b next => ?_).symm
  obtain ⟨some, plain⟩ := named a first
  obtain ⟨some', plain'⟩ := named b next
  rw [Bool.eq_iff_iff, beforeBelow, beforeIff, beforeIff]
  exact (byLengthBelow l plain plain' some some').symm

end Files

structure LocalPattern (text : String) : Prop where
  place : Format.isUrl text = .ok false
  onward : text.toList.head? ≠ some '/'
  level : ['.', '.'] ∉ components text.toList

structure Holds (s : Session) (d : String) (l : Location) : Prop where
  sound : s.tree.Sound
  here : s.tree.get? s.cwd = some .directory
  rooted : d.toList.head? = some '/'
  there : s.tree.isDirectory s.cwd (.ofText d) = true
  location : (Path.ofText d).resolve s.cwd = .ofLocation l

theorem Holds.seat {s : Session} {d : String} (holds : Holds s d l) :
    Seat s.tree s.cwd (.ofText d) l where
  sound := holds.sound
  here := holds.here
  absolute := fun relative => anchorRelative.mp relative holds.rooted
  named := namesNamed d.toList
  reached := by
    have there := holds.there
    unfold isDirectory stat at there
    cases located : s.tree.locate s.cwd (.ofText d) with
    | error obstacle => simp [located] at there
    | ok m =>
      have same := (resolveLocated holds.sound holds.here located).symm.trans holds.location
      obtain rfl : m = l := congrArg Path.parts same
      cases found : s.tree.get? m with
      | none => simp [located, found] at there
      | some e =>
        cases e with
        | file content => simp [located, found] at there
        | directory => exact (enteredIff holds.sound.wellFormed holds.here).mpr ⟨located, found⟩

section Expanding
variable {s s' u : Session} {d d' : String} {l' : Location} {patterns : List Value}
  {names : List String}

theorem askedFilled {text : String} (listed : text ∈ asked patterns) : text ≠ "" := by
  simpa using (List.mem_filter.mp listed).2

theorem noAddresses (onward : ∀ text ∈ asked patterns, LocalPattern text) :
    addresses patterns = [] ∧ searched patterns = asked patterns := by
  have none : ∀ text ∈ asked patterns, isAddress text = false := fun text listed => by
    rw [isAddress, (onward text listed).place]
  exact ⟨List.filter_eq_nil_iff.mpr fun text listed => by simp [none text listed],
    List.filter_eq_self.mpr fun text listed => by simp [none text listed]⟩

theorem textClean {p : Path} (absolute : p.anchor ≠ .relative) (clean : p.hasNul = false) :
    '\x00' ∉ p.text.toList := by
  obtain ⟨anchor, parts⟩ := p
  have root : '\x00' ∉ (ofLocation parts).text.toList := by
    by_cases top : parts = []
    · subst top
      decide
    · rw [textSlashed top]
      unfold hasNul at clean
      rw [List.any_eq_false] at clean
      intro zero
      obtain ⟨name, member, inner⟩ := List.mem_flatMap.mp zero
      exact clean name member (by simpa using (List.mem_cons.mp inner).resolve_left (by decide))
  cases anchor with
  | relative => exact absurd rfl absolute
  | root => exact root
  | doubleRoot =>
    have longer : (text ⟨.doubleRoot, parts⟩).toList = '/' :: (ofLocation parts).text.toList := by
      simp [text, ofLocation]
    rw [longer]
    simpa using root

theorem Holds.returns (holds : Holds s d l) (onward : ∀ text ∈ asked patterns, LocalPattern text)
    (clean : ∀ text ∈ asked patterns, '\x00' ∉ text.toList) :
    ∃ names u, (expand patterns (.ofText d)).on s = (.ok names, u) := by
  have base := textClean holds.seat.absolute holds.seat.clean
  obtain ⟨u, ran⟩ := @expandReads s (.ofText d) patterns fun text listed =>
    .inr ⟨(onward text listed).place,
      findReturns holds.sound holds.here (fullPatternClean _ base (clean text listed))⟩
  exact ⟨_, u, ran⟩

theorem Twins.gatheredAlike {t t' : FileTree} {cwd cwd' : Location} {base base' : Path}
    (one : Seat t cwd base l) (two : Seat t' cwd' base' l')
    (same : ∀ names, t.get? (l ++ names) = t'.get? (l' ++ names))
    (onward : ∀ text ∈ asked patterns, LocalPattern text)
    (readable : ∀ text ∈ asked patterns, Readable t cwd base.text text)
    (readable' : ∀ text ∈ asked patterns, Readable t' cwd' base'.text text) :
    Alike (SameOrder t t' l l') (FileAt t l) (beneath l) (beneath l')
      (gathered t cwd (reported t cwd base.text) patterns)
      (gathered t' cwd' (reported t' cwd' base'.text) patterns) := by
  have twins : Twins t t' cwd cwd' (.ofLocation base.parts) (.ofLocation base'.parts) l l' :=
    ⟨one.rooted, two.rooted, same⟩
  refine Alike.spread (.refl _) (fun _ => rfl) fun text listed => twins.files ?_
  have own : text ∈ asked patterns := (List.mem_filter.mp listed).1
  obtain ⟨_, onward, level⟩ := onward text own
  rw [one.reportedVisit (askedFilled own) onward (searchedReadable listed readable),
    two.reportedVisit (askedFilled own) onward (searchedReadable listed readable')]
  exact twins.visits (componentsUp level) List.not_mem_nil

theorem FileAt.named {t : FileTree} {names : Location} (sound : t.Sound)
    (here : t.get? l = some .directory) (file : FileAt t l names) :
    names ≠ [] ∧ ∀ name ∈ names, PathName name := by
  obtain ⟨content, found⟩ := file
  refine ⟨?_, fun name member => (sound.proper found name (List.mem_append_right l member)).pathName⟩
  rintro rfl
  rw [List.append_nil, here] at found
  cases found

theorem sortedBelow (as : List Location) :
    (as.mergeSort beforeBelow).Pairwise fun a b =>
      byLength (.ofLocation a) ≤ byLength (.ofLocation b) := by
  have sorted : (as.mergeSort beforeBelow).Pairwise fun a b => beforeBelow a b = true :=
    List.pairwise_mergeSort
      (fun a b c => beforeTrans (.ofLocation a) (.ofLocation b) (.ofLocation c))
      (fun a b => beforeTotal (.ofLocation a) (.ofLocation b)) as
  exact sorted.imp fun {a b} below => (beforeIff (p := .ofLocation a)).mp below

theorem untiedBelow {as bs : List Location} (perm : as.Perm bs)
    (named : ∀ names ∈ as, names ≠ [] ∧ ∀ name ∈ names, PathName name)
    (untied : Untied ((as.mergeSort beforeBelow).map (beneath l))) :
    as.mergeSort beforeBelow = bs.mergeSort beforeBelow := by
  have sorts (as : List Location) : (as.mergeSort beforeBelow).Perm as := List.mergeSort_perm _ _
  have perm' : (as.mergeSort beforeBelow).Perm (bs.mergeSort beforeBelow) :=
    (sorts as).trans (perm.trans (sorts bs).symm)
  refine perm'.eq_of_pairwise (fun a b first next less more => ?_) (sortedBelow as) (sortedBelow bs)
  have next := perm'.mem_iff.mpr next
  obtain ⟨some, plain⟩ := named a ((sorts as).mem_iff.mp first)
  obtain ⟨some', plain'⟩ := named b ((sorts as).mem_iff.mp next)
  have tied : byLength (beneath l a) = byLength (beneath l b) :=
    le_antisymm ((byLengthBelow l plain plain' some some').mpr less)
      ((byLengthBelow l plain' plain some' some).mpr more)
  obtain ⟨_, names⟩ := Prod.mk.inj tied
  obtain ⟨directories, files⟩ := Prod.mk.inj names
  exact beneathInjective l (untied _ (List.mem_map_of_mem first) _ (List.mem_map_of_mem next)
    directories files)

/- Local patterns find the same below two directories that hold the same things, whatever the
directories are called. If they also list them in the same order, the files are in the same order, ties
included. Otherwise only files that differ just in case may change places. -/
theorem relocated (holds : Holds s d l) (holds' : Holds s' d' l')
    (same : ∀ names, s.tree.get? (l ++ names) = s'.tree.get? (l' ++ names))
    (onward : ∀ text ∈ asked patterns, LocalPattern text) :
    ((∀ text ∈ asked patterns, '\x00' ∉ text.toList) →
      (∃ names u, (expand patterns (.ofText d)).on s = (.ok names, u)) ∧
      ∃ names u, (expand patterns (.ofText d')).on s' = (.ok names, u)) ∧
    ∀ names names' u u', (expand patterns (.ofText d)).on s = (.ok names, u) →
      (expand patterns (.ofText d')).on s' = (.ok names', u') →
      ∃ found found' : List Location,
        names = found.map (fun names => (Path.ofLocation (l ++ names)).text) ∧
        names' = found'.map (fun names => (Path.ofLocation (l' ++ names)).text) ∧
        found.Perm found' ∧
        (SameOrder s.tree s'.tree l l' ∨ Untied (found.map fun names => .ofLocation (l ++ names)) →
          found = found') := by
  refine ⟨fun clean => ⟨holds.returns onward clean, holds'.returns onward clean⟩,
    fun names names' u u' ran ran' => ?_⟩
  obtain ⟨readable, rfl⟩ := expandOk ran
  obtain ⟨readable', rfl⟩ := expandOk ran'
  obtain ⟨as, bs, first, next, files, perm, order⟩ :=
    (Twins.gatheredAlike holds.seat holds'.seat same onward readable readable').firsts
      (beneathInjective l) (beneathInjective l')
  have named : ∀ names ∈ as, names ≠ [] ∧ ∀ name ∈ names, PathName name := fun names member =>
    (files names member).named holds.sound holds.seat.directory
  have named' : ∀ names ∈ bs, names ≠ [] ∧ ∀ name ∈ names, PathName name := fun names member =>
    named names (perm.mem_iff.mpr member)
  refine ⟨as.mergeSort beforeBelow, bs.mergeSort beforeBelow, ?_, ?_, ?_, ?_⟩
  · rw [(noAddresses onward).1, arranged, first, sortBeneath l named]
    simp [beneath]
  · rw [(noAddresses onward).1, arranged, next, sortBeneath l' named']
    simp [beneath]
  · exact (List.mergeSort_perm _ _).trans (perm.trans (List.mergeSort_perm _ _).symm)
  · rintro (same | untied)
    · rw [order same]
    · exact untiedBelow perm named untied

end Expanding

def twinSession : Session where
  cwd := ["w"]
  tree := ⟨[(["w"], .directory), (["w", "p[1]"], .directory), (["w", "p[1]", "e.json"], .file .empty),
    (["w", "p[1]", "Sub"], .directory), (["w", "p[1]", "Sub", "x.json"], .file .empty),
    (["w", "Quiet"], .directory), (["w", "Quiet", "e.json"], .file .empty),
    (["w", "Quiet", "Sub"], .directory), (["w", "Quiet", "Sub", "x.json"], .file .empty)]⟩

def twinPatterns : List Value := [.text "**/*.JSON", .text "sub/x.json"]

theorem twinSame (names : Location) : twinSession.tree.get? (["w", "p[1]"] ++ names) =
    twinSession.tree.get? (["w", "Quiet"] ++ names) := by
  by_cases top : names = []
  · subst top
    decide
  · simp [FileTree.get?, twinSession, List.lookup_cons]

theorem twinOrder : SameOrder twinSession.tree twinSession.tree ["w", "p[1]"] ["w", "Quiet"] := by
  intro names
  match names with
  | [] => decide
  | [name] => simp [children, twinSession, List.filterMap_cons]
  | name :: more :: rest => simp [children, twinSession]

theorem twinLocal : ∀ text ∈ asked twinPatterns, LocalPattern text := by
  have texts : asked twinPatterns = ["**/*.JSON", "sub/x.json"] := by decide +kernel
  rw [texts]
  simp only [List.forall_mem_cons]
  exact ⟨⟨rfl, by decide, by decide⟩, ⟨rfl, by decide, by decide⟩, nofun⟩

theorem twinArranged : (arranged twinSession.tree twinSession.cwd
    (reported twinSession.tree twinSession.cwd "/w/p[1]") twinPatterns).map Path.text =
      ["/w/p[1]/e.json", "/w/p[1]/Sub/x.json"] := by
  have found : (gathered twinSession.tree twinSession.cwd
      (reported twinSession.tree twinSession.cwd "/w/p[1]") twinPatterns).eraseDups =
        [["e.json"], ["Sub", "x.json"]].map (beneath ["w", "p[1]"]) := by decide +kernel
  rw [arranged, found, List.mergeSort_of_pairwise (by decide +kernel)]
  rfl

theorem twinRelocated : ∃ (names' : List String) (found : List Location) (u u' : Session),
    (expand twinPatterns (.ofText "/w/p[1]")).on twinSession =
      (.ok ["/w/p[1]/e.json", "/w/p[1]/Sub/x.json"], u) ∧
    (expand twinPatterns (.ofText "/w/Quiet")).on twinSession = (.ok names', u') ∧
    ["/w/p[1]/e.json", "/w/p[1]/Sub/x.json"] =
      found.map (fun names => (Path.ofLocation (["w", "p[1]"] ++ names)).text) ∧
    names' = found.map fun names => (Path.ofLocation (["w", "Quiet"] ++ names)).text := by
  have sound : twinSession.tree.Sound := by decide +kernel
  have holds : Holds twinSession "/w/p[1]" ["w", "p[1]"] :=
    ⟨sound, rfl, rfl, by decide +kernel, by decide +kernel⟩
  have holds' : Holds twinSession "/w/Quiet" ["w", "Quiet"] :=
    ⟨sound, rfl, rfl, by decide +kernel, by decide +kernel⟩
  obtain ⟨returns, agree⟩ := relocated holds holds' twinSame twinLocal
  obtain ⟨⟨names, u, ran⟩, names', u', ran'⟩ := returns (by decide +kernel)
  obtain ⟨found, found', first, next, -, order⟩ := agree names names' u u' ran ran'
  obtain rfl : found = found' := order (.inl twinOrder)
  have base : (Path.ofText "/w/p[1]").text = "/w/p[1]" := by decide +kernel
  obtain rfl : names = ["/w/p[1]/e.json", "/w/p[1]/Sub/x.json"] := by
    rw [(expandOk ran).2, base, twinArranged, (noAddresses twinLocal).1]
    rfl
  exact ⟨names', found, u, u', ran, ran', first, next⟩

end InputFiles

end EntityForge
