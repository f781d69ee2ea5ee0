import EntityForge.Proofs.Calls
import EntityForge.Proofs.Places

/-! What a pattern of places matches. The search goes component by component; it follows the ones in
front without a look and it has a limit of depth, but what it finds is exactly what the components lead
to one after the other. -/
namespace EntityForge.InputFiles
open FileTree
variable {t : FileTree} {cwd : Location} {p q : Path} {c : List Char} {comps : List (List Char)}

def listing (t : FileTree) (cwd : Location) (p : Path) : List String :=
  if p.hasNul then []
  else match entered t cwd p with
    | .ok l => t.children l
    | .error _ => []

inductive Inside (t : FileTree) (cwd : Location) : Path → Path → Prop where
  | child {p : Path} {name : String} (listed : name ∈ listing t cwd p)
      (shown : isHidden name.toList = false) : Inside t cwd p (under p name)
  | deeper {p q : Path} {name : String} (listed : name ∈ listing t cwd p)
      (shown : isHidden name.toList = false) (inner : Inside t cwd (under p name) q) :
      Inside t cwd p q

/- The places that one component leads to. Two stars stand for any depth, hidden names match only
where the pattern begins with a dot, and other names have to be there. -/
inductive Step (t : FileTree) (cwd : Location) : List Char → Path → Path → Prop where
  | all {p : Path} (directory : isDirectoryAt t cwd p = true) : Step t cwd ['*', '*'] p p
  | inside {p q : Path} (inside : Inside t cwd p q) : Step t cwd ['*', '*'] p q
  | named {c : List Char} {p : Path} {name : String} (magic : c.any Pattern.isMagic = true)
      (single : c ≠ ['*', '*']) (listed : name ∈ listing t cwd p)
      (shown : isHidden c = true ∨ isHidden name.toList = false)
      (accepted : Pattern.accepts c name.toList = true) : Step t cwd c p (under p name)
  | here {p : Path} (directory : isDirectoryAt t cwd p = true) : Step t cwd ['.'] p p
  | literal {c : List Char} {p : Path} (plain : c.any Pattern.isMagic = false) (other : c ≠ ['.'])
      (there : isThere t cwd (under p (String.ofList c)) = true) :
      Step t cwd c p (under p (String.ofList c))

def Leads (t : FileTree) (cwd : Location) : List (List Char) → Path → Path → Prop
  | [], p, q => p = q
  | c :: rest, p, q => ∃ next, Step t cwd c p next ∧ Leads t cwd rest next q

def inside (t : FileTree) (cwd : Location) (directories : Bool) : Nat → Path → List Path
  | 0, _ => []
  | depth + 1, p => (listing t cwd p).flatMap fun name =>
    if isHidden name.toList || (directories && !isDirectoryAt t cwd (under p name)) then []
    else under p name :: inside t cwd directories depth (under p name)

def next (t : FileTree) (cwd : Location) (last : Bool) (c : List Char) (p : Path) : List Path :=
  if c = ['*', '*'] then
    (if isDirectoryAt t cwd p then [p] else []) ++ inside t cwd (!last) (t.entries.length + 1) p
  else if c.any Pattern.isMagic then
    ((listing t cwd p).filter fun name =>
      (isHidden c || !isHidden name.toList) && Pattern.accepts c name.toList &&
        (last || isDirectoryAt t cwd (under p name))).map (under p)
  else if c = ['.'] then if isDirectoryAt t cwd p then [p] else []
  else if isThere t cwd (under p (String.ofList c)) then [under p (String.ofList c)] else []

def visit (t : FileTree) (cwd : Location) : List (List Char) → Path → List Path
  | [], p => [p]
  | c :: rest, p => (next t cwd rest.isEmpty c p).flatMap (visit t cwd rest)

theorem namesAtListing (clean : p.hasNul = false) (wf : t.WellFormed)
    (here : t.get? cwd = some .directory) : namesAt t cwd p = .ok (listing t cwd p) := by
  refine (namesAtClean wf here clean).trans (congrArg Except.ok ?_)
  exact (if_neg (by simp [clean])).symm

section Directories
variable (wf : t.WellFormed) (here : t.get? cwd = some .directory)
include wf here

theorem listingDirectory {name : String} (listed : name ∈ listing t cwd p) :
    isDirectoryAt t cwd p = true := by
  unfold listing at listed
  split at listed
  · cases listed
  next clean =>
    split at listed
    next l reached => exact (directoryIff wf here).mpr ⟨by simpa using clean, l, reached⟩
    next => cases listed

theorem insideDirectory (inner : Inside t cwd p q) : isDirectoryAt t cwd p = true := by
  cases inner with
  | child listed => exact listingDirectory wf here listed
  | deeper listed => exact listingDirectory wf here listed

theorem thereDirectory {name : String} (there : isThere t cwd (under p name) = true) :
    isDirectoryAt t cwd p = true := by
  obtain ⟨⟨clean, _⟩, l, reached, _⟩ := (thereUnder wf here).mp there
  exact (directoryIff wf here).mpr ⟨clean, l, reached⟩

theorem stepDirectory (step : Step t cwd c p q) : isDirectoryAt t cwd p = true := by
  cases step with
  | all directory => exact directory
  | inside inner => exact insideDirectory wf here inner
  | named _ _ listed => exact listingDirectory wf here listed
  | here directory => exact directory
  | literal _ _ there => exact thereDirectory wf here there

end Directories

def Shallow (t : FileTree) (depth : Nat) (l : Location) : Prop :=
  ∀ names e, t.get? (l ++ names) = some e → names.length < depth

section Members
variable (sound : t.Sound) (here : t.get? cwd = some .directory)
include sound

theorem shallowTree (l : Location) : Shallow t (t.entries.length + 1) l := by
  intro names e found
  have short := sound.depth found
  rw [List.length_append] at short
  omega

theorem enteredListed {name : String} {l m : Location} (listed : name ∈ listing t cwd p)
    (reached : entered t cwd p = .ok l) (deeper : entered t cwd (under p name) = .ok m) :
    m = l ++ [name] := by
  have member : name ∈ t.children l := by
    unfold listing at listed
    split at listed
    · cases listed
    · rwa [reached] at listed
  have proper := sound.child member
  rw [enteredUnder, reached] at deeper
  dsimp only at deeper
  rw [enterPlain proper.up proper.fits] at deeper
  split at deeper <;> cases deeper
  rfl

include here

/- The search at any depth finds exactly what is inside, once its limit is deep enough. -/
theorem memberInside (directories : Bool) (depth : Nat)
    (shallow : ∀ l, entered t cwd p = .ok l → Shallow t depth l) :
    q ∈ inside t cwd directories depth p ↔
      Inside t cwd p q ∧ (directories = true → isDirectoryAt t cwd q = true) := by
  -- on how deep the search may go; where that ends, nothing is left to list
  induction depth generalizing p with
  | zero =>
    refine ⟨nofun, fun ⟨inner, _⟩ => ?_⟩
    obtain ⟨_, l, reached⟩ :=
      (directoryIff sound.wellFormed here).mp (insideDirectory sound.wellFormed here inner)
    have there := ((enteredIff sound.wellFormed here).mp reached).2
    exact absurd (shallow l reached [] _ (by rwa [List.append_nil])) (Nat.not_lt_zero _)
  | succ depth ih =>
    have later {name : String} (listed : name ∈ listing t cwd p) :
        ∀ m, entered t cwd (under p name) = .ok m → Shallow t depth m := by
      intro m deeper names e found
      obtain ⟨_, l, reached⟩ :=
        (directoryIff sound.wellFormed here).mp (listingDirectory sound.wellFormed here listed)
      rw [enteredListed sound listed reached deeper, List.append_assoc] at found
      simpa using shallow l reached _ _ found
    rw [inside, List.mem_flatMap]
    constructor
    · rintro ⟨name, listed, member⟩
      split at member
      · cases member
      next passes =>
        simp only [Bool.or_eq_true, not_or, Bool.not_eq_true, Bool.and_eq_false_iff] at passes
        obtain ⟨shown, through⟩ := passes
        rcases List.mem_cons.mp member with rfl | deeper
        · refine ⟨.child listed shown, fun only => ?_⟩
          simpa [only] using through
        · obtain ⟨inner, only⟩ := (ih (later listed)).mp deeper
          exact ⟨.deeper listed shown inner, only⟩
    · rintro ⟨inner, only⟩
      cases inner with
      | @child _ name listed shown =>
        refine ⟨name, listed, ?_⟩
        rw [if_neg (by cases directories <;> simp_all)]
        exact List.mem_cons_self
      | @deeper _ _ name listed shown inner =>
        have through := insideDirectory sound.wellFormed here inner
        refine ⟨name, listed, ?_⟩
        rw [if_neg (by simp [shown, through])]
        exact List.mem_cons_of_mem _ ((ih (later listed)).mpr ⟨inner, only⟩)

theorem memberInsideTree (directories : Bool) :
    q ∈ inside t cwd directories (t.entries.length + 1) p ↔
      Inside t cwd p q ∧ (directories = true → isDirectoryAt t cwd q = true) :=
  memberInside sound here directories _ fun l _ => shallowTree sound l

theorem nextStep {last : Bool} (member : q ∈ next t cwd last c p) : Step t cwd c p q := by
  unfold next at member
  split at member
  next stars =>
    subst stars
    rcases List.mem_append.mp member with own | inner
    · split at own
      next directory =>
        obtain rfl := List.mem_singleton.mp own
        exact .all directory
      next => cases own
    · exact .inside ((memberInsideTree sound here _).mp inner).1
  next single =>
    split at member
    next magic =>
      obtain ⟨name, picked, rfl⟩ := List.mem_map.mp member
      obtain ⟨listed, fine⟩ := List.mem_filter.mp picked
      simp only [Bool.and_eq_true, Bool.or_eq_true, Bool.not_eq_true'] at fine
      exact .named magic single listed fine.1.1 fine.1.2
    next plain =>
      split at member
      next dot =>
        subst dot
        split at member
        next directory =>
          obtain rfl := List.mem_singleton.mp member
          exact .here directory
        next => cases member
      next other =>
        split at member
        next there =>
          obtain rfl := List.mem_singleton.mp member
          exact .literal (by simpa using plain) other there
        next => cases member

theorem stepNext {last : Bool} (step : Step t cwd c p q)
    (through : last = true ∨ isDirectoryAt t cwd q = true) : q ∈ next t cwd last c p := by
  unfold next
  cases step with
  | all directory => simp [directory]
  | inside inner =>
    rw [if_pos rfl]
    refine List.mem_append_right _ ((memberInsideTree sound here _).mpr ⟨inner, fun only => ?_⟩)
    exact through.resolve_left (by simpa using only)
  | @named _ _ name magic single listed shown accepted =>
    rw [if_neg single, if_pos magic]
    refine List.mem_map_of_mem (List.mem_filter.mpr ⟨listed, ?_⟩)
    simp only [Bool.and_eq_true, Bool.or_eq_true, Bool.not_eq_true']
    exact ⟨⟨shown, accepted⟩, through⟩
  | here directory => simp [directory, Pattern.isMagic]
  | literal plain other there =>
    have single : c ≠ ['*', '*'] := by
      rintro rfl
      simp [Pattern.isMagic] at plain
    simp [single, plain, other, there]

theorem visitIff (comps : List (List Char)) (p : Path) :
    q ∈ visit t cwd comps p ↔ Leads t cwd comps p q := by
  induction comps generalizing p with
  | nil => simp [visit, Leads, eq_comm]
  | cons c rest ih =>
    rw [visit, List.mem_flatMap, Leads]
    constructor
    · rintro ⟨inner, member, later⟩
      exact ⟨inner, nextStep sound here member, (ih inner).mp later⟩
    · rintro ⟨inner, step, later⟩
      refine ⟨inner, stepNext sound here step ?_, (ih inner).mpr later⟩
      cases rest with
      | nil => exact .inl rfl
      | cons d more =>
        obtain ⟨_, step, _⟩ := later
        exact .inr (stepDirectory sound.wellFormed here step)

theorem visitNowhere (nowhere : isDirectoryAt t cwd p = false) (some : comps ≠ []) :
    visit t cwd comps p = [] := by
  obtain ⟨c, rest, rfl⟩ := List.exists_cons_of_ne_nil some
  refine List.eq_nil_iff_forall_not_mem.mpr fun q member => ?_
  obtain ⟨_, step, _⟩ := (visitIff sound here _ _).mp member
  rw [stepDirectory sound.wellFormed here step] at nowhere
  cases nowhere

end Members

section Returns
variable {α β : Type} {f : α → Except Failure β} {g : α → β}

theorem mapMOk {xs : List α} {ys : List β} (each : ∀ x ∈ xs, ∀ y, f x = .ok y → y = g x)
    (ok : xs.mapM f = .ok ys) : ys = xs.map g := by
  have same : List.Forall₂ (fun x y => g x = y) xs ys :=
    (mapMEach ok).imp fun x y ⟨member, made⟩ => (each x member y made).symm
  rw [← List.forall₂_map_left_iff, List.forall₂_eq_eq_eq] at same
  exact same.symm

theorem mapMAll {xs : List α} (each : ∀ x ∈ xs, f x = .ok (g x)) : xs.mapM f = .ok (xs.map g) := by
  induction xs with
  | nil => rfl
  | cons x rest ih =>
    obtain ⟨here, there⟩ := List.forall_mem_cons.mp each
    rw [List.mapM_cons, here, ih there]
    rfl

end Returns

theorem directoryThere (directory : isDirectoryAt t cwd p = true) : isThere t cwd p = true := by
  unfold isDirectoryAt isDirectory at directory
  unfold isThere
  rw [Bool.and_eq_true] at directory ⊢
  refine ⟨directory.1, ?_⟩
  cases seen : t.stat cwd p with
  | ok e => rfl
  | error obstacle => simp [seen] at directory

section Search
variable (sound : t.Sound) (here : t.get? cwd = some .directory)
include sound here

omit here in
theorem listingClean (clean : p.hasNul = false) {name : String} (listed : name ∈ listing t cwd p) :
    (under p name).hasNul = false := by
  unfold listing at listed
  rw [if_neg (by simp [clean])] at listed
  split at listed
  next l reached => exact underClean.mpr ⟨clean, (sound.child listed).clean⟩
  next => cases listed

theorem belowInside (directories : Bool) (depth : Nat) (clean : p.hasNul = false) :
    below t cwd directories depth p = .ok (inside t cwd directories depth p) := by
  induction depth generalizing p with
  | zero => rfl
  | succ depth ih =>
    have each : ∀ name ∈ listing t cwd p, (do
        let q := under p name
        if isHidden name.toList || (directories && !isDirectoryAt t cwd q) then return []
        return q :: (← below t cwd directories depth q) : Except Failure (List Path)) =
        .ok (if isHidden name.toList || (directories && !isDirectoryAt t cwd (under p name)) then []
          else under p name :: inside t cwd directories depth (under p name)) := by
      intro name listed
      dsimp only
      split
      · rfl
      · rw [ih (listingClean sound clean listed)]
        rfl
    rw [below, namesAtListing clean sound.wellFormed here]
    exact congrArg (fun found => found >>= fun inner => pure inner.flatten) (mapMAll each)

omit sound here in
theorem advancePlain (last : Bool) (plain : c.any Pattern.isMagic = false) (p : Path) :
    advance t cwd last c p = .ok (next t cwd last c p) := by
  have single : c ≠ ['*', '*'] := by
    rintro rfl
    simp [Pattern.isMagic] at plain
  have magic : ¬ c.any Pattern.isMagic = true := by simp [plain]
  unfold advance next
  rw [if_neg single, if_neg single, if_neg magic, if_neg magic]
  by_cases dot : c = ['.']
  · rw [if_pos dot, if_pos dot]
    rfl
  · rw [if_neg dot, if_neg dot, literal, if_neg dot]
    rfl

theorem advanceClean (last : Bool) (c : List Char) (clean : p.hasNul = false) :
    advance t cwd last c p = .ok (next t cwd last c p) := by
  by_cases magic : c.any Pattern.isMagic = true
  · unfold advance next
    split
    · rw [belowInside sound here _ _ clean]
      by_cases directory : isDirectoryAt t cwd p = true <;> simp [directory]
    · rw [namesAtListing clean sound.wellFormed here]
      rfl
  · exact advancePlain last (by simpa using magic) p

theorem advanceOk {last : Bool} {places : List Path} (ok : advance t cwd last c p = .ok places) :
    places = next t cwd last c p := by
  by_cases plain : c.any Pattern.isMagic = false
  · rw [advancePlain last plain] at ok
    exact (Except.ok.inj ok).symm
  by_cases clean : p.hasNul = false
  · rw [advanceClean sound here last c clean] at ok
    exact (Except.ok.inj ok).symm
  · have names : namesAt t cwd p = .error nulFault := if_pos (by simpa using clean)
    unfold advance at ok
    split at ok
    · rw [below, names] at ok
      cases ok
    · rw [if_pos (by simpa using plain), names] at ok
      cases ok

theorem visitLiteral (plain : c.any Pattern.isMagic = false) (more : comps ≠ []) (p : Path) :
    visit t cwd comps (literal p c) = visit t cwd (c :: comps) p := by
  have single : c ≠ ['*', '*'] := by
    rintro rfl
    simp [Pattern.isMagic] at plain
  rw [visit, next, if_neg single, if_neg (by simp [plain]), literal]
  by_cases dot : c = ['.']
  · rw [if_pos dot, if_pos dot]
    split
    next => simp
    next nowhere => simp [visitNowhere sound here (by simpa using nowhere) more]
  · rw [if_neg dot, if_neg dot]
    split
    next => simp
    next nowhere =>
      have closed : isDirectoryAt t cwd (under p (String.ofList c)) = false := by
        by_contra directory
        exact nowhere (directoryThere (by simpa using directory))
      simp [visitNowhere sound here closed more]

theorem walkVisit {blind : Bool} {places found : List Path}
    (ok : walk t cwd blind comps places = .ok found) : found = places.flatMap (visit t cwd comps) := by
  induction comps generalizing blind places with
  | nil =>
    cases ok
    simp [visit]
  | cons c rest ih =>
    unfold walk at ok
    split at ok
    next ahead =>
      simp only [Bool.and_eq_true, Bool.not_eq_true', List.isEmpty_eq_false_iff] at ahead
      rw [ih ok, List.flatMap_map]
      exact List.flatMap_congr fun p _ => visitLiteral sound here ahead.2 ahead.1.2 p
    next =>
      obtain ⟨nexts, advanced, ok⟩ := exceptBindOk ok
      rw [ih ok, mapMOk (fun p _ _ done => advanceOk sound here done) advanced]
      rw [← List.flatMap_def, List.flatMap_assoc]
      rfl

def outset (pattern : List Char) : Path :=
  ⟨if pattern.head? == some '/' then .root else .relative, []⟩

theorem findVisit {pattern : List Char} {places : List Path}
    (found : find t cwd pattern = .ok places) :
    places = visit t cwd (components pattern) (outset pattern) := by
  rw [walkVisit sound here found, List.flatMap_singleton]
  rfl

theorem findIff {pattern : List Char} {places : List Path}
    (found : find t cwd pattern = .ok places) :
    q ∈ places ↔ Leads t cwd (components pattern) (outset pattern) q := by
  rw [findVisit sound here found]
  exact visitIff sound here _ _

omit here in
theorem insideClean (inner : Inside t cwd p q) (clean : p.hasNul = false) : q.hasNul = false := by
  induction inner with
  | child listed => exact listingClean sound clean listed
  | deeper listed _ _ ih => exact ih (listingClean sound clean listed)

omit here in
theorem stepClean (step : Step t cwd c p q) (clean : p.hasNul = false) : q.hasNul = false := by
  cases step with
  | all => exact clean
  | inside inner => exact insideClean sound inner clean
  | named _ _ listed => exact listingClean sound clean listed
  | here => exact clean
  | literal _ _ there =>
    rw [isThere, Bool.and_eq_true, Bool.not_eq_true'] at there
    exact there.1

theorem walkReturns {blind : Bool} {places : List Path} (free : ∀ c ∈ comps, '\x00' ∉ c)
    (clean : ∀ p ∈ places, p.hasNul = false) : ∃ found, walk t cwd blind comps places = .ok found := by
  induction comps generalizing blind places with
  | nil => exact ⟨places, rfl⟩
  | cons c rest ih =>
    obtain ⟨own, others⟩ := List.forall_mem_cons.mp free
    unfold walk
    split
    · refine ih others fun q member => ?_
      obtain ⟨p, there, rfl⟩ := List.mem_map.mp member
      unfold literal
      split
      · exact clean p there
      · exact underClean.mpr ⟨clean p there, by simpa using own⟩
    · rw [mapMAll fun p there => advanceClean sound here rest.isEmpty c (clean p there)]
      refine ih others fun q member => ?_
      obtain ⟨nexts, advanced, found⟩ := List.mem_flatten.mp member
      obtain ⟨p, there, rfl⟩ := List.mem_map.mp advanced
      exact stepClean sound (nextStep sound here found) (clean p there)

theorem findReturns {pattern : List Char} (free : '\x00' ∉ pattern) :
    ∃ places, find t cwd pattern = .ok places := by
  refine walkReturns sound here (fun c member zero => ?_) fun p member => ?_
  · unfold components at member
    rcases List.mem_append.mp member with piece | ending
    · exact free ((Text.piecesInfix (List.mem_filter.mp piece).1).subset zero)
    · split at ending
      · obtain rfl := List.mem_singleton.mp ending
        simp at zero
      · cases ending
  · obtain rfl := List.mem_singleton.mp member
    rfl

end Search

end EntityForge.InputFiles
