import EntityForge.Proofs.Extensions

/-! Absolute paths that never lead back. Their names are the place they lead to, so what can stand in the
way of a file is seen from the path and the tree: a name that no file can have, a file on the way, or a
directory in its place. Of such an artifact nothing else can fail. -/
namespace EntityForge

namespace Path

structure Straight (p : Path) : Prop where
  absolute : p.anchor ≠ .relative
  onward : ∀ name ∈ p.parts, name ≠ ".."

instance (p : Path) : Decidable p.Straight :=
  decidable_of_iff (p.anchor ≠ .relative ∧ ∀ name ∈ p.parts, name ≠ "..")
    ⟨fun ⟨absolute, onward⟩ => ⟨absolute, onward⟩, fun straight => ⟨straight.1, straight.2⟩⟩

namespace Straight
variable {p : Path}

theorem place (straight : p.Straight) : p.place = p.parts :=
  (stepsPlain straight.onward []).trans (List.nil_append _)

theorem above (straight : p.Straight) : p.parent.Straight :=
  ⟨straight.absolute, fun name member => straight.onward name (List.dropLast_subset _ member)⟩

theorem rootOrPlain (straight : p.Straight) : p.parts = [] ∨ p.Plain := by
  rcases List.eq_nil_or_concat p.parts with none | ⟨front, last, shape⟩
  · exact .inl none
  · rw [List.concat_eq_append] at shape
    have named : last ≠ ".." := straight.onward last (by simp [shape])
    have whole : p = ⟨p.anchor, front ++ [last]⟩ := by rw [← shape]
    rw [whole]
    exact .inr (plainOf straight.absolute front named)

end Straight

end Path

namespace FileTree

section Ways
variable {t u : FileTree} {l m : Location} {names : List String}

theorem wayOnward (onward : ∀ name ∈ names, name ≠ "..") :
    m ∈ way l names ↔ ∃ q, q ≠ [] ∧ q <+: names ∧ m = l ++ q := by
  induction names generalizing l with
  | nil => simp [way]
  | cons name rest ih =>
    obtain ⟨first, others⟩ := List.forall_mem_cons.mp onward
    rw [way, stepName first, List.mem_cons, ih others]
    constructor
    · rintro (rfl | ⟨q, _, below, rfl⟩)
      · exact ⟨[name], by simp, by simp, rfl⟩
      · exact ⟨name :: q, by simp, by simpa using below, by simp⟩
    · rintro ⟨q, some, below, rfl⟩
      obtain ⟨next, tail, rfl⟩ := List.exists_cons_of_ne_nil some
      obtain ⟨rfl, inner⟩ := List.cons_prefix_cons.mp below
      by_cases last : tail = []
      · exact .inl (by rw [last])
      · exact .inr ⟨tail, last, inner, by simp⟩

theorem layThrough (here : t.get? l = some .directory) (onward : ∀ name ∈ names, name ≠ "..") :
    (t.lay l names).2 = true ↔ (∀ name ∈ names, fits name = true) ∧
      ∀ q content, q <+: names → t.get? (l ++ q) ≠ some (.file content) := by
  induction names generalizing t l with
  | nil =>
    refine iff_of_true rfl ⟨List.forall_mem_nil _, fun q content below => ?_⟩
    rw [List.prefix_nil.mp below, List.append_nil, here]
    simp
  | cons name rest ih =>
    obtain ⟨first, others⟩ := List.forall_mem_cons.mp onward
    have shift : (∀ q content, q <+: name :: rest → t.get? (l ++ q) ≠ some (.file content)) ↔
        ∀ q content, q <+: rest → t.get? (l ++ [name] ++ q) ≠ some (.file content) := by
      constructor
      · intro free q content below
        simpa using free (name :: q) content (by simpa using below)
      · intro free q content below
        rcases List.prefix_cons_iff.mp below with rfl | ⟨tail, rfl, inner⟩
        · simp [here]
        · simpa using free tail content inner
    rw [lay, if_neg first, shift, List.forall_mem_cons]
    split
    next fit =>
      split
      next content found =>
        refine iff_of_false (by simp) fun clear => clear.2 [] content List.nil_prefix ?_
        rw [List.append_nil, found]
      next found => rw [ih found others]; simp [fit]
      next absent =>
        have made : (t.put (l ++ [name]) .directory).get? (l ++ [name]) = some .directory := by
          simp [getPut]
        have same (q : Location) (content : ByteArray) :
            (t.put (l ++ [name]) .directory).get? (l ++ [name] ++ q) ≠ some (.file content) ↔
              t.get? (l ++ [name] ++ q) ≠ some (.file content) := by
          rw [getPut]
          split
          next here => simp [here, absent]
          next => rfl
        simp only [ih made others, same, fit, true_and]
    next long => exact iff_of_false (by simp) fun clear => long clear.1.1

theorem layHolds (wf : t.WellFormed) (onward : ∀ name ∈ names, name ≠ "..")
    (walk : t.lay [] names = (u, true)) (l : Location) :
    u.get? l = (t.get? l).or (if l <+: names then some .directory else none) := by
  have laid := layLaid wf (rootDirectory t) names
  have reaches {m : Location} (onWay : m ∈ way [] names) : u.get? m = some .directory := by
    have there := layReaches wf (rootDirectory t) (by rw [walk]) onWay
    rwa [walk] at there
  rw [walk] at laid
  cases found : t.get? l with
  | some e =>
    rcases laid.news l with same | ⟨absent, _, _⟩
    · rw [same, found, Option.some_or]
    · simp [absent] at found
  | none =>
    rw [Option.none_or]
    split
    next below =>
      refine reaches ((wayOnward onward).mpr ⟨l, ?_, below, rfl⟩)
      rintro rfl
      cases found
    next apart =>
      rcases laid.news l with same | ⟨_, _, onWay⟩
      · exact same.trans found
      · obtain ⟨q, _, below, rfl⟩ := (wayOnward onward).mp onWay
        exact absurd below apart

theorem reachThere (wf : t.WellFormed) (onward : ∀ name ∈ names, name ≠ "..")
    (there : t.get? (l ++ names) = some .directory) :
    (∃ inner, t.reach l names = .ok inner) ∨ t.reach l names = .error .longName := by
  induction names generalizing l with
  | nil => exact .inl ⟨l, rfl⟩
  | cons name rest ih =>
    obtain ⟨first, others⟩ := List.forall_mem_cons.mp onward
    rw [List.append_cons] at there
    rw [reach]
    by_cases fit : fits name = true
    · rw [enterPlain first fit, prefixDirectory wf there]
      exact ih others there
    · rw [enterLong first fit]
      exact .inr rfl

end Ways

end FileTree

open FileTree

/- A path whose names a file can have and on whose way no file lies. -/
structure Path.Open (p : Path) (t : FileTree) : Prop where
  clean : p.hasNul = false
  fit : ∀ name ∈ p.parts, fits name = true
  way : ∀ l content, l <+: p.parent.place → t.get? l ≠ some (.file content)

def Artifact.Free (a : Artifact) (t : FileTree) : Prop :=
  a.path.Open t ∧ (a.overwrite = true → t.get? a.path.place ≠ some .directory)

namespace FileTree
variable {t u : FileTree} {cwd : Location} {p : Path} {a : Artifact}

theorem openIff (straight : p.Straight) (plain : p.Plain) : p.Open t ↔
    p.hasNul = false ∧ (t.lay [] p.parent.parts).2 = true ∧ fits p.name = true := by
  have parts (q : String → Prop) : (∀ name ∈ p.parts, q name) ↔
      (∀ name ∈ p.parent.parts, q name) ∧ q p.name := by
    rw [plain.ending]
    simp [or_imp, forall_and]
  have above : p.parent.place = p.parent.parts := straight.above.place
  rw [layThrough (rootDirectory t) straight.above.onward]
  constructor
  · rintro ⟨clean, fit, way⟩
    obtain ⟨before, last⟩ := (parts _).mp fit
    exact ⟨clean, ⟨before, fun q content below => way q content (above ▸ below)⟩, last⟩
  · rintro ⟨clean, ⟨before, way⟩, last⟩
    exact ⟨clean, (parts _).mpr ⟨before, last⟩, fun q content below => way q content (above ▸ below)⟩

theorem rootAbove (root : p.parts = []) : p.parent.parts = [] := by
  rw [Path.parent, root, List.dropLast_nil]

theorem rootOpen (root : p.parts = []) : p.Open t := by
  refine ⟨by simp [Path.hasNul, root], by simp [root], fun l content below => ?_⟩
  rw [Path.place, rootAbove root] at below
  rw [List.prefix_nil.mp below, rootDirectory]
  simp

theorem rootPlace (root : p.parts = []) : p.place = [] := by rw [Path.place, root, List.foldl_nil]

theorem rootDeposit (root : p.parts = []) (content : ByteArray) :
    t.deposit p content = (t, .error (.files (.writeFile p.text))) := by
  simp [deposit, rootAbove root, lay, Path.hasNul, root, rootPlace root, rootDirectory]

theorem layPlace (wf : t.WellFormed) (straight : p.Straight) (plain : p.Plain)
    (walk : t.lay [] p.parent.parts = (u, true)) : u.get? p.place = t.get? p.place := by
  have longer : ¬ p.place <+: p.parent.parts := fun below => by
    have short := below.length_le
    rw [straight.place, plain.ending, List.length_append, List.length_singleton] at short
    omega
  rw [layHolds wf straight.above.onward walk, if_neg longer, Option.or_none]

theorem depositOk (wf : t.WellFormed) (straight : p.Straight) (content : ByteArray) :
    (t.deposit p content).2 = .ok () ↔ p.Open t ∧ t.get? p.place ≠ some .directory := by
  rcases straight.rootOrPlain with root | plain
  · rw [rootDeposit root, rootPlace root, rootDirectory]
    simp
  · rw [openIff straight plain, deposit]
    have nul : p.parent.hasNul = true → p.hasNul = true := by
      simp only [Path.hasNul, plain.ending, List.any_append, Bool.or_eq_true]
      exact .inl
    by_cases dirty : p.parent.hasNul = true
    · simp [dirty, nul dirty]
    · rw [if_neg dirty]
      cases walk : t.lay [] p.parent.parts with
      | mk u through =>
        cases through with
        | false => simp
        | true =>
          dsimp only
          rw [layPlace wf straight plain walk]
          by_cases clean : p.hasNul = true
          · simp [clean]
          · rw [if_neg clean]
            split <;> simp_all

theorem fileExistsCases (wf : t.WellFormed) (cwd : Location) (straight : p.Straight) :
    (∃ failure, t.fileExists cwd p = .error failure ∧ ¬ p.Open t) ∨
    (t.fileExists cwd p = .ok true ∧ p.Open t ∧ (t.get? p.place).isSome = true) ∨
    (t.fileExists cwd p = .ok false ∧ (p.hasNul = false → t.get? p.place = none)) := by
  rcases straight.rootOrPlain with root | plain
  · refine .inr (.inl ⟨?_, rootOpen root, by simp [rootPlace root, rootDirectory]⟩)
    simp [fileExists, Path.hasNul, exists?, stat, locate, straight.absolute, root, follow,
      rootDirectory]
  · rw [fileExistsReach wf cwd plain, openIff straight plain]
    by_cases dirty : p.hasNul = true
    · exact .inr (.inr ⟨if_pos dirty, fun clean => by simp [dirty] at clean⟩)
    · rw [if_neg dirty]
      cases reached : t.reach [] p.parent.parts with
      | ok inner =>
        obtain ⟨through, _, _⟩ := reachOk wf (rootDirectory t) reached
        rw [through]
        by_cases fit : fits p.name = true
        · cases there : (t.get? p.place).isSome with
          | true => simp [fit, dirty]
          | false => exact .inr (.inr ⟨by simp [fit], fun _ => by simpa using there⟩)
        · simp [fit]
      | error obstacle =>
        by_cases long : obstacle = .longName
        · subst long
          have stopped := reachBlocked wf (rootDirectory t) reached (by simp)
          simp [stopped]
        · have gone : t.get? p.place = none := by
            by_contra there
            obtain ⟨e, found⟩ := Option.ne_none_iff_exists'.mp there
            rw [plain.place, straight.above.place] at found
            rcases reachThere (l := []) wf straight.above.onward (wf _ _ _ found) with
              ⟨inner, ok⟩ | error
            · cases reached.symm.trans ok
            · exact long (Except.error.inj (reached.symm.trans error))
          cases obstacle <;> simp_all

theorem freeSettles (wf : t.WellFormed) (cwd : Location) (straight : a.path.Straight)
    (free : a.Free t) : (t.settle cwd a).2.failure? = none := by
  have puts (solid : t.get? a.path.place ≠ some .directory) :
      (t.deposit a.path a.content.toUTF8).2 = .ok () :=
    (depositOk wf straight _).mpr ⟨free.1, solid⟩
  cases put : t.deposit a.path a.content.toUTF8 with
  | mk u result =>
    rw [put] at puts
    unfold settle
    rw [put]
    cases always : a.overwrite with
    | true =>
      obtain rfl := puts (free.2 always)
      rfl
    | false =>
      rcases fileExistsCases wf cwd straight with
        ⟨_, _, blocked⟩ | ⟨there, _, _⟩ | ⟨absent, gone⟩
      · exact absurd free.1 blocked
      · simp [there, Fate.failure?]
      · obtain rfl := puts (by simp [gone free.1.clean])
        simp [absent, Fate.failure?]

theorem writeTextStraight (wf : t.WellFormed) (cwd : Location) (straight : a.path.Straight) :
    t.writeText cwd a.path a.content = t.deposit a.path a.content.toUTF8 := by
  rcases straight.rootOrPlain with root | plain
  · rw [rootDeposit root, writeText, ensureDirectoryLay wf cwd straight.above.absolute]
    simp [rootAbove root, lay, Path.hasNul, root, write, locate, straight.absolute, follow,
      rootDirectory]
  · exact writeTextDeposit wf cwd plain a.content

theorem settleStraightWellFormed (wf : t.WellFormed) (cwd : Location) (straight : a.path.Straight) :
    (t.settle cwd a).1.WellFormed := by
  rcases straight.rootOrPlain with root | plain
  · have same : (t.settle cwd a).1 = t := by
      rw [settle, rootDeposit root]
      split <;> rfl
    rwa [same]
  · exact (settleWellFormed wf cwd plain).1

end FileTree

end EntityForge
