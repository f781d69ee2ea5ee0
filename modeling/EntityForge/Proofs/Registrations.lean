import EntityForge.Target.Registry

/-! Histories of a registry. Whatever is registered and removed, and however far a registration gets,
an alias leads to a key that has a target. A registration that must not replace takes a name from
another key in one case only: when its own key was an alias. -/
namespace EntityForge.Registry

section Pairs
variable {α : Type} {pairs : List (String × α)} {key : String} {value : α}

theorem lookupMember (found : pairs.lookup key = some value) : (key, value) ∈ pairs := by
  obtain ⟨before, after, rfl, _⟩ := List.lookup_eq_some_iff.mp found
  simp

theorem lookupKept {keep : String × α → Bool} (found : pairs.lookup key = some value)
    (kept : keep (key, value) = true) : (pairs.filter keep).lookup key = some value := by
  obtain ⟨before, after, rfl, others⟩ := List.lookup_eq_some_iff.mp found
  refine List.lookup_eq_some_iff.mpr ⟨before.filter keep, after.filter keep, by simp [kept], ?_⟩
  intro pair member
  exact others pair (List.mem_filter.mp member).1

theorem lookupCons (pairs : List (String × α)) (key : String) (value : α) (other : String) :
    ((key, value) :: pairs).lookup other = if other = key then some value else pairs.lookup other := by
  rw [List.lookup_cons]
  by_cases same : other = key
  · simp [same]
  · simp [same, beq_false_of_ne same]

theorem lookupPut (pairs : List (String × α)) (key : String) (value : α) (other : String) :
    (put pairs key value).lookup other = if other = key then some value else pairs.lookup other := by
  induction pairs with
  | nil => rw [put, lookupCons]
  | cons pair rest ih =>
    obtain ⟨k, v⟩ := pair
    unfold put
    split
    next here =>
      subst here
      rw [lookupCons, lookupCons]
      split <;> rfl
    next differ =>
      rw [lookupCons, lookupCons, ih]
      by_cases first : other = k
      · simp [first, differ]
      · simp [first]

theorem memberPut {entry : String × α} (member : entry ∈ put pairs key value) :
    entry = (key, value) ∨ entry ∈ pairs := by
  induction pairs with
  | nil => exact .inl (List.mem_singleton.mp member)
  | cons pair rest ih =>
    obtain ⟨k, v⟩ := pair
    unfold put at member
    split at member
    next here =>
      rcases List.mem_cons.mp member with rfl | later
      · exact .inl (by rw [here])
      · exact .inr (List.mem_cons_of_mem _ later)
    next =>
      rcases List.mem_cons.mp member with rfl | later
      · exact .inr List.mem_cons_self
      · exact (ih later).imp_right (List.mem_cons_of_mem _)

end Pairs

variable {α : Type} {r u : Registry α}

theorem memberKeys {key : String} : key ∈ r.keys ↔ (r.targets.lookup key).isSome = true := by
  rw [List.lookup_isSome_iff]
  simp [keys, @eq_comm _ key]

/- Aliases are added one by one until one is refused. Without `replace` a new alias is no key and
leads nowhere else. -/
inductive Aliased (target : String) (replace : Bool) : Registry α → Registry α → Prop where
  | done (r : Registry α) : Aliased target replace r r
  | more {r u : Registry α} {key : String}
      (free : replace = false → r.targets.lookup key = none ∧
        ∀ owner, r.aliases.lookup key = some owner → owner = target)
      (next : Aliased target replace { r with aliases := put r.aliases key target } u) :
      Aliased target replace r u

theorem conflictNone {target label : String} (none : r.conflict? target label = none) :
    r.targets.lookup (keyOf label) = .none ∧
      ∀ owner, r.aliases.lookup (keyOf label) = some owner → owner = target := by
  unfold conflict? at none
  dsimp only at none
  split at none
  · cases none
  next free =>
    refine ⟨Option.not_isSome_iff_eq_none.mp free, fun owner found => ?_⟩
    rw [found] at none
    dsimp only at none
    split at none
    · assumption
    · cases none

theorem addAliasesAliased (r : Registry α) (target : String) (replace : Bool)
    (labels : List String) : Aliased target replace r (r.addAliases target replace labels).1 := by
  induction labels generalizing r with
  | nil => exact .done r
  | cons label rest ih =>
    unfold addAliases
    dsimp only
    split
    · exact ih r
    · split
      · exact .done r
      next none =>
        refine .more (fun kept => conflictNone ?_) (ih _)
        simpa [kept] using none

namespace Aliased
variable {target : String} {replace : Bool}

theorem targets (aliased : Aliased target replace r u) : u.targets = r.targets := by
  induction aliased with
  | done => rfl
  | more _ _ ih => exact ih

theorem member (aliased : Aliased target replace r u) {entry : String × String}
    (found : entry ∈ u.aliases) : entry.2 = target ∨ entry ∈ r.aliases := by
  induction aliased with
  | done => exact .inr found
  | more _ _ ih =>
    rcases ih found with new | old
    · exact .inl new
    · exact (memberPut old).imp_left fun same => by rw [same]

theorem kept (aliased : Aliased target false r u) {key owner : String}
    (found : r.aliases.lookup key = some owner) : u.aliases.lookup key = some owner := by
  induction aliased with
  | done => exact found
  | @more r u label free _ ih =>
    refine ih ?_
    rw [lookupPut]
    split
    next same =>
      subst same
      rw [(free rfl).2 owner found]
    next => exact found

end Aliased

inductive Registered (r : Registry α) (name : Value) (generator : Option α) (replace : Bool) :
    Registry α → Prop where
  | ignored (refused : ∀ text t, name = .text text → generator = some t →
        replace = false ∧ keyOf text ∈ r.keys) :
      Registered r name generator replace r
  | entered {u : Registry α} {text : String} {t : α} (named : name = .text text)
      (given : generator = some t) (allowed : replace = false → keyOf text ∉ r.keys)
      (aliased : Aliased (keyOf text) replace { r with targets := put r.targets (keyOf text) t } u) :
      Registered r name generator replace u

theorem registerRegistered (r : Registry α) (text : String) (t : α) (labels : List String)
    (replace : Bool) :
    Registered r (.text text) (some t) replace (r.register text t labels replace).1 := by
  unfold register
  dsimp only
  split
  next skipped =>
    simp only [Bool.and_eq_true, Bool.not_eq_true'] at skipped
    refine .ignored fun other _ same _ => ?_
    cases same
    exact ⟨skipped.2, memberKeys.mpr skipped.1⟩
  next entered =>
    refine .entered rfl rfl (fun kept taken => ?_) (addAliasesAliased _ _ _ _)
    simp [kept, memberKeys.mp taken] at entered

theorem registerRawText (r : Registry α) (text : String) (t : α) (aliases : Value) (replace : Bool) :
    ∃ labels, (r.registerRaw (.text text) (some t) aliases replace).1 =
      (r.register text t labels replace).1 := by
  unfold registerRaw nameOf
  dsimp only
  split
  · exact ⟨_, rfl⟩
  · rw [apply_ite Prod.fst, ite_self]
    exact ⟨_, rfl⟩

theorem registerRawRegistered (r : Registry α) (name : Value) (generator : Option α)
    (aliases : Value) (replace : Bool) :
    Registered r name generator replace (r.registerRaw name generator aliases replace).1 := by
  cases generator with
  | none => exact .ignored fun _ _ _ given => by cases given
  | some t =>
    cases name with
    | text text =>
      obtain ⟨labels, same⟩ := registerRawText r text t aliases replace
      rw [same]
      exact registerRegistered r text t labels replace
    | _ => exact .ignored fun _ _ named _ => by cases named

inductive Request (α : Type) where
  | register (name : Value) (generator : Option α) (aliases : Value) (replace : Bool)
  | unregister (name : String)

def after (r : Registry α) : Request α → Registry α
  | .register name generator aliases replace => (r.registerRaw name generator aliases replace).1
  | .unregister name => r.unregister name

inductive Reachable : Registry α → Prop where
  | empty : Reachable {}
  | after {r : Registry α} (reached : Reachable r) (request : Request α) :
      Reachable (r.after request)

def Sound (r : Registry α) : Prop := ∀ entry ∈ r.aliases, entry.2 ∈ r.keys

section Entered
variable {key : String} {t : α} {replace : Bool}

theorem enteredTargets (aliased : Aliased key replace { r with targets := put r.targets key t } u)
    (other : String) :
    u.targets.lookup other = if other = key then some t else r.targets.lookup other := by
  rw [aliased.targets, lookupPut]

theorem enteredKeys (aliased : Aliased key replace { r with targets := put r.targets key t } u)
    {other : String} : other ∈ u.keys ↔ other = key ∨ other ∈ r.keys := by
  rw [memberKeys, memberKeys, enteredTargets aliased]
  split
  next same => simp [same]
  next differ => simp [differ]

end Entered

theorem Registered.sound {name : Value} {generator : Option α} {replace : Bool}
    (registered : Registered r name generator replace u) (sound : r.Sound) : u.Sound := by
  cases registered with
  | ignored _ => exact sound
  | entered _ _ _ aliased =>
    intro entry found
    exact (enteredKeys aliased).mpr ((aliased.member found).imp_right (sound entry))

theorem unregisterKeys {name key : String} :
    key ∈ (r.unregister name).keys ↔ key ≠ keyOf name ∧ key ∈ r.keys := by
  simp only [keys, unregister, List.mem_mergeSort, List.mem_map, List.mem_filter, decide_eq_true_eq]
  constructor
  · rintro ⟨entry, ⟨member, differ⟩, rfl⟩
    exact ⟨differ, entry, member, rfl⟩
  · rintro ⟨differ, entry, member, rfl⟩
    exact ⟨entry, ⟨member, differ⟩, rfl⟩

theorem unregisterSound (sound : r.Sound) (name : String) : (r.unregister name).Sound := by
  intro entry member
  obtain ⟨member, differ⟩ := List.mem_filter.mp member
  exact unregisterKeys.mpr ⟨of_decide_eq_true differ, sound entry member⟩

theorem Reachable.sound (reached : r.Reachable) : r.Sound := by
  induction reached with
  | empty => intro entry member; cases member
  | after _ request ih =>
    cases request with
    | register name generator aliases replace =>
      exact (registerRawRegistered _ name generator aliases replace).sound ih
    | unregister name => exact unregisterSound ih name

theorem findCases {name key : String} :
    r.find? name = some key ↔ (keyOf name ∈ r.keys ∧ key = keyOf name) ∨
      (keyOf name ∉ r.keys ∧ r.aliases.lookup (keyOf name) = some key) := by
  unfold find?
  dsimp only
  rw [memberKeys]
  split
  next own => simp [own, eq_comm]
  next other => simp [other]

theorem resolveOk {name : Value} {key : String} :
    r.resolve name = .ok key ↔ r.find? name.display = some key := by
  unfold resolve
  cases r.find? name.display <;> simp

theorem findKey (sound : r.Sound) {name key : String} (found : r.find? name = some key) :
    key ∈ r.keys := by
  rcases findCases.mp found with ⟨own, rfl⟩ | ⟨_, nickname⟩
  · exact own
  · exact sound _ (lookupMember nickname)

theorem targetOk {name : Value} {t : α} :
    r.target name = .ok t ↔ ∃ key, r.resolve name = .ok key ∧ r.targets.lookup key = some t := by
  unfold target
  cases r.resolve name with
  | error failure => simp [bind, Except.bind]
  | ok key =>
    simp only [bind, Except.bind, Except.ok.injEq, exists_eq_left']
    cases r.targets.lookup key with
    | none => simp
    | some g => simp

theorem supportsFind {name : Value} :
    r.supports name = true ↔ ∃ key, r.find? name.display = some key := by
  unfold supports find?
  dsimp only
  split
  next own => simp [own]
  next other => simp [other, Option.isSome_iff_exists]

theorem unregisterFind {gone name key : String} (found : (r.unregister gone).find? name = some key) :
    key ≠ keyOf gone := by
  rcases findCases.mp found with ⟨own, rfl⟩ | ⟨_, nickname⟩
  · exact (unregisterKeys.mp own).1
  · exact of_decide_eq_true (List.mem_filter.mp (lookupMember nickname)).2

theorem unregisterKept {gone name key : String} (found : r.find? name = some key)
    (other : key ≠ keyOf gone) : (r.unregister gone).find? name = some key := by
  refine findCases.mpr ?_
  rcases findCases.mp found with ⟨own, rfl⟩ | ⟨none, nickname⟩
  · exact .inl ⟨unregisterKeys.mpr ⟨other, own⟩, rfl⟩
  · refine .inr ⟨fun own => none (unregisterKeys.mp own).2, ?_⟩
    exact lookupKept nickname (decide_eq_true other)

theorem reachableSound (reached : r.Reachable) :
    (∀ entry ∈ r.aliases, entry.2 ∈ r.keys) ∧
    (∀ name, (r.supports name = true ↔ ∃ key, r.resolve name = .ok key) ∧
      (r.supports name = true ↔ ∃ t, r.target name = .ok t)) ∧
    (∀ name key, r.resolve name = .ok key → key ∈ r.keys) ∧
    ∀ gone, (∀ name, (r.unregister gone).resolve name ≠ .ok (keyOf gone)) ∧
      ∀ name key, r.resolve name = .ok key → key ≠ keyOf gone →
        (r.unregister gone).resolve name = .ok key := by
  have sound := reached.sound
  refine ⟨sound, fun name => ⟨?_, ?_⟩, fun name key ok => findKey sound (resolveOk.mp ok), ?_⟩
  · simp only [resolveOk, supportsFind]
  · rw [supportsFind]
    constructor
    · rintro ⟨key, found⟩
      obtain ⟨t, given⟩ := Option.isSome_iff_exists.mp (memberKeys.mp (findKey sound found))
      exact ⟨t, targetOk.mpr ⟨key, resolveOk.mpr found, given⟩⟩
    · rintro ⟨t, ok⟩
      obtain ⟨key, found, _⟩ := targetOk.mp ok
      exact ⟨key, resolveOk.mp found⟩
  · intro gone
    refine ⟨fun name ok => unregisterFind (resolveOk.mp ok) rfl, fun name key ok other => ?_⟩
    exact resolveOk.mpr (unregisterKept (resolveOk.mp ok) other)

def contested : Registry :=
  (({} : Registry).after (.register (.text "doctrine") (some .doctrine) (.list [.text "orm"]) false)).after
    (.register (.text "ef") (some .entityFramework) (.list [.text "net", .text "orm"]) false)

theorem contestedReachable : contested.Reachable := .after (.after .empty _) _

theorem contestedSound : contested.Reachable ∧
    contested.aliases = [("orm", "doctrine"), ("net", "ef")] ∧
    (∀ entry ∈ contested.aliases, entry.2 ∈ contested.keys) ∧
    (∀ name, (contested.supports name = true ↔ ∃ key, contested.resolve name = .ok key) ∧
      (contested.supports name = true ↔ ∃ t, contested.target name = .ok t)) ∧
    (∀ name key, contested.resolve name = .ok key → key ∈ contested.keys) ∧
    ∀ gone, (∀ name, (contested.unregister gone).resolve name ≠ .ok (keyOf gone)) ∧
      ∀ name key, contested.resolve name = .ok key → key ≠ keyOf gone →
        (contested.unregister gone).resolve name = .ok key :=
  ⟨contestedReachable, by decide +kernel, reachableSound contestedReachable⟩

def Leads (r : Registry α) (name : Value) (key : String) (t : α) : Prop :=
  r.resolve name = .ok key ∧ r.target name = .ok t

theorem leadsIff {name : Value} {key : String} {t : α} :
    r.Leads name key t ↔ r.find? name.display = some key ∧ r.targets.lookup key = some t := by
  unfold Leads
  rw [targetOk, resolveOk]
  constructor
  · rintro ⟨found, other, same, given⟩
    rw [resolveOk, found] at same
    cases same
    exact ⟨found, given⟩
  · rintro ⟨found, given⟩
    exact ⟨found, key, resolveOk.mpr found, given⟩

theorem leadsOne {name : Value} {key other : String} {t g : α} (leads : r.Leads name key t)
    (again : r.Leads name other g) : other = key :=
  Option.some.inj ((leadsIff.mp again).1.symm.trans (leadsIff.mp leads).1)

section Entered
variable {own : String} {g : α} {label : Value} {key : String} {t : α}

theorem leadsOwn {replace : Bool}
    (aliased : Aliased own replace { r with targets := put r.targets own g } u)
    (same : keyOf label.display = own) : u.Leads label (keyOf label.display) g := by
  refine leadsIff.mpr ⟨findCases.mpr (.inl ⟨?_, rfl⟩), ?_⟩
  · exact (enteredKeys aliased).mpr (.inl same)
  · rw [enteredTargets aliased, if_pos same]

theorem leadsStill (aliased : Aliased own false { r with targets := put r.targets own g } u)
    (new : own ∉ r.keys) (differ : keyOf label.display ≠ own) (leads : r.Leads label key t) :
    u.Leads label key t := by
  obtain ⟨found, given⟩ := leadsIff.mp leads
  have old : key ∈ r.keys := memberKeys.mpr (by simp [given])
  have other : key ≠ own := fun taken => new (taken ▸ old)
  refine leadsIff.mpr ⟨findCases.mpr ?_, by rw [enteredTargets aliased, if_neg other, given]⟩
  rcases findCases.mp found with ⟨there, rfl⟩ | ⟨none, nickname⟩
  · exact .inl ⟨(enteredKeys aliased).mpr (.inr there), rfl⟩
  · exact .inr ⟨fun now => ((enteredKeys aliased).mp now).elim differ none, aliased.kept nickname⟩

end Entered

def Takes (r : Registry α) (name : Value) (generator : Option α) (label : Value) : Prop :=
  ∃ text g, name = .text text ∧ generator = some g ∧ keyOf label.display = keyOf text ∧
    keyOf text ∉ r.keys

/- Without `replace`, a name that led somewhere still leads there, unless the registration takes it: the
name was an alias, becomes a key and leads to the new target. -/
theorem registerKeeps (name : Value) (generator : Option α) (aliases : Value) {label : Value}
    {key : String} {t : α} (leads : r.Leads label key t) :
    ((r.after (.register name generator aliases false)).Leads label key t ↔
        ¬ r.Takes name generator label) ∧
      (r.Takes name generator label → ∃ g, generator = some g ∧
        (r.after (.register name generator aliases false)).Leads label (keyOf label.display) g) := by
  have registered := registerRawRegistered r name generator aliases false
  unfold after
  dsimp only
  generalize (r.registerRaw name generator aliases false).1 = u at registered ⊢
  cases registered with
  | ignored refused =>
    have free : ¬ r.Takes name generator label := by
      rintro ⟨text, g, named, given, _, new⟩
      exact new (refused text g named given).2
    exact ⟨⟨fun _ => free, fun _ => leads⟩, fun takes => absurd takes free⟩
  | @entered u text g named given new aliased =>
    have new := new rfl
    by_cases same : keyOf label.display = keyOf text
    · have now := leadsOwn aliased same
      have old : key ∈ r.keys := memberKeys.mpr (by simp [(leadsIff.mp leads).2])
      have takes : r.Takes name generator label := ⟨text, g, named, given, same, new⟩
      refine ⟨⟨fun still => ?_, fun free => absurd takes free⟩, fun _ => ⟨g, given, now⟩⟩
      rw [← leadsOne still now, same] at old
      exact absurd old new
    · have free : ¬ r.Takes name generator label := by
        rintro ⟨other, _, named', _, same', _⟩
        rw [named] at named'
        cases named'
        exact same same'
      exact ⟨⟨fun _ => free, fun _ => leadsStill aliased new same leads⟩,
        fun takes => absurd takes free⟩

theorem ormKept : contested.Leads (.text "ORM") "doctrine" .doctrine ∧
    ((contested.after (.register (.text "orm") (some .entityFramework) .null false)).Leads
        (.text "ORM") "doctrine" .doctrine ↔
      ¬ contested.Takes (.text "orm") (some .entityFramework) (.text "ORM")) ∧
    (contested.Takes (.text "orm") (some .entityFramework) (.text "ORM") →
      ∃ g, some Target.entityFramework = some g ∧
        (contested.after (.register (.text "orm") (some .entityFramework) .null false)).Leads
          (.text "ORM") (keyOf (Value.text "ORM").display) g) := by
  have leads : contested.Leads (.text "ORM") "doctrine" .doctrine := leadsIff.mpr (by decide +kernel)
  exact ⟨leads, registerKeeps (.text "orm") (some .entityFramework) .null leads⟩

theorem ormRedirected : contested.Reachable ∧ contested.Leads (.text "orm") "doctrine" .doctrine ∧
    ¬ (contested.after (.register (.text "orm") (some .entityFramework) .null false)).Leads
      (.text "orm") "doctrine" .doctrine := by
  refine ⟨contestedReachable, leadsIff.mpr (by decide +kernel), ?_⟩
  intro still
  obtain ⟨found, _⟩ := leadsIff.mp still
  have now : (contested.after (.register (.text "orm") (some .entityFramework) .null false)).find?
      "orm" = some "orm" := by decide +kernel
  exact absurd (found.symm.trans now) (by decide)

end EntityForge.Registry
