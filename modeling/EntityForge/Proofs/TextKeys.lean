import EntityForge.Proofs.Calls
import EntityForge.Proofs.Keys
import EntityForge.Proofs.Knots
import EntityForge.Proofs.Merges
import Mathlib.Data.Finset.Card
import Mathlib.Data.Finset.Range

/-! Keys of YAML mappings. A mapping takes over the entries of those it merges and then has its own; a
key that is written as a scalar is its text, at every depth, and the last entry for a key counts. A
document is a graph of nodes, since a reference is the node that it names; so what it stands for is told
by a relation that holds all the way down, also where the way never ends. -/
namespace EntityForge
open List (Forall₂)

/- What a mapping holds that takes over some pairs and then has its own: its keys are keys of these, a
text among them stays a key of its own, and for each key the last own value counts, else the last one
taken over. -/
structure Held (inherited own result : Entries) : Prop where
  apart : Entries.Apart result
  stem : ∀ e ∈ result, ∃ pair ∈ inherited ++ own, pair.1 = e.1
  text : ∀ pair ∈ inherited ++ own, ∀ s, pair.1 = .text s → ∃ e ∈ result, e.1 = .text s
  last : ∀ key, Entries.get? result key = (Entries.last? own key).or (Entries.last? inherited key)

theorem heldOf (inherited own : Entries) : Held inherited own (Entries.ofPairs (inherited ++ own)) where
  apart := Entries.ofPairsApart _
  stem e member := by
    have member : e ∈ Entries.update [] (inherited ++ own) := member
    exact (Entries.stemUpdate member).resolve_left (by simp)
  text pair member s written := by
    obtain ⟨e, there, alike⟩ := (Entries.updateKeeps [] (inherited ++ own)).1 pair member
    exact ⟨e, there, Value.alikeText.mp (written ▸ alike)⟩
  last key := by rw [Entries.getOfPairs, Entries.lastAppend]

namespace Yaml

def Tag.collects : Tag → Bool
  | .sequence | .mapping | .set | .orderedMap | .pairs => true
  | _ => false

section Levels
variable (nodes : List Node) (stands : Nat → Value → Prop)

def Reads (i : Nat) (a : Atom) : Prop :=
  (nodeAt nodes i).tag.collects = false ∧ ∀ text, (nodeAt nodes i).shape = .scalar text →
    (nodeAt nodes i).tag.read text = .ok a ∨ (nodeAt nodes i).tag = .default ∧ a = .text text

inductive KeyOf : Nat → Value → Prop where
  | text {key tag s} (node : nodeAt nodes key = ⟨tag, .scalar s⟩) : KeyOf key (.text s)
  | other {key v} (unwritten : (nodeAt nodes key).shape.isScalar = false) (stands : stands key v)
      (hashable : v.hashable = true) : KeyOf key v

def EntryOf (e : Nat × Nat) (pair : Value × Value) : Prop :=
  KeyOf nodes stands e.1 pair.1 ∧ stands e.2 pair.2

inductive Filled (i : Nat) (result : Entries) : Prop where
  | intro {merged inherited given} (taken : TakenOver nodes i merged)
      (before : Forall₂ (EntryOf nodes stands) merged inherited)
      (after : Forall₂ (EntryOf nodes stands) (own nodes (entriesAt nodes i)) given)
      (held : Held inherited given result) : Filled i result

inductive PairOf (item : Nat) (v : Value) : Prop where
  | intro {e name content} (entry : e ∈ entriesAt nodes item ∨ Inherited nodes item e)
      (first : stands e.1 name) (second : stands e.2 content)
      (pair : v.opened = .tuple [name, content]) : PairOf item v

/- What a node stands for, given what the nodes below stand for. -/
inductive Level : Nat → Value → Prop where
  | atom {i a} (reads : Reads nodes i a) : Level i (.ofAtom a)
  | sequence {i items values v} (node : nodeAt nodes i = ⟨.sequence, .sequence items⟩)
      (holds : v.opened = .list values) (each : Forall₂ stands items values) : Level i v
  | mapping {i entries result v} (node : nodeAt nodes i = ⟨.mapping, .mapping entries⟩)
      (holds : v.opened = .map result) (filled : Filled nodes stands i result) : Level i v
  | set {i entries result v} (node : nodeAt nodes i = ⟨.set, .mapping entries⟩)
      (holds : v.opened = .set (result.map Prod.fst))
      (filled : Filled nodes stands i result) : Level i v
  | pairs {i tag items values v} (tagged : tag = .orderedMap ∨ tag = .pairs)
      (node : nodeAt nodes i = ⟨tag, .sequence items⟩) (holds : v.opened = .list values)
      (each : Forall₂ (PairOf nodes stands) items values) : Level i v

end Levels

/- What nodes stand for, with every level as it has to be. -/
def Stands (nodes : List Node) (i : Nat) (v : Value) : Prop :=
  ∃ stands : Nat → Value → Prop, (∀ i v, stands i v → Level nodes stands i v) ∧ stands i v

namespace Builder
variable {written : List Node} {s t u : Building} {work : List (Nat × Nat)} {i place home : Nat}

def Built (s : Building) (i : Nat) (part : Part) : Prop := s.built.lookup i = some part

def Tupled (s : Building) (home : Nat) (parts : List Part) : Prop :=
  s.objects[home]? = some (Object.tuple parts)

inductive Named (written : List Node) (s : Building) : Nat → Atom → Prop where
  | text {key tag text} (node : nodeAt written key = ⟨tag, .scalar text⟩) :
      Named written s key (.text text)
  | other {key a} (unwritten : (nodeAt written key).shape.isScalar = false)
      (built : Built s key (.atom a)) : Named written s key a

def Entered (written : List Node) (s : Building) (e : Nat × Nat) (pair : Atom × Part) : Prop :=
  Named written s e.1 pair.1 ∧ Built s e.2 pair.2

inductive Paired (written : List Node) (s : Building) (item : Nat) (part : Part) : Prop where
  | intro {e name content home} (entry : e ∈ entriesAt written item ∨ Inherited written item e)
      (first : Built s e.1 name) (second : Built s e.2 content) (is : part = .object home)
      (there : Tupled s home [name, content]) : Paired written s item part

def Holds (written : List Node) (s : Building) (i : Nat) (pairs : List (Atom × Part)) : Prop :=
  ∃ given, TakenOver written i given ∧
    Forall₂ (Entered written s) (given ++ own written (entriesAt written i)) pairs

inductive Fits (written : List Node) (s : Building) (i : Nat) : Object → Prop where
  | sequence {items parts} (node : nodeAt written i = ⟨.sequence, .sequence items⟩)
      (each : Forall₂ (Built s) items parts) : Fits written s i (.list parts)
  | mapping {entries pairs} (node : nodeAt written i = ⟨.mapping, .mapping entries⟩)
      (holds : Holds written s i pairs) : Fits written s i (.map pairs)
  | set {entries pairs} (node : nodeAt written i = ⟨.set, .mapping entries⟩)
      (holds : Holds written s i pairs) : Fits written s i (.set pairs)
  | pairs {tag items parts} (tagged : tag = .orderedMap ∨ tag = .pairs)
      (node : nodeAt written i = ⟨tag, .sequence items⟩)
      (each : Forall₂ (Paired written s) items parts) : Fits written s i (.list parts)

def isTuple : Object → Bool
  | .tuple _ => true
  | _ => false

/- What is built of a node is its atom or its own object; the object is filled, or it is in work, or it
waits. -/
inductive Stage (written : List Node) (work : List (Nat × Nat)) (s : Building) (i : Nat) :
    Part → Prop where
  | atom {a} (reads : Reads written i a) : Stage written work s i (.atom a)
  | object {home o} (there : s.objects[home]? = some o) (plain : isTuple o = false)
      (stage : (i, home) ∈ work ++ s.waiting ∨ Fits written s i o) :
      Stage written work s i (.object home)

structure Sound (written : List Node) (work : List (Nat × Nat)) (s : Building) : Prop where
  later : Later written s.nodes
  ready : AllReady written s.nodes fun _ => True
  stage : ∀ {i part}, Built s i part → Stage written work s i part
  waits : ∀ {i home}, (i, home) ∈ work ++ s.waiting → Built s i (.object home)
  apart : ∀ {i j home}, Built s i (.object home) → Built s j (.object home) → i = j

def missing (written : List Node) (s : Building) : Finset Nat :=
  (Finset.range written.length).filter fun i => s.built.lookup i = none

def left (written : List Node) (s : Building) : Nat :=
  s.waiting.length + (missing written s).card

structure Onward (written : List Node) (work : List (Nat × Nat)) (s t : Building) : Prop where
  sound : Sound written work t
  built : ∀ {i part}, Built s i part → Built t i part
  tuples : ∀ {home parts}, Tupled s home parts → Tupled t home parts
  less : left written t ≤ left written s

theorem Onward.trans (first : Onward written work s t) (second : Onward written work t u) :
    Onward written work s u where
  sound := second.sound
  built is := second.built (first.built is)
  tuples there := second.tuples (first.tuples there)
  less := Nat.le_trans second.less first.less

theorem onwardSame (sound : Sound written work s) : Onward written work s s where
  sound := sound
  built := id
  tuples := id
  less := Nat.le_refl _

section Growing
variable (built : ∀ {i part}, Built s i part → Built t i part)
  (tuples : ∀ {home parts}, Tupled s home parts → Tupled t home parts)
include built

theorem Named.grow {key : Nat} {a : Atom} (named : Named written s key a) : Named written t key a := by
  cases named with
  | text node => exact .text node
  | other unwritten is => exact .other unwritten (built is)

theorem Entered.grow {e : Nat × Nat} {pair : Atom × Part} (entered : Entered written s e pair) :
    Entered written t e pair := ⟨entered.1.grow built, built entered.2⟩

theorem Holds.grow {pairs : List (Atom × Part)} (holds : Holds written s i pairs) :
    Holds written t i pairs := by
  obtain ⟨given, taken, each⟩ := holds
  exact ⟨given, taken, each.imp fun _ _ entered => Entered.grow built entered⟩

include tuples

theorem Paired.grow {item : Nat} {part : Part} (paired : Paired written s item part) :
    Paired written t item part := by
  obtain ⟨entry, first, second, is, there⟩ := paired
  exact ⟨entry, built first, built second, is, tuples there⟩

theorem Fits.grow {o : Object} (fits : Fits written s i o) : Fits written t i o := by
  cases fits with
  | sequence node each => exact .sequence node (each.imp fun _ _ is => built is)
  | mapping node holds => exact .mapping node (holds.grow built)
  | set node holds => exact .set node (holds.grow built)
  | pairs tagged node each =>
    exact .pairs tagged node (each.imp fun _ _ paired => paired.grow built tuples)

end Growing

theorem Stage.grow {work' : List (Nat × Nat)} {part : Part}
    (built : ∀ {i part}, Built s i part → Built t i part)
    (objects : ∀ {home : Nat} {o : Object}, s.objects[home]? = some o → t.objects[home]? = some o)
    (waits : ∀ {x}, x ∈ work ++ s.waiting → x ∈ work' ++ t.waiting)
    (stage : Stage written work s i part) :
    Stage written work' t i part := by
  cases stage with
  | atom reads => exact .atom reads
  | object there plain stage =>
    exact .object (objects there) plain (stage.imp waits (Fits.grow built objects))

theorem leftSame (waiting : t.waiting = s.waiting) (built : t.built = s.built) :
    left written t = left written s := by
  unfold left missing
  rw [waiting, built]

theorem onwardNodes (sound : Sound written work s) (keeps : Keeps s t) (later : Later written t.nodes)
    (ready : AllReady written t.nodes fun _ => True) : Onward written work s t := by
  unfold Keeps at keeps
  have built {i : Nat} {part : Part} : Built s i part ↔ Built t i part := by
    unfold Built
    rw [keeps]
  have objects : t.objects = s.objects := by rw [keeps]
  have waiting : t.waiting = s.waiting := by rw [keeps]
  refine ⟨⟨later, ready, fun is => ?_, fun wait => ?_, fun one two => ?_⟩, built.mp, ?_, ?_⟩
  · exact (sound.stage (built.mpr is)).grow built.mp (objects ▸ id) (waiting ▸ id)
  · exact built.mp (sound.waits (waiting ▸ wait))
  · exact sound.apart (built.mpr one) (built.mpr two)
  · unfold Tupled
    exact fun there => objects ▸ there
  · exact Nat.le_of_eq (leftSame waiting (by rw [keeps]))

theorem objectsMore {o o' : Object} (there : s.objects[home]? = some o) :
    (s.objects ++ [o'])[home]? = some o := by
  rw [List.getElem?_append_left (List.getElem?_eq_some_iff.mp there).1, there]

theorem onwardTuple (sound : Sound written work s) (o : Object) :
    Onward written work s { s with objects := s.objects ++ [o] } where
  sound := ⟨sound.later, sound.ready,
    fun is => (sound.stage is).grow (s := s) (t := { s with objects := s.objects ++ [o] })
      id objectsMore id,
    sound.waits, sound.apart⟩
  built := id
  tuples := objectsMore
  less := Nat.le_refl _

theorem builtCons {part : Part} {j : Nat} {other : Part} :
    Built { s with built := (i, part) :: s.built } j other ↔
      j = i ∧ part = other ∨ j ≠ i ∧ Built s j other := by
  unfold Built
  by_cases same : j = i
  · simp [same]
  · rw [List.lookup_cons, beq_false_of_ne same]
    simp [same]

theorem builtMore {part : Part} (unbuilt : s.built.lookup place = none) {j : Nat} {other : Part}
    (is : Built s j other) : Built { s with built := (place, part) :: s.built } j other := by
  refine builtCons.mpr (.inr ⟨fun same => ?_, is⟩)
  rw [same] at is
  cases unbuilt.symm.trans is

theorem missingLess {part : Part} :
    missing written { s with built := (place, part) :: s.built } ⊆ missing written s := by
  intro j member
  obtain ⟨inside, none⟩ := Finset.mem_filter.mp member
  refine Finset.mem_filter.mpr ⟨inside, ?_⟩
  by_contra some
  obtain ⟨other, is⟩ := Option.ne_none_iff_exists'.mp some
  by_cases same : j = place
  · cases none.symm.trans (builtCons.mpr (.inl ⟨same, rfl⟩) : Built _ j part)
  · cases none.symm.trans (builtCons.mpr (.inr ⟨same, is⟩) : Built _ j other)

theorem missingFewer {part : Part} (inside : place < written.length)
    (none : s.built.lookup place = none) :
    (missing written { s with built := (place, part) :: s.built }).card < (missing written s).card := by
  refine Finset.card_lt_card ⟨missingLess, fun back => ?_⟩
  have member : place ∈ missing written s := Finset.mem_filter.mpr ⟨Finset.mem_range.mpr inside, none⟩
  obtain ⟨_, none⟩ := Finset.mem_filter.mp (back member)
  cases none.symm.trans (builtCons.mpr (.inl ⟨rfl, rfl⟩) : Built _ place part)

inductive Made (written : List Node) (place : Nat) (s : Building) : Part → Building → Prop where
  | atom {a} (reads : Reads written place a) : Made written place s (.atom a) s
  | object {o} (collects : (nodeAt written place).tag.collects = true) (plain : isTuple o = false) :
      Made written place s (.object s.objects.length)
        { s with objects := s.objects ++ [o], waiting := s.waiting ++ [(place, s.objects.length)] }

theorem collectsLater (later : Later written s.nodes) :
    (nodeAt written place).tag.collects = (nodeAt s.nodes place).tag.collects := by
  rcases later.tag place with same | ⟨default, text⟩
  · rw [same]
  · rw [default, text]
    rfl

theorem runLift {α : Type} {x : Except ReadFault α} {a : α}
    (ok : (liftM x : Builder α).run s = .ok (a, t)) :
    x = .ok a ∧ s = t := by
  cases x with
  | error fault => cases ok
  | ok b =>
    cases ok
    exact ⟨rfl, rfl⟩

theorem shapeLater (later : Later written s.nodes)
    (plain : (nodeAt s.nodes i).shape.isMapping = false) :
    (nodeAt written i).shape = (nodeAt s.nodes i).shape := by
  rcases later.shape i with same | ⟨_, mapping⟩
  · exact same.symm
  · cases plain.symm.trans mapping

theorem scalarLater (later : Later written s.nodes) :
    (nodeAt written i).shape.isScalar = (nodeAt s.nodes i).shape.isScalar := by
  rcases later.shape i with same | ⟨first, second⟩
  · rw [same]
  · obtain ⟨_, first⟩ := mappingShape first
    obtain ⟨_, second⟩ := mappingShape second
    rw [first, second]
    rfl

theorem atomMade {part : Part} (later : Later written s.nodes)
    (lone : (nodeAt s.nodes place).tag.collects = false) (ok : (atom place).run s = .ok (part, t)) :
    Made written place s part t := by
  unfold atom at ok
  obtain ⟨now, u, got, ok⟩ := runBind ok
  cases got
  obtain ⟨text, u, lifted, ok⟩ := runBind ok
  obtain ⟨found, rfl⟩ := runLift lifted
  have read : ∃ a, (nodeAt s.nodes place).tag.read text = .ok a ∧ part = .atom a ∧ s = t := by
    dsimp only at ok
    split at ok
    next => cases ok
    next =>
      obtain ⟨a, v, lifted, ok⟩ := runBind ok
      obtain ⟨read, rfl⟩ := runLift lifted
      cases ok
      exact ⟨a, read, rfl, rfl⟩
  obtain ⟨a, read, rfl, rfl⟩ := read
  refine .atom ⟨collectsLater later ▸ lone, fun scalar shape => ?_⟩
  have same : (nodeAt s.nodes place).shape = .scalar scalar := by
    rcases later.shape place with same | ⟨mapping, _⟩
    · rw [same, shape]
    · rw [shape] at mapping
      cases mapping
  have text : text = scalar := by
    rw [textAt, same] at found
    exact (Except.ok.inj found).symm
  rcases later.tag place with tag | ⟨default, tag⟩
  · exact .inl (text ▸ tag ▸ read)
  · rw [tag] at read
    exact .inr ⟨default, text ▸ (Except.ok.inj read).symm⟩

theorem freshMade {part : Part} (later : Later written s.nodes)
    (ok : (fresh place).run s = .ok (part, t)) :
    Made written place s part t := by
  unfold fresh at ok
  obtain ⟨now, u, got, ok⟩ := runBind ok
  cases got
  have begun {o : Object} (plain : isTuple o = false)
      (collects : (nodeAt s.nodes place).tag.collects = true)
      (ok : (start place o).run s = .ok (part, t)) :
      Made written place s part t := by
    cases ok
    exact .object (collectsLater later ▸ collects) plain
  split at ok
  case h_1 tag => exact begun rfl (by rw [tag]; rfl) ok
  case h_2 tag => exact begun rfl (by rw [tag]; rfl) ok
  case h_3 tag => exact begun rfl (by rw [tag]; rfl) ok
  case h_4 tag => exact begun rfl (by rw [tag]; rfl) ok
  case h_5 tag => exact begun rfl (by rw [tag]; rfl) ok
  case h_6 => cases ok
  case h_7 => cases ok
  case h_8 => cases ok
  case h_9 =>
    refine atomMade later ?_ ok
    cases tag : (nodeAt s.nodes place).tag <;> first | rfl | contradiction

theorem builtInside (sound : Sound written work s) (is : Built s i (.object home)) :
    home < s.objects.length := by
  cases sound.stage is with
  | object there => exact (List.getElem?_eq_some_iff.mp there).1

theorem atomOnward {a : Atom} (sound : Sound written work s) (unbuilt : s.built.lookup place = none)
    (reads : Reads written place a) :
    Onward written work s { s with built := (place, .atom a) :: s.built } := by
  have more {i : Nat} {other : Part} := @builtMore s place (.atom a) unbuilt i other
  refine ⟨⟨sound.later, sound.ready, fun is => ?_, fun wait => more (sound.waits wait),
    fun one two => ?_⟩, more, id, Nat.add_le_add_left (Finset.card_le_card missingLess) _⟩
  · rcases builtCons.mp is with ⟨rfl, rfl⟩ | ⟨_, is⟩
    · exact .atom reads
    · exact (sound.stage is).grow more id id
  · rcases builtCons.mp one with ⟨_, same⟩ | ⟨_, one⟩
    · cases same
    · rcases builtCons.mp two with ⟨_, same⟩ | ⟨_, two⟩
      · cases same
      · exact sound.apart one two

theorem objectOnward {o : Object} (sound : Sound written work s) (unbuilt : s.built.lookup place = none)
    (inside : place < written.length) (plain : isTuple o = false) :
    Onward written work s
      { s with
        built := (place, .object s.objects.length) :: s.built
        objects := s.objects ++ [o]
        waiting := s.waiting ++ [(place, s.objects.length)] } := by
  have more {i : Nat} {other : Part} := @builtMore s place (.object s.objects.length) unbuilt i other
  -- no node has the new object, since all places that nodes have are taken already
  have fresh {j : Nat} (is : Built s j (.object s.objects.length)) : False :=
    Nat.lt_irrefl _ (builtInside sound is)
  refine ⟨⟨sound.later, sound.ready, fun is => ?_, fun wait => ?_, fun one two => ?_⟩, more,
    objectsMore, ?_⟩
  · rcases builtCons.mp is with ⟨rfl, rfl⟩ | ⟨_, is⟩
    · exact .object (by simp) plain (.inl (by simp))
    · refine (sound.stage is).grow more objectsMore fun wait => ?_
      rw [← List.append_assoc]
      exact List.mem_append_left _ wait
  · rw [← List.append_assoc] at wait
    rcases List.mem_append.mp wait with wait | new
    · exact more (sound.waits wait)
    · cases List.mem_singleton.mp new
      exact builtCons.mpr (.inl ⟨rfl, rfl⟩)
  · rcases builtCons.mp one with ⟨first, same⟩ | ⟨_, one⟩ <;>
      rcases builtCons.mp two with ⟨second, same'⟩ | ⟨_, two⟩
    · exact first.trans second.symm
    · cases same
      exact (fresh two).elim
    · cases same'
      exact (fresh one).elim
    · exact sound.apart one two
  · have fewer := @missingFewer written s place (.object s.objects.length) inside unbuilt
    unfold left
    rw [List.length_append, List.length_singleton]
    unfold missing at *
    dsimp only at *
    omega

theorem madeOnward {part : Part} (sound : Sound written work s) (unbuilt : s.built.lookup place = none)
    (made : Made written place s part t) :
    Onward written work s { t with built := (place, part) :: t.built } := by
  cases made with
  | atom reads => exact atomOnward sound unbuilt reads
  | object collects plain =>
    have inside : place < written.length := placeInside fun absent => by
      rw [absent] at collects
      cases collects
    exact objectOnward sound unbuilt inside plain

theorem buildOnward {part : Part} (sound : Sound written work s)
    (ok : (build place).run s = .ok (part, t)) :
    Onward written work s t ∧ Built t place part := by
  unfold build at ok
  obtain ⟨now, u, got, ok⟩ := runBind ok
  cases got
  split at ok
  next found =>
    cases ok
    exact ⟨onwardSame sound, found⟩
  next unbuilt =>
    obtain ⟨part, u, fresh, ok⟩ := runBind ok
    cases ok
    exact ⟨madeOnward sound unbuilt (freshMade sound.later fresh), builtCons.mpr (.inl ⟨rfl, rfl⟩)⟩

theorem mapMOnward {α β : Type} {f : α → Builder β} {P : Building → α → β → Prop} {xs : List α}
    {ys : List β}
    (grow : ∀ {s t x y}, Onward written work s t → P s x y → P t x y)
    (step : ∀ {s x y t}, Sound written work s → (f x).run s = .ok (y, t) →
      Onward written work s t ∧ P t x y)
    (sound : Sound written work s) (ok : (xs.mapM f).run s = .ok (ys, t)) :
    Onward written work s t ∧ Forall₂ (P t) xs ys := by
  induction xs generalizing s ys with
  | nil =>
    cases ok
    exact ⟨onwardSame sound, .nil⟩
  | cons x xs ih =>
    rw [List.mapM_cons] at ok
    obtain ⟨y, u, here, ok⟩ := runBind ok
    obtain ⟨rest, v, later, ok⟩ := runBind ok
    cases ok
    obtain ⟨first, holds⟩ := step sound here
    obtain ⟨second, each⟩ := ih first.sound later
    exact ⟨first.trans second, .cons (grow second holds) each⟩

theorem keyOnward {a : Atom} (sound : Sound written work s) (ok : (key place).run s = .ok (a, t)) :
    Onward written work s t ∧ Named written t place a := by
  unfold key at ok
  obtain ⟨now, u, got, ok⟩ := runBind ok
  cases got
  split at ok
  next text shape =>
    cases ok
    refine ⟨onwardSame sound, ?_⟩
    have shape := (shapeLater sound.later (by rw [shape]; rfl)).trans shape
    have node : nodeAt written place = ⟨(nodeAt written place).tag, .scalar text⟩ := by rw [← shape]
    exact .text node
  next shape =>
    obtain ⟨part, u, built, ok⟩ := runBind ok
    obtain ⟨onward, built⟩ := buildOnward sound built
    cases part with
    | object home => cases ok
    | atom a =>
      cases ok
      refine ⟨onward, .other ?_ built⟩
      rw [scalarLater sound.later]
      cases written : (nodeAt s.nodes place).shape with
      | scalar text => exact absurd written (shape text)
      | _ => rfl

theorem entryOnward {e : Nat × Nat} {pair : Atom × Part} (sound : Sound written work s)
    (ok : (entry e).run s = .ok (pair, t)) : Onward written work s t ∧ Entered written t e pair := by
  unfold entry at ok
  obtain ⟨name, u, first, ok⟩ := runBind ok
  obtain ⟨part, v, second, ok⟩ := runBind ok
  cases ok
  obtain ⟨first, named⟩ := keyOnward sound first
  obtain ⟨second, built⟩ := buildOnward first.sound second
  exact ⟨first.trans second, named.grow second.built, built⟩

theorem entriesOnward {pairs : List (Atom × Part)} (sound : Sound written work s)
    (mapping : (nodeAt s.nodes place).shape.isMapping = true)
    (ok : (entries place).run s = .ok (pairs, t)) :
    Onward written work s t ∧ Holds written t place pairs := by
  unfold entries at ok
  obtain ⟨now, u, got, ok⟩ := runBind ok
  cases got
  obtain ⟨_, u, flattened, ok⟩ := runBind ok
  obtain ⟨now, v, got, ok⟩ := runBind ok
  cases got
  obtain ⟨keeps, later, ready, given, whole, taken⟩ :=
    flattenTakes sound.later sound.ready mapping flattened
  have first := onwardNodes sound keeps later ready
  obtain ⟨second, each⟩ := mapMOnward (P := Entered written) (fun onward => Entered.grow onward.built)
    entryOnward first.sound ok
  exact ⟨first.trans second, given, taken, whole ▸ each⟩

theorem pairOnward {item : Nat} {part : Part} (sound : Sound written work s)
    (ok : (pair item).run s = .ok (part, t)) : Onward written work s t ∧ Paired written t item part := by
  unfold pair at ok
  obtain ⟨now, u, got, ok⟩ := runBind ok
  cases got
  split at ok
  next first second shape =>
    obtain ⟨name, u, first', ok⟩ := runBind ok
    obtain ⟨content, v, second', ok⟩ := runBind ok
    cases ok
    obtain ⟨one, named⟩ := buildOnward sound first'
    obtain ⟨two, held⟩ := buildOnward one.sound second'
    have three := onwardTuple two.sound (.tuple [name, content])
    have there : Tupled { v with objects := v.objects ++ [.tuple [name, content]] } v.objects.length
        [name, content] := by simp [Tupled]
    refine ⟨(one.trans two).trans three,
      .intro (e := (first, second)) ?_ (two.built named) held rfl there⟩
    obtain ⟨given, kept, whole, stems, own, _⟩ := sound.later.taken item
    have member : (first, second) ∈ given ++ kept := by
      rw [← whole]
      simp [entriesAt, shape, Shape.entries]
    exact (List.mem_append.mp member).elim (.inr ∘ stems _) (.inl ∘ own _)
  next => cases ok

theorem nodeLater {tag : Tag} {shape : Shape} (later : Later written s.nodes)
    (tagged : (nodeAt s.nodes place).tag = tag) (other : tag ≠ .text)
    (shaped : (nodeAt written place).shape = shape) : nodeAt written place = ⟨tag, shape⟩ := by
  rcases later.tag place with same | ⟨_, text⟩
  · rw [← tagged, same, ← shaped]
  · exact absurd (tagged.symm.trans text) other

theorem sequenceLater {tag : Tag} {items : List Nat} (later : Later written s.nodes)
    (tagged : (nodeAt s.nodes place).tag = tag) (other : tag ≠ .text)
    (shape : (nodeAt s.nodes place).shape = .sequence items) :
    nodeAt written place = ⟨tag, .sequence items⟩ :=
  nodeLater later tagged other ((shapeLater later (by rw [shape]; rfl)).trans shape)

theorem pairsOnward {tag : Tag} {items : List Nat} {o : Object} (sound : Sound written work s)
    (tagged : tag = .orderedMap ∨ tag = .pairs) (node : nodeAt written place = ⟨tag, .sequence items⟩)
    (ok : (items.mapM pair >>= fun parts => pure (Object.list parts) : Builder Object).run s = .ok (o, t)) :
    Onward written work s t ∧ Fits written t place o ∧ isTuple o = false := by
  obtain ⟨parts, u, each, ok⟩ := runBind ok
  cases ok
  obtain ⟨onward, each⟩ := mapMOnward (P := Paired written)
    (fun onward => Paired.grow onward.built onward.tuples) pairOnward sound each
  exact ⟨onward, .pairs tagged node each, rfl⟩

theorem contentOnward {o : Object} (sound : Sound written work s)
    (ok : (content place).run s = .ok (o, t)) :
    Onward written work s t ∧ Fits written t place o ∧ isTuple o = false := by
  unfold content at ok
  obtain ⟨now, u, got, ok⟩ := runBind ok
  cases got
  have later := sound.later
  have mapping {entries : List (Nat × Nat)} (shape : (nodeAt s.nodes place).shape = .mapping entries) :
      (nodeAt s.nodes place).shape.isMapping = true := by
    rw [shape]
    rfl
  dsimp only at ok
  split at ok
  next items tag shape =>
    obtain ⟨parts, u, each, ok⟩ := runBind ok
    cases ok
    obtain ⟨onward, each⟩ := mapMOnward (P := Built) (fun onward => onward.built) buildOnward sound each
    exact ⟨onward, .sequence (sequenceLater later tag nofun shape) each, rfl⟩
  next items tag shape => exact pairsOnward sound (.inl rfl) (sequenceLater later tag nofun shape) ok
  next items tag shape => exact pairsOnward sound (.inr rfl) (sequenceLater later tag nofun shape) ok
  next entries tag shape =>
    obtain ⟨pairs, u, each, ok⟩ := runBind ok
    cases ok
    obtain ⟨_, written⟩ := mappingShape (later.isMapping place ▸ mapping shape)
    obtain ⟨onward, holds⟩ := entriesOnward sound (mapping shape) each
    exact ⟨onward, .set (nodeLater later tag nofun written) holds, rfl⟩
  next entries tag shape =>
    obtain ⟨pairs, u, each, ok⟩ := runBind ok
    cases ok
    obtain ⟨_, written⟩ := mappingShape (later.isMapping place ▸ mapping shape)
    obtain ⟨onward, holds⟩ := entriesOnward sound (mapping shape) each
    exact ⟨onward, .mapping (nodeLater later tag nofun written) holds, rfl⟩
  next => cases ok

theorem fillOnward (sound : Sound written [(place, home)] s)
    (ok : (fill place home).run s = .ok ((), t)) :
    Sound written [] t ∧ (∀ {i part}, Built s i part → Built t i part) ∧
      left written t ≤ left written s := by
  unfold fill at ok
  obtain ⟨o, u, filled, ok⟩ := runBind ok
  cases ok
  obtain ⟨onward, fits, plain⟩ := contentOnward sound filled
  have is : Built u place (.object home) := onward.sound.waits List.mem_cons_self
  have inside : home < u.objects.length := builtInside onward.sound is
  -- no pair lies at the home of the object, so pairs that were built stay
  have tuples {other : Nat} {parts : List Part} (there : Tupled u other parts) :
      (u.objects.set home o)[other]? = some (.tuple parts) := by
    cases onward.sound.stage is with
    | object now plain =>
      have different : home ≠ other := by
        rintro rfl
        cases Option.some.inj (now.symm.trans there)
        cases plain
      rw [List.getElem?_set_ne different, there]
  have grown {i : Nat} {o' : Object} (fits : Fits written u i o') :
      Fits written { u with objects := u.objects.set home o } i o' :=
    fits.grow (s := u) (t := { u with objects := u.objects.set home o }) id tuples
  refine ⟨⟨onward.sound.later, onward.sound.ready, fun {i part} built => ?_,
    fun wait => onward.sound.waits (List.mem_cons_of_mem _ wait), onward.sound.apart⟩, onward.built,
    onward.less⟩
  cases onward.sound.stage built with
  | atom reads => exact .atom reads
  | @object home' o' there other stage =>
    by_cases same : home = home'
    · subst same
      cases onward.sound.apart is built
      exact .object (by simp [inside]) plain (.inr (grown fits))
    · refine .object (o := o') ((List.getElem?_set_ne same).trans there) other ?_
      rcases stage with wait | fits
      · rcases List.mem_cons.mp wait with now | wait
        · cases now
          exact absurd rfl same
        · exact .inl wait
      · exact .inr (grown fits)

theorem fillAllOnward {steps : Nat} (sound : Sound written [] s) (enough : left written s ≤ steps)
    (ok : (fillAll steps).run s = .ok ((), t)) :
    Sound written [] t ∧ t.waiting = [] ∧ ∀ {i part}, Built s i part → Built t i part := by
  induction steps generalizing s with
  | zero =>
    have none : s.waiting.length = 0 := by
      unfold left at enough
      omega
    cases ok
    exact ⟨sound, List.eq_nil_of_length_eq_zero none, id⟩
  | succ steps ih =>
    rw [fillAll] at ok
    obtain ⟨now, u, got, ok⟩ := runBind ok
    cases got
    split at ok
    next none =>
      cases ok
      exact ⟨sound, none, id⟩
    next place home rest waiting =>
      obtain ⟨_, u, passed, ok⟩ := runBind ok
      cases passed
      obtain ⟨_, v, filled, ok⟩ := runBind ok
      have taken : Sound written [(place, home)] { s with waiting := rest } := by
        refine ⟨sound.later, sound.ready, fun is => (sound.stage is).grow (s := s) id id fun wait => ?_,
          fun wait => ?_, sound.apart⟩
        · rw [List.nil_append, waiting] at wait
          exact wait
        · exact sound.waits (waiting.symm ▸ wait)
      obtain ⟨sound', built, less⟩ := fillOnward taken filled
      -- what is taken out of the waiting ones is no longer counted
      have fewer : left written { s with waiting := rest } < left written s := by
        unfold left missing
        rw [waiting, List.length_cons]
        dsimp only
        omega
      obtain ⟨last, none, built'⟩ := ih sound' (by omega) ok
      exact ⟨last, none, fun is => built' (built is)⟩

theorem documentBuilt {g : Graph} {part : Part}
    (ok : (document g).run { nodes := g.nodes } = .ok (part, t)) :
    (∀ i part, Built t i part → Stage g.nodes [] t i part) ∧ t.waiting = [] ∧ Built t g.root part := by
  unfold document at ok
  obtain ⟨part, u, first, ok⟩ := runBind ok
  obtain ⟨_, v, filled, ok⟩ := runBind ok
  cases ok
  have start : Sound g.nodes [] { nodes := g.nodes } :=
    ⟨laterSame g.nodes, fun _ _ _ => .inl rfl, nofun, nofun, nofun⟩
  have few : left g.nodes { nodes := g.nodes } ≤ g.nodes.length := by
    have all := Finset.card_filter_le (Finset.range g.nodes.length)
      fun i => ([] : List (Nat × Part)).lookup i = none
    rw [Finset.card_range] at all
    exact Nat.le_trans (Nat.le_of_eq (Nat.zero_add _)) all
  obtain ⟨onward, built⟩ := buildOnward start first
  obtain ⟨sound, none, kept⟩ := fillAllOnward onward.sound (Nat.le_trans onward.less few) filled
  exact ⟨fun _ _ => sound.stage, none, kept built⟩

end Builder

theorem eachSplit {α β : Type} {R : α → β → Prop} {xs ys : List α} {zs : List β}
    (each : Forall₂ R (xs ++ ys) zs) : ∃ as bs, zs = as ++ bs ∧ Forall₂ R xs as ∧ Forall₂ R ys bs :=
  ⟨zs.take xs.length, zs.drop xs.length, (List.take_append_drop _ _).symm,
    (List.forall₂_take_append _ _ _ each.flip).flip, (List.forall₂_drop_append _ _ _ each.flip).flip⟩

namespace Builder
variable {written : List Node} {s : Building} {i : Nat}

def Worth (s : Building) (i : Nat) (v : Value) : Prop :=
  ∃ part, Built s i part ∧ v = part.read s.objects

def worthPair (s : Building) (pair : Atom × Part) : Value × Value :=
  (.ofAtom pair.1, pair.2.read s.objects)

theorem enteredWorth {e : Nat × Nat} {pair : Atom × Part} (entered : Entered written s e pair) :
    EntryOf written (Worth s) e (worthPair s pair) := by
  obtain ⟨name, part⟩ := pair
  obtain ⟨named, built⟩ := entered
  refine ⟨?_, _, built, rfl⟩
  cases named with
  | text node => exact .text node
  | other unwritten built =>
    refine .other unwritten ⟨_, built, (Part.readAtom name).symm⟩ ?_
    cases name <;> rfl

theorem holdsFilled {pairs : List (Atom × Part)} (holds : Holds written s i pairs) :
    Filled written (Worth s) i (Object.entries (Part.read s.objects) pairs) := by
  obtain ⟨given, taken, each⟩ := holds
  obtain ⟨before, after, rfl, inherited, own⟩ := eachSplit each
  have worth {es : List (Nat × Nat)} {pairs : List (Atom × Part)}
      (each : Forall₂ (Entered written s) es pairs) :
      Forall₂ (EntryOf written (Worth s)) es (pairs.map (worthPair s)) :=
    List.forall₂_map_right_iff.mpr (each.imp fun _ _ => enteredWorth)
  have whole : Object.entries (Part.read s.objects) (before ++ after) =
      Entries.ofPairs (before.map (worthPair s) ++ after.map (worthPair s)) :=
    congrArg Entries.ofPairs List.map_append
  exact .intro taken (worth inherited) (worth own) (whole ▸ heldOf _ _)

theorem pairedWorth {item : Nat} {part : Part} (paired : Paired written s item part) :
    PairOf written (Worth s) item (part.read s.objects) := by
  obtain ⟨entry, first, second, rfl, there⟩ := paired
  refine .intro entry ⟨_, first, rfl⟩ ⟨_, second, rfl⟩ ?_
  rw [Part.readOpened, objectAt, List.getD_eq_getElem?_getD, there]
  rfl

theorem stageLevel {part : Part} (none : s.waiting = []) (stage : Stage written [] s i part) :
    Level written (Worth s) i (part.read s.objects) := by
  cases stage with
  | @atom a reads =>
    rw [Part.readAtom]
    exact .atom reads
  | @object home o there plain stage =>
    have opened : ((Part.object home).read s.objects).opened = o.value (Part.read s.objects) := by
      rw [Part.readOpened, objectAt, List.getD_eq_getElem?_getD, there]
      rfl
    have fits : Fits written s i o := by
      rcases stage with wait | fits
      · rw [none] at wait
        cases wait
      · exact fits
    cases fits with
    | sequence node each =>
      exact .sequence node opened
        (List.forall₂_map_right_iff.mpr (each.imp fun _ _ built => ⟨_, built, rfl⟩))
    | mapping node holds => exact .mapping node opened (holdsFilled holds)
    | set node holds => exact .set node opened (holdsFilled holds)
    | pairs tagged node each =>
      exact .pairs tagged node opened (List.forall₂_map_right_iff.mpr (each.imp fun _ _ => pairedWorth))

end Builder

theorem valueStands {g : Graph} {v : Value} (ok : g.value = .ok v) : Stands g.nodes g.root v := by
  obtain ⟨⟨root, s⟩, built, ok⟩ := exceptBindOk ok
  cases ok
  obtain ⟨stage, none, root⟩ := Builder.documentBuilt built
  refine ⟨Builder.Worth s, ?_, _, root, rfl⟩
  rintro i v ⟨part, is, rfl⟩
  exact Builder.stageLevel none (stage i part is)

theorem keysStayText {text : List Char} {v : Value} (loaded : parse text = .ok v) :
    (Graph.ofText text = .ok none ∧ v = .null) ∨
      ∃ g, Graph.ofText text = .ok (some g) ∧ Stands g.nodes g.root v := by
  obtain ⟨g, read, ok⟩ := exceptBindOk loaded
  cases g with
  | none =>
    cases ok
    exact .inl ⟨read, rfl⟩
  | some g => exact .inr ⟨g, read, valueStands ok⟩

def keysText : List Char :=
  ("- &a {on: 1, 1: 2}\n- {<<: *a, 1.0: 3, on: 4, on: 5}\n- !!set {null, ~}\n" ++
    "- &b {<<: *b, on: *b}").toList

def keysShown : String :=
  "[\x7b'on': 1, '1': 2\x7d, \x7b'on': 5, '1': 2, '1.0': 3\x7d, \x7b'null', '~'\x7d, " ++
    "\x7b'on': \x7b...\x7d\x7d]"

theorem aliasedKept : ∃ g v, Graph.ofText keysText = .ok (some g) ∧ v.quoted = keysShown ∧
    Stands g.nodes g.root v := by
  have shown : (parse keysText).toOption.map Value.quoted = some keysShown := by decide +kernel
  cases loaded : parse keysText with
  | error e =>
    rw [loaded] at shown
    cases shown
  | ok v =>
    rw [loaded] at shown
    have quoted : v.quoted = keysShown := Option.some.inj shown
    rcases keysStayText loaded with ⟨_, rfl⟩ | ⟨g, read, stands⟩
    · exact absurd quoted (by decide +kernel)
    · exact ⟨g, v, read, quoted, stands⟩

end Yaml

end EntityForge
