import EntityForge.Yaml.Reader
import Mathlib.Data.List.Forall2
import Mathlib.Logic.Relation

/-! Merges of YAML mappings. A mapping that merges others takes over what they give, which is what they
merge themselves and then their own entries. Where the merges lead back to a mapping that is in work
there is no such order; but what is taken over is still own entries of mappings that are merged, and a
mapping keeps its own. -/
namespace EntityForge.Yaml
open List (Forall₂)
open Relation (ReflTransGen TransGen)

section Lists
variable {α : Type} {p : α → Bool} {l : List α} {x : α}

theorem firstTaken (found : l.find? p = some x) :
    ∃ front back, l = front ++ x :: back ∧ l.eraseP p = front ++ back ∧ p x = true ∧
      ∀ y ∈ front, p y = false := by
  obtain ⟨holds, front, back, rfl, before⟩ := List.find?_eq_some_iff_append.mp found
  have before : ∀ y ∈ front, p y = false := fun y member => by simpa using before y member
  refine ⟨front, back, rfl, ?_, holds, before⟩
  rw [List.eraseP_append_right _ fun y member => by simp [before y member], List.eraseP_cons_of_pos holds]

theorem filterErase (l : List α) : (l.eraseP p).filter (!p ·) = l.filter (!p ·) := by
  induction l with
  | nil => rfl
  | cons y rest ih => cases holds : p y <;> simp [holds, ih]

theorem countSet {β : Type} {f : α → List β} {q : β → Bool} {y : α} {i : Nat} (there : l[i]? = some x) :
    ((l.set i y).flatMap f).countP q + (f x).countP q = (l.flatMap f).countP q + (f y).countP q := by
  induction l generalizing i with
  | nil => cases there
  | cons z rest ih =>
    cases i with
    | zero =>
      cases there
      simp only [List.set_cons_zero, List.flatMap_cons, List.countP_append]
      omega
    | succ i =>
      have later := ih (i := i) there
      simp only [List.set_cons_succ, List.flatMap_cons, List.countP_append]
      omega

end Lists

section Merging
variable {written nodes before middle after : List Node} {i j place : Nat} {e : Nat × Nat}
  {entries inherited : List (Nat × Nat)}

def own (nodes : List Node) (entries : List (Nat × Nat)) : List (Nat × Nat) :=
  entries.filter (!isMerge nodes ·)

def sources (nodes : List Node) (entries : List (Nat × Nat)) : List Nat :=
  (entries.filter (isMerge nodes)).flatMap fun e => ((merged? nodes e.2).getD []).reverse

def Merges (nodes : List Node) (i j : Nat) : Prop := j ∈ sources nodes (entriesAt nodes i)

inductive Gives (nodes : List Node) : List Nat → List (Nat × Nat) → Prop where
  | nil : Gives nodes [] []
  | cons {place rest inherited later}
      (inside : Gives nodes (sources nodes (entriesAt nodes place)) inherited)
      (behind : Gives nodes rest later) :
      Gives nodes (place :: rest) (inherited ++ own nodes (entriesAt nodes place) ++ later)

def Ends (nodes : List Node) : Nat → Prop := Acc fun j i => Merges nodes i j

def Inherited (nodes : List Node) (i : Nat) (e : Nat × Nat) : Prop :=
  ∃ j, TransGen (Merges nodes) i j ∧ e ∈ own nodes (entriesAt nodes j)

theorem Ends.noReturn (ends : Ends nodes i) : ¬ TransGen (Merges nodes) i i := by
  induction ends with
  | intro i _ ih =>
    intro around
    obtain ⟨j, first, back⟩ := Relation.TransGen.head'_iff.mp around
    exact ih j first (Relation.TransGen.tail' back first)

theorem givesAppend {xs ys : List Nat} {as bs : List (Nat × Nat)} (first : Gives nodes xs as)
    (second : Gives nodes ys bs) : Gives nodes (xs ++ ys) (as ++ bs) := by
  induction first with
  | nil => exact second
  | @cons place rest inner later inside _ _ ih =>
    rw [List.append_assoc]
    exact .cons inside ih

theorem givesEach {xs : List Nat} {parts : List (List (Nat × Nat))}
    (each : Forall₂ (fun x part => Gives nodes [x] part) xs parts) : Gives nodes xs parts.flatten := by
  induction each with
  | nil => exact .nil
  | cons here _ ih => exact givesAppend here ih

theorem nodeAtSet (nodes : List Node) (i : Nat) (node : Node) (j : Nat) :
    nodeAt (nodes.set i node) j = if i = j ∧ i < nodes.length then node else nodeAt nodes j := by
  unfold nodeAt
  rw [List.getD_eq_getElem?_getD, List.getD_eq_getElem?_getD, List.getElem?_set]
  by_cases same : i = j
  · subst same
    by_cases inside : i < nodes.length <;> simp [inside]
  · simp [same]

theorem placeInside (found : nodeAt nodes i ≠ .absent) : i < nodes.length := by
  by_contra outside
  exact found (by simp [nodeAt, outside])

theorem mappingShape {shape : Shape} (mapping : shape.isMapping = true) :
    ∃ entries, shape = .mapping entries := by
  cases shape with
  | mapping entries => exact ⟨entries, rfl⟩
  | _ => cases mapping

theorem mappingInside (mapping : (nodeAt nodes i).shape.isMapping = true) : i < nodes.length :=
  placeInside fun absent => by simp [absent, Node.absent, Shape.isMapping] at mapping

theorem nodeAtEntries (mapping : (nodeAt nodes place).shape.isMapping = true)
    (entries : List (Nat × Nat)) (i : Nat) : nodeAt (setEntries nodes place entries) i =
      if place = i then ⟨(nodeAt nodes place).tag, .mapping entries⟩ else nodeAt nodes i := by
  rw [setEntries, nodeAtSet]
  simp [mappingInside mapping]

theorem entriesAtEntries (mapping : (nodeAt nodes place).shape.isMapping = true)
    (entries : List (Nat × Nat)) (i : Nat) : entriesAt (setEntries nodes place entries) i =
      if place = i then entries else entriesAt nodes i := by
  unfold entriesAt
  rw [nodeAtEntries mapping]
  split <;> rfl

/- What a mapping holds later on: what it has taken over, and before it in work its own entries with
the merges that are left. -/
def Taken (written : List Node) (i : Nat) (entries : List (Nat × Nat)) : Prop :=
  ∃ given kept, entries = given ++ kept ∧ (∀ e ∈ given, Inherited written i e) ∧
    (∀ e ∈ kept, e ∈ entriesAt written i) ∧ own written kept = own written (entriesAt written i)

structure Later (written nodes : List Node) : Prop where
  tag : ∀ i, (nodeAt nodes i).tag = (nodeAt written i).tag ∨
    (nodeAt written i).tag = .default ∧ (nodeAt nodes i).tag = .text
  shape : ∀ i, (nodeAt nodes i).shape = (nodeAt written i).shape ∨
    (nodeAt written i).shape.isMapping = true ∧ (nodeAt nodes i).shape.isMapping = true
  taken : ∀ i, Taken written i (entriesAt nodes i)

theorem laterSame (nodes : List Node) : Later nodes nodes where
  tag _ := .inl rfl
  shape _ := .inl rfl
  taken i := ⟨[], entriesAt nodes i, rfl, nofun, fun _ member => member, rfl⟩

namespace Later
variable (later : Later written nodes)
include later

theorem isMerge : isMerge nodes = isMerge written := by
  funext e
  unfold Yaml.isMerge
  rcases later.tag e.1 with same | ⟨default, text⟩
  · rw [same]
  · rw [default, text]
    rfl

theorem merged (i : Nat) : merged? nodes i = merged? written i := by
  unfold merged?
  rcases later.shape i with same | ⟨first, second⟩
  · rw [same]
  · obtain ⟨_, first⟩ := mappingShape first
    obtain ⟨_, second⟩ := mappingShape second
    rw [first, second]

theorem isMapping (i : Nat) :
    (nodeAt nodes i).shape.isMapping = (nodeAt written i).shape.isMapping := by
  rcases later.shape i with same | ⟨first, second⟩
  · rw [same]
  · rw [first, second]

theorem withEntries (mapping : (nodeAt nodes place).shape.isMapping = true)
    (taken : Taken written place entries) : Later written (setEntries nodes place entries) where
  tag i := by
    rw [nodeAtEntries mapping]
    split
    next same =>
      subst same
      exact later.tag place
    next => exact later.tag i
  shape i := by
    rw [nodeAtEntries mapping]
    split
    next same =>
      subst same
      exact .inr ⟨later.isMapping place ▸ mapping, rfl⟩
    next => exact later.shape i
  taken i := by
    rw [entriesAtEntries mapping]
    split
    next same => exact same ▸ taken
    next => exact later.taken i

theorem asText (key : Nat) : Later written (asText nodes key) ∧
    ∀ i, (nodeAt (Yaml.asText nodes key) i).shape = (nodeAt nodes i).shape := by
  unfold Yaml.asText
  split
  next default =>
    have same (i : Nat) : nodeAt (nodes.set key ⟨.text, (nodeAt nodes key).shape⟩) i =
        if key = i then ⟨.text, (nodeAt nodes key).shape⟩ else nodeAt nodes i := by
      have inside : key < nodes.length := placeInside fun absent => by
        rw [absent] at default
        cases default
      rw [nodeAtSet]
      simp [inside]
    have shape (i : Nat) : (nodeAt (nodes.set key ⟨.text, (nodeAt nodes key).shape⟩) i).shape =
        (nodeAt nodes i).shape := by
      rw [same]
      split <;> simp_all
    refine ⟨⟨fun i => ?_, fun i => ?_, fun i => ?_⟩, shape⟩
    · rw [same]
      split
      next here =>
        subst here
        rcases later.tag key with tag | ⟨_, text⟩
        · exact .inr ⟨tag ▸ default, rfl⟩
        · rw [text] at default
          cases default
      next => exact later.tag i
    · rw [shape]
      exact later.shape i
    · unfold entriesAt
      rw [shape]
      exact later.taken i
  next => exact ⟨later, fun _ => rfl⟩

theorem asTexts (entries : List (Nat × Nat)) :
    Later written (entries.foldl (fun nodes e => Yaml.asText nodes e.1) nodes) ∧
      ∀ i, (nodeAt (entries.foldl (fun nodes e => Yaml.asText nodes e.1) nodes) i).shape =
        (nodeAt nodes i).shape := by
  induction entries generalizing nodes with
  | nil => exact ⟨later, fun _ => rfl⟩
  | cons e rest ih =>
    obtain ⟨next, shape⟩ := later.asText e.1
    obtain ⟨last, shapes⟩ := ih next
    exact ⟨last, fun i => (shapes i).trans (shape i)⟩

end Later

theorem ownMerges (member : e ∈ own nodes entries) : isMerge nodes e = false := by
  simpa using (List.mem_filter.mp member).2

theorem Inherited.plain (inherited : Inherited nodes i e) : isMerge nodes e = false := by
  obtain ⟨_, _, member⟩ := inherited
  exact ownMerges member

theorem ownPlain (plain : ∀ e ∈ entries, isMerge nodes e = false) : own nodes entries = entries :=
  List.filter_eq_self.mpr fun e member => by rw [plain e member]; rfl

theorem plainCount (plain : ∀ e ∈ entries, isMerge nodes e = false) : entries.countP
    (isMerge nodes) = 0 :=
  List.countP_eq_zero.mpr fun e member => by simp [plain e member]

theorem plainSources (plain : ∀ e ∈ entries, isMerge nodes e = false) : sources nodes entries = [] := by
  rw [sources, List.filter_eq_nil_iff.mpr fun e member => by simp [plain e member]]
  rfl

theorem Taken.behind (taken : Taken written place entries)
    (stems : ∀ e ∈ inherited, Inherited written place e) :
    Taken written place (inherited ++ entries) := by
  obtain ⟨given, kept, split, given', kept', owns⟩ := taken
  refine ⟨inherited ++ given, kept, by rw [split, List.append_assoc], fun e member => ?_, kept', owns⟩
  rcases List.mem_append.mp member with taken | there
  · exact stems e taken
  · exact given' e there

def mergesIn (written nodes : List Node) : Nat :=
  (nodes.flatMap fun node => node.shape.entries).countP (isMerge written)

theorem mergesEntries (written : List Node) (mapping : (nodeAt nodes place).shape.isMapping = true)
    (entries : List (Nat × Nat)) :
    mergesIn written (setEntries nodes place entries) + (entriesAt nodes place).countP (isMerge written) =
      mergesIn written nodes + entries.countP (isMerge written) := by
  have inside := mappingInside mapping
  have there : nodes[place]? = some (nodeAt nodes place) := by
    simp [nodeAt, List.getD_eq_getElem?_getD, inside]
  exact countSet there

theorem mergesShapes (shapes : ∀ i, (nodeAt after i).shape = (nodeAt before i).shape)
    (length : after.length = before.length) : mergesIn written after = mergesIn written before := by
  refine congrArg (fun held : List (List (Nat × Nat)) => held.flatten.countP (isMerge written)) ?_
  refine List.ext_getElem (by simpa using length) fun i first second => ?_
  have same := shapes i
  simp only [List.length_map] at first second
  simp only [nodeAt, List.getD_eq_getElem?_getD, List.getElem?_eq_getElem first,
    List.getElem?_eq_getElem second, Option.getD_some] at same
  simp only [List.getElem_map, same]

theorem asTextsLength (entries : List (Nat × Nat)) (nodes : List Node) :
    (entries.foldl (fun nodes e => asText nodes e.1) nodes).length = nodes.length := by
  induction entries generalizing nodes with
  | nil => rfl
  | cons e rest ih =>
    refine (ih _).trans ?_
    unfold asText
    dsimp only
    split
    · exact List.length_set
    · rfl

def Done (written nodes : List Node) (i : Nat) : Prop :=
  ∃ given, Gives written (sources written (entriesAt written i)) given ∧
    entriesAt nodes i = given ++ own written (entriesAt written i)

theorem Gives.plain {places : List Nat} (gives : Gives nodes places entries) (member : e ∈ entries) :
    isMerge nodes e = false := by
  induction gives with
  | nil => cases member
  | cons _ _ inside behind =>
    rcases List.mem_append.mp member with here | later
    · rcases List.mem_append.mp here with deep | there
      · exact inside deep
      · exact ownMerges there
    · exact behind later

theorem Done.plain (done : Done written nodes i) (member : e ∈ entriesAt nodes i) :
    isMerge written e = false := by
  obtain ⟨given, gives, whole⟩ := done
  rw [whole] at member
  rcases List.mem_append.mp member with taken | there
  · exact gives.plain taken
  · exact ownMerges there

def Ready (written nodes : List Node) (i : Nat) : Prop :=
  entriesAt nodes i = entriesAt written i ∨ Done written nodes i

theorem Ready.kept (same : entriesAt after i = entriesAt before i) (ready : Ready written before i) :
    Ready written after i := by
  unfold Ready Done
  rw [same]
  exact ready

/- Some merges of a mapping are taken out; what is left gives what is missing. -/
def Open (written nodes : List Node) (place : Nat) (inherited : List (Nat × Nat)) : Prop :=
  own written (entriesAt nodes place) = own written (entriesAt written place) ∧
    ∀ rest, Gives written (sources written (entriesAt nodes place)) rest →
      Gives written (sources written (entriesAt written place)) (inherited ++ rest)

def AllReady (written nodes : List Node) (reached : Nat → Prop) : Prop :=
  ∀ i, reached i → Ends written i → Ready written nodes i

/- Taking the merges out of a mapping: afterwards it has none, and what it does not lead to is as before.
If nothing that it leads to was in work, the same is so afterwards, and it has what it should have. -/
structure Settled (written : List Node) (place : Nat) (inherited : List (Nat × Nat))
    (before after : List Node) : Prop where
  later : Later written after
  fewer : mergesIn written after ≤ mergesIn written before
  clear : ∀ e ∈ entriesAt after place, isMerge written e = false
  apart : ∀ i, ¬ ReflTransGen (Merges written) place i → entriesAt after i = entriesAt before i
  ready : AllReady written before (TransGen (Merges written) place) →
    AllReady written after (TransGen (Merges written) place)
  exact : AllReady written before (TransGen (Merges written) place) → Ends written place →
    Open written before place inherited ∨ inherited = [] ∧ Done written before place →
    Done written after place

theorem settledNone (later : Later written before)
    (mapping : (nodeAt before place).shape.isMapping = true)
    (none : (entriesAt before place).find? (isMerge before) = none)
    (stems : ∀ e ∈ inherited, Inherited written place e) :
    Settled written place inherited before
      (setEntries ((entriesAt before place).foldl (fun nodes e => asText nodes e.1) before) place
        (inherited ++ entriesAt before place)) := by
  have plain : ∀ e ∈ entriesAt before place, isMerge written e = false := by
    rw [← later.isMerge]
    exact fun e member => by simpa using List.find?_eq_none.mp none e member
  have plainAll : ∀ e ∈ inherited ++ entriesAt before place, isMerge written e = false := by
    intro e member
    rcases List.mem_append.mp member with taken | there
    · exact (stems e taken).plain
    · exact plain e there
  obtain ⟨texts, shapes⟩ := later.asTexts (entriesAt before place)
  have length := asTextsLength (entriesAt before place) before
  generalize (entriesAt before place).foldl (fun nodes e => asText nodes e.1) before = marked at *
  have mapping' : (nodeAt marked place).shape.isMapping = true := shapes place ▸ mapping
  have same (i : Nat) : entriesAt marked i = entriesAt before i := by
    unfold entriesAt
    rw [shapes]
  have other {i : Nat} (different : place ≠ i) :
      entriesAt (setEntries marked place (inherited ++ entriesAt before place)) i = entriesAt before i := by
    rw [entriesAtEntries mapping', if_neg different, same]
  have here : entriesAt (setEntries marked place (inherited ++ entriesAt before place)) place =
      inherited ++ entriesAt before place := by rw [entriesAtEntries mapping', if_pos rfl]
  refine ⟨texts.withEntries mapping' ((later.taken place).behind stems), ?_,
    fun e member => plainAll e (here ▸ member), fun i apart => other fun equal => apart (equal ▸ .refl),
    fun ready i reached ends => ?_, fun ready ends state => ?_⟩
  · have counts := mergesEntries written mapping' (inherited ++ entriesAt before place)
    rw [same, plainCount plain, plainCount plainAll, mergesShapes shapes length] at counts
    omega
  · have different : place ≠ i := fun equal => ends.noReturn (equal ▸ reached)
    exact (ready i reached ends).kept (other different)
  · rcases state with ⟨owns, onward⟩ | ⟨rfl, done⟩
    · have whole := onward [] (plainSources plain ▸ .nil)
      rw [List.append_nil] at whole
      exact ⟨inherited, whole, by rw [here, ← owns, ownPlain plain]⟩
    · unfold Done
      rw [here]
      exact done

structure Lessened (written : List Node) (place : Nat) (items : List Nat)
    (before after : List Node) : Prop where
  later : Later written after
  fewer : mergesIn written after < mergesIn written before
  merge : ∃ e ∈ entriesAt before place, isMerge written e = true
  other : ∀ i, place ≠ i → entriesAt after i = entriesAt before i
  merged : ∀ item ∈ items, Merges written place item
  order : sources written (entriesAt before place) = items.reverse ++ sources written (entriesAt after place)
  own : own written (entriesAt after place) = own written (entriesAt before place)

theorem lessened (later : Later written before) (mapping : (nodeAt before place).shape.isMapping = true)
    {items : List Nat} (found : (entriesAt before place).find? (isMerge before) = some e)
    (under : merged? before e.2 = some items) :
    Lessened written place items before
      (setEntries before place ((entriesAt before place).eraseP (isMerge before))) := by
  rw [later.isMerge] at found ⊢
  rw [later.merged] at under
  obtain ⟨front, back, split, erased, merge, plain⟩ := firstTaken found
  have here : entriesAt (setEntries before place ((entriesAt before place).eraseP (isMerge written))) place =
      (entriesAt before place).eraseP (isMerge written) := by rw [entriesAtEntries mapping, if_pos rfl]
  obtain ⟨given, kept, whole, given', kept', owns⟩ := later.taken place
  have keeps : (entriesAt before place).eraseP (isMerge written) = given ++ kept.eraseP (isMerge written) := by
    rw [whole, List.eraseP_append_right _ fun x member => by simp [(given' x member).plain]]
  have written' : e ∈ entriesAt written place := by
    have member : e ∈ given ++ kept := by
      rw [← whole, split]
      simp
    rcases List.mem_append.mp member with taken | there
    · rw [(given' e taken).plain] at merge
      cases merge
    · exact kept' e there
  refine ⟨later.withEntries mapping ⟨given, _, keeps, given',
      fun x member => kept' x (List.mem_of_mem_eraseP member), (filterErase kept).trans owns⟩, ?_,
    ⟨e, by rw [split]; simp, merge⟩, fun i different => by rw [entriesAtEntries mapping, if_neg different],
    fun item member => ?_, ?_, ?_⟩
  · have counts := mergesEntries written mapping ((entriesAt before place).eraseP (isMerge written))
    have fewer : ((entriesAt before place).eraseP (isMerge written)).countP (isMerge written) <
        (entriesAt before place).countP (isMerge written) := by
      rw [erased, split]
      simp [merge]
    omega
  · refine List.mem_flatMap.mpr ⟨e, List.mem_filter.mpr ⟨written', merge⟩, ?_⟩
    simpa [under] using member
  · rw [here, erased, split]
    have front' : front.filter (isMerge written) = [] :=
      List.filter_eq_nil_iff.mpr fun x member => by simp [plain x member]
    simp [sources, front', merge, under]
  · rw [here]
    exact filterErase _

structure Gathered (written : List Node) (items : List Nat) (parts : List (List (Nat × Nat)))
    (before after : List Node) : Prop where
  later : Later written after
  fewer : mergesIn written after ≤ mergesIn written before
  apart : ∀ i, (∀ item ∈ items, ¬ ReflTransGen (Merges written) item i) →
    entriesAt after i = entriesAt before i
  stems : ∀ part ∈ parts, ∀ e ∈ part, ∃ item ∈ items,
    e ∈ own written (entriesAt written item) ∨ Inherited written item e
  ready : AllReady written before (fun i => ∃ item ∈ items, ReflTransGen (Merges written) item i) →
    AllReady written after (fun i => ∃ item ∈ items, ReflTransGen (Merges written) item i)
  exact : AllReady written before (fun i => ∃ item ∈ items, ReflTransGen (Merges written) item i) →
    (∀ item ∈ items, Ends written item) → Forall₂ (fun item part => Gives written [item] part) items parts

theorem Settled.split (settled : Settled written place inherited before after) :
    ∃ given, entriesAt after place = given ++ own written (entriesAt written place) ∧
      ∀ e ∈ given, Inherited written place e := by
  obtain ⟨given, kept, whole, stems, _, owns⟩ := settled.later.taken place
  have plain : own written kept = kept := ownPlain fun e member =>
    settled.clear e (whole ▸ List.mem_append_right _ member)
  rw [← plain, owns] at whole
  exact ⟨given, whole, stems⟩

theorem Settled.stems {item : Nat} (settled : Settled written item inherited before after)
    (member : e ∈ entriesAt after item) :
    e ∈ own written (entriesAt written item) ∨ Inherited written item e := by
  obtain ⟨given, whole, stems⟩ := settled.split
  rw [whole] at member
  rcases List.mem_append.mp member with taken | there
  · exact .inr (stems e taken)
  · exact .inl there

theorem readyOpen {item : Nat} (ready : Ready written before item) :
    Open written before item [] ∨ ([] : List (Nat × Nat)) = [] ∧ Done written before item := by
  rcases ready with same | done
  · exact .inl ⟨by rw [same], fun rest gives => by rw [← same]; exact gives⟩
  · exact .inr ⟨rfl, done⟩

/- All that was ready is so afterwards, the mapping itself included. -/
theorem Settled.onward {reached : Nat → Prop} (settled : Settled written place [] before after)
    (ready : AllReady written before reached)
    (covers : ∀ i, ReflTransGen (Merges written) place i → reached i) :
    (Ends written place → Done written after place) ∧ AllReady written after reached := by
  have below : AllReady written before (TransGen (Merges written) place) :=
    fun i under => ready i (covers i under.to_reflTransGen)
  have done (ends : Ends written place) : Done written after place :=
    settled.exact below ends (readyOpen (ready place (covers place .refl) ends))
  refine ⟨done, fun i there ends => ?_⟩
  by_cases under : ReflTransGen (Merges written) place i
  · rcases Relation.reflTransGen_iff_eq_or_transGen.mp under with rfl | deep
    · exact .inr (done ends)
    · exact settled.ready below i deep ends
  · exact (ready i there ends).kept (settled.apart i under)

theorem Gathered.stemmed {items : List Nat} {parts : List (List (Nat × Nat))}
    (gathered : Gathered written items parts before after)
    (merged : ∀ item ∈ items, Merges written place item)
    (stems : ∀ e ∈ inherited, Inherited written place e) :
    ∀ e ∈ inherited ++ parts.reverse.flatten, Inherited written place e := by
  intro e member
  rcases List.mem_append.mp member with taken | given
  · exact stems e taken
  · obtain ⟨part, member, there⟩ := List.mem_flatten.mp given
    obtain ⟨item, member, stem⟩ := gathered.stems part (List.mem_reverse.mp member) e there
    rcases stem with own | ⟨j, below, own⟩
    · exact ⟨item, .single (merged item member), own⟩
    · exact ⟨j, .head (merged item member) below, own⟩

theorem gatheredNil (later : Later written before) : Gathered written [] [] before before where
  later := later
  fewer := Nat.le_refl _
  apart _ _ := rfl
  stems := nofun
  ready := id
  exact _ _ := .nil

theorem gatheredCons {item : Nat} {items : List Nat} {parts : List (List (Nat × Nat))}
    (first : Settled written item [] before middle) (rest : Gathered written items parts middle after) :
    Gathered written (item :: items) (entriesAt middle item :: parts) before after := by
  have covers (i : Nat) (under : ReflTransGen (Merges written) item i) :
      ∃ x ∈ item :: items, ReflTransGen (Merges written) x i := ⟨item, List.mem_cons_self, under⟩
  have later (ready : AllReady written middle
      (fun i => ∃ x ∈ item :: items, ReflTransGen (Merges written) x i)) :
      AllReady written middle (fun i => ∃ x ∈ items, ReflTransGen (Merges written) x i) :=
    fun i ⟨x, member, under⟩ => ready i ⟨x, List.mem_cons_of_mem _ member, under⟩
  refine ⟨rest.later, Nat.le_trans rest.fewer first.fewer, fun i apart => ?_, ?_,
    fun ready i reached ends => ?_, fun ready ends => ?_⟩
  · rw [rest.apart i fun x member => apart x (List.mem_cons_of_mem _ member)]
    exact first.apart i (apart item List.mem_cons_self)
  · intro part member e there
    rcases List.mem_cons.mp member with rfl | member
    · exact ⟨item, List.mem_cons_self, first.stems there⟩
    · obtain ⟨x, member, stem⟩ := rest.stems part member e there
      exact ⟨x, List.mem_cons_of_mem _ member, stem⟩
  · obtain ⟨_, next⟩ := first.onward ready covers
    by_cases under : ∃ x ∈ items, ReflTransGen (Merges written) x i
    · exact rest.ready (later next) i under ends
    · exact (next i reached ends).kept (rest.apart i fun x member below => under ⟨x, member, below⟩)
  · obtain ⟨done, next⟩ := first.onward ready covers
    obtain ⟨given, gives, whole⟩ := done (ends item List.mem_cons_self)
    refine .cons ?_ (rest.exact (later next) fun x member => ends x (List.mem_cons_of_mem _ member))
    rw [whole]
    simpa using Gives.cons gives .nil

theorem settledMerge {items : List Nat} {parts : List (List (Nat × Nat))} {lessened : List Node}
    (first : Lessened written place items before lessened)
    (gathered : Gathered written items parts lessened middle)
    (rest : Settled written place (inherited ++ parts.reverse.flatten) middle after) :
    Settled written place inherited before after := by
  -- what is merged lies strictly below, so that a chain that ends never comes back here
  have under {item i : Nat} (member : item ∈ items) (below : ReflTransGen (Merges written) item i) :
      TransGen (Merges written) place i := Relation.TransGen.head' (first.merged item member) below
  have start (ready : AllReady written before (TransGen (Merges written) place)) :
      AllReady written lessened (TransGen (Merges written) place) := by
    intro i reached ends
    have different : place ≠ i := fun equal => ends.noReturn (equal ▸ reached)
    exact (ready i reached ends).kept (first.other i different)
  have some (ready : AllReady written before (TransGen (Merges written) place)) :
      AllReady written lessened (fun i => ∃ item ∈ items, ReflTransGen (Merges written) item i) :=
    fun i ⟨item, member, below⟩ => start ready i (under member below)
  have next (ready : AllReady written before (TransGen (Merges written) place)) :
      AllReady written middle (TransGen (Merges written) place) := by
    intro i reached ends
    by_cases below : ∃ item ∈ items, ReflTransGen (Merges written) item i
    · exact gathered.ready (some ready) i below ends
    · exact (start ready i reached ends).kept
        (gathered.apart i fun item member reach => below ⟨item, member, reach⟩)
  refine ⟨rest.later, ?_, rest.clear, fun i apart => ?_, fun ready => rest.ready (next ready),
    fun ready ends state => rest.exact (next ready) ends (.inl ?_)⟩
  · have one := first.fewer
    have two := gathered.fewer
    have three := rest.fewer
    omega
  · rw [rest.apart i apart,
      gathered.apart i fun item member below => apart (under member below).to_reflTransGen]
    exact first.other i fun equal => apart (equal ▸ .refl)
  · have same : entriesAt middle place = entriesAt lessened place :=
      gathered.apart place fun item member back => ends.noReturn (under member back)
    have gives := gathered.exact (some ready) fun item member => ends.inv (first.merged item member)
    have given := givesEach (List.forall₂_reverse_iff.mpr gives)
    rcases state with ⟨owns, onward⟩ | ⟨_, done⟩
    · refine ⟨by rw [same, first.own, owns], fun last gives => ?_⟩
      rw [List.append_assoc]
      refine onward _ ?_
      rw [first.order, ← same]
      exact givesAppend given gives
    · obtain ⟨e, member, merge⟩ := first.merge
      rw [done.plain member] at merge
      cases merge

/- What a mapping takes over from those it merges: entries of these, and where all chains of merges come
to an end, what they give. -/
structure TakenOver (written : List Node) (place : Nat) (given : List (Nat × Nat)) : Prop where
  stems : ∀ e ∈ given, Inherited written place e
  exact : Ends written place → Gives written (sources written (entriesAt written place)) given

end Merging

namespace Builder
variable {α β : Type} {s t u : Building}

theorem runBind {x : Builder α} {f : α → Builder β} {b : β} (ok : (x >>= f).run s = .ok (b, u)) :
    ∃ a t, x.run s = .ok (a, t) ∧ (f a).run t = .ok (b, u) := by
  rw [StateT.run_bind] at ok
  cases ran : x.run s with
  | error fault =>
    rw [ran] at ok
    cases ok
  | ok result =>
    rw [ran] at ok
    exact ⟨result.1, result.2, rfl, ok⟩

def Keeps (s t : Building) : Prop := t = { s with nodes := t.nodes }

theorem Keeps.trans (first : Keeps s t) (second : Keeps t u) : Keeps s u := by
  unfold Keeps at *
  rw [second, first]

variable {written : List Node} {steps place : Nat} {inherited : List (Nat × Nat)}

theorem givenSettles {flat : Nat → Builder Unit} {item : Nat} {part : List (Nat × Nat)}
    (ok : (given flat item).run s = .ok (part, t)) :
    (nodeAt s.nodes item).shape.isMapping = true ∧ (flat item).run s = .ok ((), t) ∧
      part = entriesAt t.nodes item := by
  unfold given at ok
  obtain ⟨now, u, got, ok⟩ := runBind ok
  cases got
  split at ok
  next => cases ok
  next mapping =>
    obtain ⟨_, v, flattened, ok⟩ := runBind ok
    cases ok
    exact ⟨by simpa using mapping, flattened, rfl⟩

theorem eachGathered {flat : Nat → Builder Unit} {items : List Nat} {parts : List (List (Nat × Nat))}
    (settles : ∀ {item s t}, Later written s.nodes → (nodeAt s.nodes item).shape.isMapping = true →
      mergesIn written s.nodes < steps → (flat item).run s = .ok ((), t) →
      Keeps s t ∧ Settled written item [] s.nodes t.nodes)
    (later : Later written s.nodes) (enough : mergesIn written s.nodes < steps)
    (ok : (items.mapM (given flat)).run s = .ok (parts, t)) :
    Keeps s t ∧ Gathered written items parts s.nodes t.nodes := by
  induction items generalizing s parts with
  | nil =>
    cases ok
    exact ⟨rfl, gatheredNil later⟩
  | cons item items ih =>
    rw [List.mapM_cons] at ok
    obtain ⟨part, u, first, ok⟩ := runBind ok
    obtain ⟨others, v, rest, ok⟩ := runBind ok
    cases ok
    obtain ⟨mapping, flattened, rfl⟩ := givenSettles first
    obtain ⟨keeps, settled⟩ := settles later mapping enough flattened
    obtain ⟨keeps', gathered⟩ := ih settled.later (Nat.lt_of_le_of_lt settled.fewer enough) rest
    exact ⟨keeps.trans keeps', gatheredCons settled gathered⟩

theorem flattenSettles (later : Later written s.nodes)
    (mapping : (nodeAt s.nodes place).shape.isMapping = true)
    (enough : mergesIn written s.nodes < steps)
    (stems : ∀ e ∈ inherited, Inherited written place e)
    (ok : (flatten steps inherited place).run s = .ok ((), t)) :
    Keeps s t ∧ Settled written place inherited s.nodes t.nodes := by
  -- each step takes a merge out before it goes on, so the merges that are left bound the steps
  induction steps generalizing s t place inherited with
  | zero => cases enough
  | succ steps ih =>
    rw [flatten] at ok
    obtain ⟨now, u, got, ok⟩ := runBind ok
    cases got
    dsimp only at ok
    split at ok
    next none =>
      cases ok
      exact ⟨rfl, settledNone later mapping none stems⟩
    next key value found =>
      obtain ⟨_, u, changed, ok⟩ := runBind ok
      cases changed
      split at ok
      next => cases ok
      next items under =>
        have first := lessened later mapping found under
        obtain ⟨parts, v, each, ok⟩ := runBind ok
        obtain ⟨keeps, gathered⟩ := eachGathered
          (fun later mapping enough ok => ih later mapping enough nofun ok) first.later
          (Nat.lt_of_lt_of_le first.fewer (Nat.le_of_lt_succ enough)) each
        have mapping' : (nodeAt v.nodes place).shape.isMapping = true := by
          rw [gathered.later.isMapping, ← later.isMapping, mapping]
        have fewer : mergesIn written v.nodes < steps := Nat.lt_of_le_of_lt gathered.fewer
          (Nat.lt_of_lt_of_le first.fewer (Nat.le_of_lt_succ enough))
        obtain ⟨keeps', settled⟩ := ih gathered.later mapping' fewer
          (gathered.stemmed first.merged stems) ok
        exact ⟨keeps.trans keeps', settledMerge first gathered settled⟩

theorem flattenTakes (later : Later written s.nodes) (ready : AllReady written s.nodes fun _ => True)
    (mapping : (nodeAt s.nodes place).shape.isMapping = true)
    (ok : (flatten (mergeCount s.nodes + 1) [] place).run s = .ok ((), t)) :
    Keeps s t ∧ Later written t.nodes ∧ (AllReady written t.nodes fun _ => True) ∧
      ∃ given, entriesAt t.nodes place = given ++ own written (entriesAt written place) ∧
        TakenOver written place given := by
  have enough : mergesIn written s.nodes < mergeCount s.nodes + 1 := by
    unfold mergesIn mergeCount
    rw [later.isMerge]
    exact Nat.lt_succ_self _
  obtain ⟨keeps, settled⟩ := flattenSettles later mapping enough (by simp) ok
  obtain ⟨done, all⟩ := settled.onward ready fun _ _ => trivial
  obtain ⟨given, whole, stems⟩ := settled.split
  refine ⟨keeps, settled.later, all, given, whole, stems, fun ends => ?_⟩
  obtain ⟨exact, gives, same⟩ := done ends
  rw [List.append_cancel_right (whole.symm.trans same)]
  exact gives

end Builder

end EntityForge.Yaml
