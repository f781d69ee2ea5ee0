import EntityForge.Proofs.Amounts

/-! Keys and mappings. Numbers and truth values are the same key if they amount to the same, so what a
mapping holds for a key does not depend on how the key is written. A mapping that is written to, entry by
entry, holds for each key the last value given for it. -/
namespace EntityForge
open Float.Model (UnpackedFloat)

inductive Key where
  | null
  | text (s : String)
  | bytes (data : List UInt8)
  | date (d : Date)
  | moment (m : Moment)
  | integer (n : Int)
  | fraction (u : UnpackedFloat)
  | tuple (items : List Key)

namespace Value

def fraction? : UnpackedFloat → Option Key
  | .notANumber => none
  | u => some (.fraction u)

def floatKey? (x : Float) : Option Key :=
  match integerOf x with
  | some n => some (.integer n)
  | none => fraction? x.toModel.unpack

mutual

def key? : Value → Option Key
  | .null => some .null
  | .bool b => some (.integer (if b then 1 else 0))
  | .int n => some (.integer n)
  | .float x => floatKey? x
  | .text s => some (.text s)
  | .bytes data => some (.bytes data)
  | .date d => some (.date d)
  | .moment m => some (.moment m)
  | .tuple items => (keys? items).map .tuple
  | _ => none

def keys? : List Value → Option (List Key)
  | [] => some []
  | v :: rest => (key? v).bind fun key => (keys? rest).map (key :: ·)

end

theorem fractionIff {u : UnpackedFloat} {key : Key} :
    fraction? u = some key ↔ u ≠ .notANumber ∧ key = .fraction u := by
  have held (number : u ≠ .notANumber) : fraction? u = some (.fraction u) := by
    cases u with
    | notANumber => exact absurd rfl number
    | _ => rfl
  constructor
  · intro found
    have number : u ≠ .notANumber := by
      rintro rfl
      cases found
    exact ⟨number, Option.some.inj (found.symm.trans (held number))⟩
  · rintro ⟨number, rfl⟩
    exact held number

theorem floatKeyIff {x : Float} {key : Key} : floatKey? x = some key ↔
    (∃ n, integerOf x = some n ∧ key = .integer n) ∨
      integerOf x = none ∧ x.toModel.unpack ≠ .notANumber ∧ key = .fraction x.toModel.unpack := by
  unfold floatKey?
  cases integerOf x with
  | some n => simp [eq_comm]
  | none => simp [fractionIff]

theorem floatKey {x y : Float} : (x == y) = true ↔ ∃ key, floatKey? x = some key ∧ floatKey? y = some key := by
  constructor
  · intro same
    have amounts := Amount.floatSame same
    cases amount : integerOf y with
    | some n =>
      exact ⟨.integer n, floatKeyIff.mpr (.inl ⟨n, amounts.trans amount, rfl⟩),
        floatKeyIff.mpr (.inl ⟨n, amount, rfl⟩)⟩
    | none =>
      rcases Amount.floatEq.mp same with ⟨same, some⟩ | ⟨_, _, _, zero⟩
      · exact ⟨.fraction x.toModel.unpack,
          floatKeyIff.mpr (.inr ⟨amounts.trans amount, some, rfl⟩),
          floatKeyIff.mpr (.inr ⟨amount, same ▸ some, by rw [same]⟩)⟩
      · rw [(Amount.floatShape y).integerOf, zero] at amount
        cases amount
  · rintro ⟨key, left, right⟩
    rcases floatKeyIff.mp left with ⟨n, amount, rfl⟩ | ⟨_, some, rfl⟩ <;>
      rcases floatKeyIff.mp right with ⟨n', amount', same⟩ | ⟨_, _, same⟩
    · cases same
      exact Amount.integersSame amount amount'
    · cases same
    · cases same
    · exact Amount.floatEq.mpr (.inl ⟨Key.fraction.inj same, some⟩)

theorem floatMixed {x : Float} {b : Value} (other : ∀ y, b ≠ .float y) :
    (sameKey (.float x) b = true ↔ ∃ key, key? (.float x) = some key ∧ key? b = some key) ∧
      (sameKey b (.float x) = true ↔ ∃ key, key? b = some key ∧ key? (.float x) = some key) := by
  cases b with
  | float y => exact absurd rfl (other y)
  | _ =>
    simp only [sameKey, key?, asInteger]
    cases amount : integerOf x <;> simp [floatKeyIff, amount] <;> exact eq_comm

mutual

theorem sameKeyIff (a b : Value) : sameKey a b = true ↔ ∃ key, key? a = some key ∧ key? b = some key := by
  cases a with
  | float x =>
    cases b with
    | float y => simpa only [sameKey, key?] using floatKey
    | _ => exact (floatMixed (by simp)).1
  | tuple items =>
    cases b with
    | float y => exact (floatMixed (by simp)).2
    | tuple items' =>
      simp only [sameKey, key?, sameKeysIff items items', Option.map_eq_some_iff]
      constructor
      · rintro ⟨keys, left, right⟩
        exact ⟨.tuple keys, ⟨keys, left, rfl⟩, keys, right, rfl⟩
      · rintro ⟨_, ⟨keys, left, rfl⟩, keys', right, same⟩
        cases same
        exact ⟨keys, left, right⟩
    | _ => simp [sameKey, key?, asInteger]
  | _ =>
    cases b with
    | float y => exact (floatMixed (by simp)).2
    | _ => simp [sameKey, key?, asInteger] <;> exact eq_comm

theorem sameKeysIff (as bs : List Value) :
    sameKeys as bs = true ↔ ∃ keys, keys? as = some keys ∧ keys? bs = some keys := by
  cases as with
  | nil => cases bs <;> simp [sameKeys, keys?, Option.bind_eq_some_iff]
  | cons a as =>
    cases bs with
    | nil => simp [sameKeys, keys?, Option.bind_eq_some_iff]
    | cons b bs =>
      rw [sameKeys, Bool.and_eq_true, sameKeyIff a b, sameKeysIff as bs]
      simp only [keys?, Option.bind_eq_some_iff, Option.map_eq_some_iff]
      constructor
      · rintro ⟨⟨key, left, right⟩, keys, lefts, rights⟩
        exact ⟨key :: keys, ⟨key, left, keys, lefts, rfl⟩, key, right, keys, rights, rfl⟩
      · rintro ⟨_, ⟨key, left, keys, lefts, rfl⟩, key', right, keys', rights, same⟩
        cases same
        exact ⟨⟨key, left, right⟩, keys, lefts, rights⟩

end

theorem sameKeySymm {a b : Value} (same : sameKey a b = true) : sameKey b a = true := by
  obtain ⟨key, left, right⟩ := (sameKeyIff a b).mp same
  exact (sameKeyIff b a).mpr ⟨key, right, left⟩

theorem sameKeyTrans {a b c : Value} (same : sameKey a b = true) (same' : sameKey b c = true) :
    sameKey a c = true := by
  obtain ⟨key, left, right⟩ := (sameKeyIff a b).mp same
  obtain ⟨key', left', right'⟩ := (sameKeyIff b c).mp same'
  cases right.symm.trans left'
  exact (sameKeyIff a c).mpr ⟨key, left, right'⟩

theorem sameKeyCongr {a b : Value} (same : sameKey a b = true) (c : Value) : sameKey a c = sameKey b c :=
  Bool.eq_iff_iff.mpr ⟨sameKeyTrans (sameKeySymm same), sameKeyTrans same⟩

/- One key, or two that are the same; a number that is none is not the same as itself. -/
def Alike (a b : Value) : Prop := a = b ∨ sameKey a b = true

theorem Alike.trans {a b c : Value} (first : Alike a b) (next : Alike b c) : Alike a c := by
  rcases first with rfl | first
  · exact next
  · rcases next with rfl | next
    · exact .inr first
    · exact .inr (sameKeyTrans first next)

theorem textKey (s t : String) : sameKey (.text s) (.text t) = (s == t) := rfl

theorem sameText {v : Value} {s : String} : sameKey v (.text s) = true ↔ v = .text s := by
  cases v <;> simp [sameKey, asInteger]

theorem alikeText {v : Value} {s : String} : Alike v (.text s) ↔ v = .text s :=
  (or_congr_right sameText).trans or_self_iff

end Value

namespace Entries
open Value (sameKey sameKeyCongr sameKeySymm sameKeyTrans Alike)
variable {entries pairs : Entries} {key value : Value} {e : Value × Value}

theorem getCons (e : Value × Value) (entries : Entries) (key : Value) :
    get? (e :: entries) key = if sameKey e.1 key then some e.2 else get? entries key := by
  rw [get?, List.find?_cons]
  cases sameKey e.1 key <;> rfl

theorem getInsert (entries : Entries) (key value asked : Value) :
    get? (insert entries key value) asked =
      if sameKey key asked then some value else get? entries asked := by
  induction entries with
  | nil => exact getCons (key, value) [] asked
  | cons e rest ih =>
    rw [insert]
    split
    next same => rw [getCons, getCons, sameKeyCongr same]; split <;> rfl
    next apart =>
      rw [getCons, getCons, ih]
      by_cases here : sameKey e.1 asked = true
      · have other : sameKey key asked = false := Bool.eq_false_iff.mpr fun same =>
          apart (sameKeyTrans here (sameKeySymm same))
        simp [here, other]
      · simp [here]

def last? (pairs : Entries) (key : Value) : Option Value :=
  (pairs.reverse.find? fun e => sameKey e.1 key).map Prod.snd

theorem lastCons (e : Value × Value) (pairs : Entries) (key : Value) :
    last? (e :: pairs) key = (last? pairs key).or (if sameKey e.1 key then some e.2 else none) := by
  rw [last?, List.reverse_cons, List.find?_append, last?]
  cases pairs.reverse.find? fun e => sameKey e.1 key with
  | some found => rfl
  | none => cases here : sameKey e.1 key <;> simp [here]

theorem lastAppend (pairs others : Entries) (key : Value) :
    last? (pairs ++ others) key = (last? others key).or (last? pairs key) := by
  induction pairs with
  | nil => exact Option.or_none.symm
  | cons e rest ih => rw [List.cons_append, lastCons, lastCons, ih, Option.or_assoc]

theorem getUpdate (entries pairs : Entries) (key : Value) :
    get? (update entries pairs) key = (last? pairs key).or (get? entries key) := by
  induction pairs generalizing entries with
  | nil => rfl
  | cons e rest ih =>
    have step : update entries (e :: rest) = update (insert entries e.1 e.2) rest := rfl
    rw [step, ih, getInsert, lastCons, Option.or_assoc]
    congr 1
    split <;> rfl

theorem getOfPairs (pairs : Entries) (key : Value) : get? (ofPairs pairs) key = last? pairs key :=
  (getUpdate [] pairs key).trans Option.or_none

def Apart (entries : Entries) : Prop := entries.Pairwise fun a b => sameKey a.1 b.1 = false

theorem memberInsert (member : e ∈ insert entries key value) :
    e ∈ entries ∨ e.2 = value ∧ Alike e.1 key := by
  induction entries with
  | nil => exact .inr (List.mem_singleton.mp member ▸ ⟨rfl, .inl rfl⟩)
  | cons first rest ih =>
    rw [insert] at member
    split at member
    next same =>
      rcases List.mem_cons.mp member with rfl | later
      · exact .inr ⟨rfl, .inr same⟩
      · exact .inl (List.mem_cons_of_mem _ later)
    next =>
      rcases List.mem_cons.mp member with rfl | later
      · exact .inl List.mem_cons_self
      · exact (ih later).imp_left (List.mem_cons_of_mem _)

theorem keysInsert (member : e ∈ insert entries key value) :
    e.1 = key ∨ ∃ old ∈ entries, old.1 = e.1 := by
  induction entries with
  | nil => exact .inl (List.mem_singleton.mp member ▸ rfl)
  | cons first rest ih =>
    rw [insert] at member
    split at member
    next =>
      rcases List.mem_cons.mp member with rfl | later
      · exact .inr ⟨first, List.mem_cons_self, rfl⟩
      · exact .inr ⟨e, List.mem_cons_of_mem _ later, rfl⟩
    next =>
      rcases List.mem_cons.mp member with rfl | later
      · exact .inr ⟨first, List.mem_cons_self, rfl⟩
      · exact (ih later).imp_right fun ⟨old, there, same⟩ => ⟨old, List.mem_cons_of_mem _ there, same⟩

theorem insertApart (apart : Apart entries) (key value : Value) : Apart (insert entries key value) := by
  induction entries with
  | nil => exact List.pairwise_singleton _ _
  | cons first rest ih =>
    obtain ⟨here, later⟩ := List.pairwise_cons.mp apart
    rw [insert]
    split
    next => exact List.pairwise_cons.mpr ⟨here, later⟩
    next other =>
      refine List.pairwise_cons.mpr ⟨fun e member => ?_, ih later⟩
      rcases keysInsert member with rfl | ⟨old, there, same⟩
      · exact Bool.eq_false_iff.mpr other
      · exact same ▸ here old there

theorem updateApart (apart : Apart entries) (pairs : Entries) : Apart (update entries pairs) := by
  induction pairs generalizing entries with
  | nil => exact apart
  | cons e rest ih => exact ih (insertApart apart e.1 e.2)

theorem ofPairsApart (pairs : Entries) : Apart (ofPairs pairs) := updateApart .nil pairs

theorem lastApart (apart : Apart entries) (key : Value) : last? entries key = get? entries key := by
  induction entries with
  | nil => rfl
  | cons e rest ih =>
    obtain ⟨here, later⟩ := List.pairwise_cons.mp apart
    rw [lastCons, getCons, ih later]
    split
    next same =>
      have none : get? rest key = none := by
        rw [get?, Option.map_eq_none_iff, List.find?_eq_none]
        exact fun other member there => by
          have clash := sameKeyTrans same (sameKeySymm there)
          rw [here other member] at clash
          cases clash
      rw [none]
      rfl
    next => exact Option.or_none

theorem lastFilter {p : Value → Bool} (respects : ∀ a b, sameKey a b = true → p a = p b)
    (pairs : Entries) (key : Value) :
    last? (pairs.filter fun e => p e.1) key = if p key then last? pairs key else none := by
  induction pairs with
  | nil => split <;> rfl
  | cons e rest ih =>
    rw [List.filter_cons]
    by_cases same : sameKey e.1 key = true
    · rw [respects _ _ same]
      split <;> simp_all [lastCons]
    · split <;> simp [lastCons, same, ih]

theorem memberUpdate (member : e ∈ update entries pairs) :
    e ∈ entries ∨ ∃ pair ∈ pairs, e.2 = pair.2 ∧ Alike e.1 pair.1 := by
  induction pairs generalizing entries with
  | nil => exact .inl member
  | cons first rest ih =>
    rcases ih member with inside | ⟨pair, there, same⟩
    · rcases memberInsert inside with old | fresh
      · exact .inl old
      · exact .inr ⟨first, List.mem_cons_self, fresh⟩
    · exact .inr ⟨pair, List.mem_cons_of_mem _ there, same⟩

theorem stemUpdate (member : e ∈ update entries pairs) :
    (∃ old ∈ entries, old.1 = e.1) ∨ ∃ pair ∈ pairs, pair.1 = e.1 := by
  induction pairs generalizing entries with
  | nil => exact .inl ⟨e, member, rfl⟩
  | cons first rest ih =>
    rcases ih member with ⟨old, there, same⟩ | ⟨pair, there, same⟩
    · rcases keysInsert there with here | ⟨older, there, same'⟩
      · exact .inr ⟨first, List.mem_cons_self, here.symm.trans same⟩
      · exact .inl ⟨older, there, same'.trans same⟩
    · exact .inr ⟨pair, List.mem_cons_of_mem _ there, same⟩

theorem insertKeeps (entries : Entries) (key value : Value) :
    (∃ e ∈ insert entries key value, Alike e.1 key) ∧
      ∀ old ∈ entries, ∃ e ∈ insert entries key value, e.1 = old.1 := by
  induction entries with
  | nil => exact ⟨⟨(key, value), List.mem_cons_self, .inl rfl⟩, nofun⟩
  | cons first rest ih =>
    obtain ⟨⟨e, there, alike⟩, kept⟩ := ih
    rw [insert]
    split
    next same =>
      refine ⟨⟨(first.1, value), List.mem_cons_self, .inr same⟩, List.forall_mem_cons.mpr
        ⟨⟨(first.1, value), List.mem_cons_self, rfl⟩, fun old member => ?_⟩⟩
      exact ⟨old, List.mem_cons_of_mem _ member, rfl⟩
    next =>
      refine ⟨⟨e, List.mem_cons_of_mem _ there, alike⟩, List.forall_mem_cons.mpr
        ⟨⟨first, List.mem_cons_self, rfl⟩, fun old member => ?_⟩⟩
      obtain ⟨e, there, same⟩ := kept old member
      exact ⟨e, List.mem_cons_of_mem _ there, same⟩

theorem updateKeeps (entries pairs : Entries) :
    (∀ pair ∈ pairs, ∃ e ∈ update entries pairs, Alike e.1 pair.1) ∧
      ∀ old ∈ entries, ∃ e ∈ update entries pairs, e.1 = old.1 := by
  induction pairs generalizing entries with
  | nil => exact ⟨nofun, fun old member => ⟨old, member, rfl⟩⟩
  | cons first rest ih =>
    obtain ⟨given, kept⟩ := ih (insert entries first.1 first.2)
    obtain ⟨⟨e, there, alike⟩, before⟩ := insertKeeps entries first.1 first.2
    refine ⟨List.forall_mem_cons.mpr ⟨?_, given⟩, fun old member => ?_⟩
    · obtain ⟨e', there', same⟩ := kept e there
      exact ⟨e', there', same ▸ alike⟩
    · obtain ⟨e, there, same⟩ := before old member
      obtain ⟨e', there', same'⟩ := kept e there
      exact ⟨e', there', same'.trans same⟩

end Entries

end EntityForge
