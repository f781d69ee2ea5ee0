import EntityForge.Value

/-! Data that leads back to itself. Opened up to what it holds, a knot is a container as any other, and
data without such a way back is told by its values alone. -/
namespace EntityForge

theorem Knot.container (k : Knot) : (∃ items, k.opened = .list items) ∨ (∃ items, k.opened = .tuple items) ∨
    (∃ items, k.opened = .set items) ∨ ∃ entries, k.opened = .map entries := by
  unfold Knot.opened
  cases k.object with
  | list parts => exact .inl ⟨_, rfl⟩
  | tuple parts => exact .inr (.inl ⟨_, rfl⟩)
  | set written => exact .inr (.inr (.inl ⟨_, rfl⟩))
  | map written => exact .inr (.inr (.inr ⟨_, rfl⟩))

theorem Value.openedNull {v : Value} (null : v.opened = .null) : v = .null := by
  cases v with
  | knot k =>
    have null : k.opened = .null := null
    rcases k.container with ⟨_, same⟩ | ⟨_, same⟩ | ⟨_, same⟩ | ⟨_, same⟩ <;> cases same.symm.trans null
  | _ => exact null

theorem Value.openedText {v : Value} {s : String} (text : v.opened = .text s) : v = .text s := by
  cases v with
  | knot k =>
    have text : k.opened = .text s := text
    rcases k.container with ⟨_, same⟩ | ⟨_, same⟩ | ⟨_, same⟩ | ⟨_, same⟩ <;> cases same.symm.trans text
  | _ => exact text

section Objects
variable {objects : List Object}

theorem objectValueAlike {f g : Part → Value} {o : Object} (same : ∀ part ∈ o.parts, f part = g part) :
    o.value f = o.value g := by
  have written {entries : List (Atom × Part)} (same : ∀ part ∈ entries.map Prod.snd, f part = g part) :
      Object.entries f entries = Object.entries g entries := by
    refine congrArg Entries.ofPairs (List.map_congr_left fun e member => ?_)
    exact congrArg (Prod.mk _) (same e.2 (List.mem_map_of_mem member))
  cases o with
  | list parts => exact congrArg Value.list (List.map_congr_left same)
  | tuple parts => exact congrArg Value.tuple (List.map_congr_left same)
  | set entries => exact congrArg (fun e : Entries => Value.set (e.map Prod.fst)) (written same)
  | map entries => exact congrArg Value.map (written same)

theorem Part.endsOn {steps : Nat} {part : Part} (ends : part.ends objects steps = true) :
    part.ends objects (steps + 1) = true := by
  induction steps generalizing part with
  | zero =>
    cases part with
    | atom s => rfl
    | object place => cases ends
  | succ steps ih =>
    cases part with
    | atom s => rfl
    | object place => exact List.all_eq_true.mpr fun p member => ih (List.all_eq_true.mp ends p member)

theorem Part.valueOn {steps : Nat} {part : Part} (ends : part.ends objects steps = true) :
    part.value objects steps = part.value objects (steps + 1) := by
  induction steps generalizing part with
  | zero =>
    cases part with
    | atom s => rfl
    | object place => cases ends
  | succ steps ih =>
    cases part with
    | atom s => rfl
    | object place =>
      rw [Part.value, Part.value, if_pos ends, if_pos (Part.endsOn ends)]
      exact objectValueAlike fun p member => ih (List.all_eq_true.mp ends p member)

theorem Part.readAtom (s : Atom) : (Part.atom s).read objects = .ofAtom s := by
  unfold Part.read
  cases objects.length <;> rfl

/- An object holds the values of its parts, inside a knot as elsewhere. -/
theorem Part.readOpened (place : Nat) :
    ((Part.object place).read objects).opened = (objectAt objects place).value (Part.read objects) := by
  have knot (same : (Part.object place).read objects = .knot ⟨objects, place⟩) :
      ((Part.object place).read objects).opened = (objectAt objects place).value (Part.read objects) := by
    rw [same]
    rfl
  cases count : objects.length with
  | zero =>
    refine knot ?_
    unfold Part.read
    rw [count]
    rfl
  | succ steps =>
    by_cases ends : (Part.object place).ends objects (steps + 1) = true
    · have alike : (objectAt objects place).value (Part.value objects steps) =
          (objectAt objects place).value (Part.read objects) := by
        refine objectValueAlike fun part member => ?_
        unfold Part.read
        rw [count]
        exact Part.valueOn (List.all_eq_true.mp ends part member)
      have tree : (Part.object place).read objects = (objectAt objects place).value (Part.read objects) := by
        rw [← alike]
        unfold Part.read
        rw [count, Part.value, if_pos ends]
      rw [tree]
      cases objectAt objects place <;> rfl
    · refine knot ?_
      unfold Part.read
      rw [count, Part.value, if_neg ends]

end Objects

end EntityForge
