import EntityForge.Proofs.Calls
import EntityForge.Terminal.Screen

/-! What printing does to a session. It writes to the screen, and markup that does not match makes it
fail with the session as it was. -/
namespace EntityForge
open Activity

theorem applyTagFails {opened : List String} {body : List Char} {failure : Failure}
    (failed : Terminal.applyTag opened body = .error failure) : failure = Terminal.markupFault := by
  unfold Terminal.applyTag at failed
  dsimp only at failed
  split at failed
  · split at failed
    · split at failed <;> cases failed
      rfl
    · rcases exceptBindError failed with first | ⟨_, _, next⟩
      · split at first <;> cases first
        rfl
      · split at next <;> cases next
        rfl
  · rcases exceptBindError failed with first | ⟨_, _, next⟩
    · split at first <;> cases first
      rfl
    · cases next

theorem markupFails {pieces : List Terminal.Piece} {opened : List String} {failure : Failure}
    (failed : Terminal.textOf opened pieces = .error failure) : failure = Terminal.markupFault := by
  induction pieces generalizing opened with
  | nil => cases failed
  | cons piece rest ih =>
    cases piece with
    | text s =>
      rw [Terminal.textOf] at failed
      cases later : Terminal.textOf opened rest with
      | error other =>
        rw [later] at failed
        cases failed
        exact ih later
      | ok text =>
        rw [later] at failed
        cases failed
    | tag body =>
      rcases exceptBindError failed with first | ⟨_, _, next⟩
      · exact applyTagFails first
      · exact ih next

theorem printOn (markup ending : String) (s : Session) :
    (∃ screen, (print markup ending).on s = (.ok (), { s with screen })) ∨
      (print markup ending).on s = (.error Terminal.markupFault, s) := by
  unfold print
  rw [onBind, onLift]
  cases shown : Terminal.plain markup with
  | error failure => exact .inr (by rw [markupFails shown])
  | ok text => exact .inl ⟨_, rfl⟩

theorem printOk {markup ending : String} {s t : Session}
    (ok : (print markup ending).on s = (.ok (), t)) : ∃ screen, t = { s with screen } := by
  rcases printOn markup ending s with ⟨screen, ran⟩ | ran
  · exact ⟨screen, (Prod.ext_iff.mp (ran.symm.trans ok)).2.symm⟩
  · cases ran.symm.trans ok

def Activity.Prints (a : Activity Unit) : Prop :=
  ∀ s t, a.on s = (.ok (), t) → ∃ screen, t = { s with screen }

theorem printsPrint (markup ending : String) : (print markup ending).Prints := fun _ _ => printOk

theorem printsBind {a b : Activity Unit} (first : a.Prints) (next : b.Prints) :
    (a >>= fun _ => b).Prints := by
  intro s u ran
  obtain ⟨_, t, ran, later⟩ := onBindOk ran
  obtain ⟨_, rfl⟩ := first s t ran
  obtain ⟨screen, rfl⟩ := next _ u later
  exact ⟨screen, rfl⟩

theorem printsReturn : (return : Activity Unit).Prints := by
  intro s t ran
  cases ran
  exact ⟨s.screen, rfl⟩

theorem printsForM {α : Type} {f : α → Activity Unit} (each : ∀ x, (f x).Prints) (items : List α) :
    (items.forM f).Prints := by
  induction items with
  | nil => exact printsReturn
  | cons item rest ih => exact printsBind (each item) ih

end EntityForge
