import EntityForge.InputFiles
import Mathlib.Data.List.Induction
import Mathlib.Data.List.Nodup
import Mathlib.Data.List.Perm.Basic

/-! What occurs in a list, in the order in which it first does. -/
namespace EntityForge.InputFiles
variable {α : Type} [BEq α]

theorem addNewTwice (found new later : List α) :
    addNew (addNew found new) later = addNew found (new ++ later) := List.foldl_append.symm

variable [LawfulBEq α]

theorem addNewSnoc (found new : List α) (x : α) : addNew found (new ++ [x]) =
    if x ∈ addNew found new then addNew found new else addNew found new ++ [x] := by
  simp [addNew, List.foldl_append]

theorem addNewFirst (xs : List α) : addNew [] xs = xs.eraseDups := by
  induction xs using List.reverseRecOn with
  | nil => rfl
  | append_singleton front last ih =>
    rw [addNewSnoc, ih, List.eraseDups_append]
    by_cases old : last ∈ front <;> simp [old, List.mem_eraseDups, List.removeAll, List.eraseDups_cons]

theorem firstsApart (xs : List α) : xs.eraseDups.Nodup := by
  rw [← addNewFirst]
  induction xs using List.reverseRecOn with
  | nil => exact List.nodup_nil
  | append_singleton front last ih =>
    rw [addNewSnoc]
    split
    · exact ih
    next new => exact List.nodup_append.mpr ⟨ih, by simp, by grind⟩

theorem firstsSnoc (xs : List α) (x : α) :
    (xs ++ [x]).eraseDups = if x ∈ xs then xs.eraseDups else xs.eraseDups ++ [x] := by
  simp only [← addNewFirst, addNewSnoc]
  simp only [addNewFirst, List.mem_eraseDups]

theorem firstsMap {β : Type} [BEq β] [LawfulBEq β] {f : α → β} (apart : Function.Injective f)
    (xs : List α) : (xs.map f).eraseDups = xs.eraseDups.map f := by
  rw [← addNewFirst, ← addNewFirst]
  induction xs using List.reverseRecOn with
  | nil => rfl
  | append_singleton front last ih =>
    rw [List.map_append, List.map_singleton, addNewSnoc, addNewSnoc, ih]
    simp only [List.mem_map_of_injective apart]
    split <;> simp

theorem firstsPerm {xs ys : List α} (perm : xs.Perm ys) : xs.eraseDups.Perm ys.eraseDups :=
  (List.perm_ext_iff_of_nodup (firstsApart _) (firstsApart _)).mpr fun x => by
    rw [List.mem_eraseDups, List.mem_eraseDups, perm.mem_iff]

end EntityForge.InputFiles
