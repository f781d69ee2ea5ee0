/-!
Cutting texts at separators and putting the pieces together again. A text with `n` separators has
`n + 1` pieces, so cutting and joining are inverse to each other.
-/
namespace EntityForge.Text

def splitAt (p : Char → Bool) : List Char → List (List Char)
  | [] => [[]]
  | c :: rest =>
    if p c then [] :: splitAt p rest
    else match splitAt p rest with
      | [] => [[c]]
      | piece :: pieces => (c :: piece) :: pieces

def join (separator : List Char) : List (List Char) → List Char
  | [] => []
  | [piece] => piece
  | piece :: pieces => piece ++ separator ++ join separator pieces

def lines (s : List Char) : List (List Char) := splitAt (· == '\n') s

def cutAt (needle : List Char) : List Char → Option (List Char × List Char)
  | [] => if needle.isEmpty then some ([], []) else none
  | c :: rest =>
    if needle.isPrefixOf (c :: rest) then some ([], (c :: rest).drop needle.length)
    else (cutAt needle rest).map fun (before, after) => (c :: before, after)

def contains (needle s : List Char) : Bool := (cutAt needle s).isSome

theorem splitAtNonempty (p : Char → Bool) (s : List Char) : splitAt p s ≠ [] := by
  cases s with
  | nil => simp [splitAt]
  | cons c rest =>
    simp only [splitAt]
    split
    · simp
    · split <;> simp

theorem joinSplitAt (d : Char) (s : List Char) : join [d] (splitAt (· == d) s) = s := by
  induction s with
  | nil => rfl
  | cons c rest ih =>
    cases h : splitAt (· == d) rest with
    | nil => exact absurd h (splitAtNonempty _ rest)
    | cons piece pieces =>
      rw [h] at ih
      by_cases hc : c = d
      · subst hc; simp [splitAt, h, join, ih]
      · cases pieces <;> simp_all [splitAt, join]

end EntityForge.Text
