import EntityForge.Terminal.WidthData
import EntityForge.Text.Case

/-!
How many cells of a terminal a text fills, and texts cut or padded to a number of cells. Most
characters fill one cell, some two, and those that combine with others none.
-/
namespace EntityForge.Terminal

def charCells (c : Char) : Nat :=
  if Text.inBlocks emptyBlocks c then 0 else if Text.inBlocks wideBlocks c then 2 else 1

def span (widths : List Nat) : Nat := widths.foldr (· + ·) 0

def cells (s : List Char) : Nat := span (s.map charCells)

/-- The start of a text that fits into a room. A wide character that would stick out gives way to a
space. -/
def crop : Nat → List Char → List Char
  | _, [] => []
  | room, c :: rest =>
    if charCells c ≤ room then c :: crop (room - charCells c) rest else List.replicate room ' '

def fit (room : Nat) (s : List Char) : List Char :=
  crop room s ++ List.replicate (room - cells s) ' '

def chop (room : Nat) (s : List Char) : List (List Char) := go [] 0 s
where
  go (piece : List Char) (used : Nat) : List Char → List (List Char)
    | [] => [piece.reverse]
    | c :: rest =>
      if room < used + charCells c then piece.reverse :: go [c] (charCells c) rest
      else go (c :: piece) (used + charCells c) rest

theorem spaceCells : charCells ' ' = 1 := by decide +kernel

@[simp] theorem cellsNil : cells [] = 0 := rfl

@[simp] theorem cellsCons (c : Char) (s : List Char) : cells (c :: s) = charCells c + cells s := rfl

theorem cellsAppend (s t : List Char) : cells (s ++ t) = cells s + cells t := by
  induction s with
  | nil => simp
  | cons c rest ih =>
    rw [List.cons_append, cellsCons, cellsCons, ih]
    omega

theorem cellsSpaces (n : Nat) : cells (List.replicate n ' ') = n := by
  induction n with
  | zero => rfl
  | succ n ih =>
    rw [List.replicate_succ, cellsCons, spaceCells, ih]
    omega

theorem cellsCrop (room : Nat) (s : List Char) : cells (crop room s) = min room (cells s) := by
  induction s generalizing room with
  | nil => simp [crop]
  | cons c rest ih =>
    rw [crop, cellsCons]
    split
    · rw [cellsCons, ih]
      omega
    · rw [cellsSpaces]
      omega

theorem cellsFit (room : Nat) (s : List Char) : cells (fit room s) = room := by
  rw [fit, cellsAppend, cellsCrop, cellsSpaces]
  omega

theorem flattenGo (room : Nat) (piece : List Char) (used : Nat) (s : List Char) :
    (chop.go room piece used s).flatten = piece.reverse ++ s := by
  induction s generalizing piece used with
  | nil => simp [chop.go]
  | cons c rest ih =>
    simp only [chop.go]
    split <;> simp [ih]

theorem flattenChop (room : Nat) (s : List Char) : (chop room s).flatten = s := by
  simp [chop, flattenGo]

end EntityForge.Terminal
