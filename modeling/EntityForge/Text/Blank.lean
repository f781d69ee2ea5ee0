/-!
Blank characters and trimming. A character is blank when it is a space, tab, line or page break, one
of the separators U+001C to U+001F, NEL, or a space separator of another script. Trimming takes the
blanks from both ends and nothing else.
-/
namespace EntityForge.Text

def isBlank (c : Char) : Bool :=
  let n := c.toNat
  (0x09 ≤ n && n ≤ 0x0D) || (0x1C ≤ n && n ≤ 0x20) || n == 0x85 || n == 0xA0 || n == 0x1680 ||
    (0x2000 ≤ n && n ≤ 0x200A) || n == 0x2028 || n == 0x2029 || n == 0x202F || n == 0x205F ||
    n == 0x3000

def stripStart (s : List Char) : List Char := s.dropWhile isBlank

def stripEnd : List Char → List Char
  | [] => []
  | c :: rest =>
    match stripEnd rest with
    | [] => if isBlank c then [] else [c]
    | kept => c :: kept

def strip (s : List Char) : List Char := stripEnd (stripStart s)

def trim (s : String) : String := String.ofList (strip s.toList)

def allBlank (s : List Char) : Bool := s.all isBlank

theorem stripEndNil {s : List Char} : stripEnd s = [] ↔ ∀ c ∈ s, isBlank c = true := by
  induction s with
  | nil => simp [stripEnd]
  | cons c rest ih =>
    cases h : stripEnd rest with
    | nil =>
      have blanks := ih.mp h
      by_cases hc : isBlank c <;> simp [stripEnd, h, hc]
      exact blanks
    | cons d kept =>
      have visible : ¬ ∀ x ∈ rest, isBlank x = true := fun all => by simp [ih.mpr all] at h
      simp only [stripEnd, h, List.forall_mem_cons]
      exact ⟨fun impossible => by simp at impossible, fun all => absurd all.2 visible⟩

end EntityForge.Text
