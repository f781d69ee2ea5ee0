import EntityForge.Text.Blank
import EntityForge.Text.Split

/-!
The normal form of generated sources: no line ends in blanks, no more than two blank lines follow
each other, and the text ends with exactly one line ending.
-/
namespace EntityForge.Format

/-- Lines without trailing blanks; of a run of blank lines the first two stay. `blanks` counts those
just passed. -/
def squeeze (blanks : Nat) : List (List Char) → List (List Char)
  | [] => []
  | line :: rest =>
    match Text.stripEnd line with
    | [] => if blanks < 2 then [] :: squeeze (blanks + 1) rest else squeeze (blanks + 1) rest
    | kept => kept :: squeeze 0 rest

def dropTail : List (List Char) → List (List Char)
  | [] => []
  | line :: rest =>
    match dropTail rest with
    | [] => if line.isEmpty then [] else [line]
    | kept => line :: kept

def normalLines (code : List Char) : List (List Char) := dropTail (squeeze 0 (Text.lines code))

def format (ending code : List Char) : List Char := Text.join ending (normalLines code) ++ ending

end EntityForge.Format
