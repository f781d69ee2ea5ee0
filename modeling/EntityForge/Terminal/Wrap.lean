import EntityForge.Terminal.Cells
import EntityForge.Text.Blank
import EntityForge.Text.Split

/-!
Lines that fit a width. A line breaks between words, and a word keeps the blanks around it. A word
that is wider than the whole width is either folded over several lines or starts a line that is cut
off with an ellipsis.
-/
namespace EntityForge.Terminal

inductive Overflow where
  | fold
  | ellipsis
  deriving DecidableEq, Repr

def tabStop : Nat := 8

def expandTabs (used : Nat) : List Char → List Char
  | [] => []
  | c :: rest =>
    if c = '\t' then
      let gap := tabStop - used % tabStop
      List.replicate gap ' ' ++ expandTabs (used + gap) rest
    else c :: expandTabs (used + charCells c) rest

def words (line : List Char) : List (List Char) :=
  let margin := line.takeWhile Text.isBlank
  match go (line.length) (line.drop margin.length) with
  | [] => []
  | first :: rest => (margin ++ first) :: rest
where
  go : Nat → List Char → List (List Char)
    | 0, _ => []
    | _, [] => []
    | fuel + 1, c :: rest =>
      let letters := rest.takeWhile fun d => !Text.isBlank d
      let after := rest.drop letters.length
      let blanks := after.takeWhile Text.isBlank
      (c :: letters ++ blanks) :: go fuel (after.drop blanks.length)

def fill (width : Nat) (overflow : Overflow) (line : List Char) (used : Nat) :
    List (List Char) → List (List Char)
  | [] => [line]
  | word :: rest =>
    let size := cells (Text.stripEnd word)
    if size ≤ width - used ∧ used ≤ width then fill width overflow (line ++ word) (used + cells word) rest
    else
      let finished := if line.isEmpty then [] else [line]
      if size ≤ width then finished ++ fill width overflow word (cells word) rest
      else
        match overflow with
        | .fold =>
          let parts := chop width word
          let last := parts.getLastD []
          finished ++ parts.dropLast ++ fill width overflow last (cells last) rest
        | .ellipsis => finished ++ fill width overflow word (cells word) rest

def dropExcess (width : Nat) (line : List Char) : List Char :=
  let blanks := line.length - (Text.stripEnd line).length
  line.take (line.length - min blanks (line.length - width))

def truncate (width : Nat) (overflow : Overflow) (line : List Char) : List Char :=
  if cells line ≤ width then line
  else
    match overflow with
    | .fold => crop width line
    | .ellipsis => crop (width - 1) line ++ ['…']

def wrap (width : Nat) (overflow : Overflow) (text : List Char) : List (List Char) :=
  (Text.lines text).flatMap fun line =>
    let expanded := expandTabs 0 line
    let whole := if expanded.all Text.isBlank then [expanded] else fill width overflow [] 0 (words expanded)
    whole.map fun line => truncate width overflow (dropExcess width line)

end EntityForge.Terminal
