import EntityForge.Text.Case
import EntityForge.Text.Quoted
import EntityForge.Text.Split

/-!
Patterns of file names: `*` stands for any text, `?` for any character, `[seq]` for a character of
`seq` and `[!seq]` for one that is not in it. A closing bracket directly after the start of a class
belongs to it, and a bracket without a closing one stands for itself.
-/
namespace EntityForge.Pattern

structure Class where
  negated : Bool
  ranges : List (Char × Char)
  deriving DecidableEq, Repr

def Class.contains (k : Class) (c : Char) : Bool :=
  (k.ranges.any fun (first, last) => first ≤ c && c ≤ last) != k.negated

inductive Piece where
  | star
  | any
  | char (c : Char)
  | oneOf (k : Class)
  deriving DecidableEq, Repr

def ranges : List Char → List (Char × Char)
  | [] => []
  | [c] => [(c, c)]
  | [c, d] => [(c, c), (d, d)]
  | c :: '-' :: d :: rest => if c ≤ d then (c, d) :: ranges rest else ranges rest
  | c :: rest => (c, c) :: ranges rest

def cutClass (s : List Char) : Option (List Char × List Char) :=
  let mark := match s with
    | '!' :: _ => ['!']
    | _ => []
  let afterMark := s.drop mark.length
  let first := match afterMark with
    | ']' :: _ => [']']
    | _ => []
  let tail := afterMark.drop first.length
  match tail.dropWhile (· != ']') with
  | _ :: rest => some (mark ++ first ++ tail.takeWhile (· != ']'), rest)
  | [] => none

/-- The class with a text between the brackets. The mark of negation may stand after empty ranges; as
the start of a range it negates the hyphen and the other bound. -/
def classOf (s : List Char) : Class :=
  match s with
  | '!' :: rest => ⟨true, ranges rest⟩
  | _ =>
    match ranges s with
    | ('!', '!') :: rest => ⟨true, rest⟩
    | ('!', last) :: rest => ⟨true, ('-', '-') :: (last, last) :: rest⟩
    | all => ⟨false, all⟩

def pieces (s : List Char) : List Piece := go s.length s
where
  go : Nat → List Char → List Piece
    | 0, _ => []
    | _, [] => []
    | fuel + 1, c :: rest =>
      if c = '*' then .star :: go fuel rest
      else if c = '?' then .any :: go fuel rest
      else if c = '[' then
        match cutClass rest with
        | some (text, tail) => .oneOf (classOf text) :: go fuel tail
        | none => .char '[' :: go fuel rest
      else .char c :: go fuel rest

def anyEnd (p : List Char → Bool) : List Char → Bool
  | [] => p []
  | c :: s => p (c :: s) || anyEnd p s

def matchPieces : List Piece → List Char → Bool
  | [], s => s.isEmpty
  | .star :: rest, s => anyEnd (matchPieces rest) s
  | .any :: rest, _ :: s => matchPieces rest s
  | .char d :: rest, c :: s => c = d && matchPieces rest s
  | .oneOf k :: rest, c :: s => k.contains c && matchPieces rest s
  | _ :: _, [] => false

def accepts (pattern name : List Char) : Bool := matchPieces (pieces pattern) name

def isMagic (c : Char) : Bool := c = '*' || c = '?' || c = '['

def escape (s : List Char) : List Char := s.flatMap fun c => if isMagic c then ['[', c, ']'] else [c]

def ignoringCase (s : List Char) : List Char := go false s
where
  go (inside : Bool) : List Char → List Char
    | [] => []
    | c :: rest =>
      if inside then c :: go (c != ']') rest
      else if c = '[' then c :: go true rest
      else if Text.isLetter c then
        '[' :: (Text.lower [c] ++ Text.upper [c] ++ (']' :: go false rest))
      else c :: go false rest

end EntityForge.Pattern
