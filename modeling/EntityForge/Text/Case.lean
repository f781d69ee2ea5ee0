import EntityForge.Text.CaseData

/-!
Lower and upper case of whole texts. Every character has a case pair of its own; two rules look
further: the upper case of some letters is several characters (`ß` becomes `SS`), and the lower case
of sigma is the final form at the end of a word.
-/
namespace EntityForge.Text

def inBlocks (blocks : List (Nat × Nat)) (c : Char) : Bool :=
  blocks.any fun (first, last) => first ≤ c.toNat && c.toNat ≤ last

def shiftBy (runs : List (Nat × Nat × Nat × Int)) (c : Char) : Char :=
  let n := c.toNat
  match runs.find? fun (first, last, step, _) => first ≤ n && n ≤ last && (n - first) % step == 0 with
  | some (_, _, _, shift) => Char.ofNat ((n : Int) + shift).toNat
  | none => c

def lowerChar (c : Char) : List Char :=
  if c.toNat < 128 then [c.toLower]
  else if c.toNat == 0x130 then ['i', Char.ofNat 0x307]
  else [shiftBy lowerRuns c]

def upperChar (c : Char) : List Char :=
  if c.toNat < 128 then [c.toUpper]
  else match upperExpansions.find? fun (n, _) => n == c.toNat with
    | some (_, parts) => parts.map Char.ofNat
    | none => [shiftBy upperRuns c]

def startsCased (s : List Char) : Bool :=
  match s.find? (fun c => !inBlocks caseIgnorable c) with
  | some c => inBlocks cased c
  | none => false

/-- Lower case of the rest of a text, `before` being what precedes it in reverse. -/
def lowerAfter (before : List Char) : List Char → List Char
  | [] => []
  | c :: rest =>
    let image :=
      if c.toNat == 0x3A3 && startsCased before && !startsCased rest then [Char.ofNat 0x3C2]
      else lowerChar c
    image ++ lowerAfter (c :: before) rest

def lower (s : List Char) : List Char := lowerAfter [] s

def upper (s : List Char) : List Char := s.flatMap upperChar

def lowercase (s : String) : String := String.ofList (lower s.toList)

def uppercase (s : String) : String := String.ofList (upper s.toList)

end EntityForge.Text
