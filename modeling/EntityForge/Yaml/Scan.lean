import EntityForge.Document.Fault
import EntityForge.Yaml.Token

/-!
A place in a YAML text, what has been read before it, and the moves from one place to the next.

A scalar or flow collection may turn out to be the key of a mapping only when the colon after it is
met. Until then its place is remembered as a candidate, at most one for each level of flow
collections; a candidate is given up at the end of its line or after 1024 characters. In block
context a collection starts where the indentation grows and ends where it shrinks.
-/
namespace EntityForge.Yaml

structure Candidate where
  token : Nat
  /-- The place is at the indentation of a block mapping, so that it has to be a key. -/
  required : Bool
  index : Nat
  line : Nat
  column : Nat
  deriving DecidableEq, Repr

structure Scan where
  rest : List Char
  index : Nat := 0
  line : Nat := 0
  column : Nat := 0
  tokens : Array Token := #[]
  flow : Nat := 0
  indent : Int := -1
  indents : List Int := []
  keyAllowed : Bool := true
  candidates : List (Nat × Candidate) := []

abbrev Scanner := StateT Scan (Except ReadFault)

def refuse {α : Type} : Scanner α := throw .malformed

def isBreak (c : Char) : Bool :=
  c == '\n' || c == '\r' || c == '\x85' || c == '\u2028' || c == '\u2029'

def isLineEnd (c : Char) : Bool := c == '\x00' || isBreak c

def isSpaceOrEnd (c : Char) : Bool := c == ' ' || isLineEnd c

def isGap (c : Char) : Bool := c == '\t' || isSpaceOrEnd c

def Scan.peek (s : Scan) (n : Nat := 0) : Char := s.rest.getD n '\x00'

def Scan.advance (s : Scan) : Scan :=
  match s.rest with
  | [] => s
  | c :: rest =>
    let s := { s with rest, index := s.index + 1 }
    if c == '\n' || c == '\x85' || c == '\u2028' || c == '\u2029' || (c == '\r' && rest.head? != some '\n')
    then { s with line := s.line + 1, column := 0 }
    else if c == '\ufeff' then s
    else { s with column := s.column + 1 }

def Scan.skip (s : Scan) : Nat → Scan
  | 0 => s
  | n + 1 => s.advance.skip n

def peek (n : Nat := 0) : Scanner Char := return (← get).peek n

def skip (n : Nat) : Scanner Unit := modify (·.skip n)

def takeChars (p : Char → Bool) : Scanner (List Char) := do
  let taken := (← get).rest.takeWhile p
  skip taken.length
  return taken

def push (t : Token) : Scanner Unit := modify fun s => { s with tokens := s.tokens.push t }

def takeBreak : Scanner (List Char) := do
  let s ← get
  let c := s.peek
  if c == '\r' && s.peek 1 == '\n' then skip 2; return ['\n']
  else if c == '\r' || c == '\n' || c == '\x85' then skip 1; return ['\n']
  else if c == '\u2028' || c == '\u2029' then skip 1; return [c]
  else return []

def Scan.atMarker (s : Scan) : Bool :=
  (s.rest.take 3 == ['-', '-', '-'] || s.rest.take 3 == ['.', '.', '.']) && isGap (s.peek 3)

def dropStale : Scanner Unit := do
  let s ← get
  let stale (c : Candidate) : Bool := c.line != s.line || s.index - c.index > 1024
  if s.candidates.any fun (_, c) => stale c && c.required then refuse
  else set { s with candidates := s.candidates.filter fun (_, c) => !stale c }

def dropCandidate : Scanner Unit := do
  let s ← get
  match s.candidates.lookup s.flow with
  | some c =>
    if c.required then refuse
    else set { s with candidates := s.candidates.filter fun (level, _) => level != s.flow }
  | none => return

def saveCandidate : Scanner Unit := do
  if (← get).keyAllowed then
    dropCandidate
    modify fun s =>
      let c : Candidate := ⟨s.tokens.size, s.flow == 0 && s.indent == (s.column : Int), s.index, s.line, s.column⟩
      { s with candidates := (s.flow, c) :: s.candidates }

def unwindTo (column : Int) : Scanner Unit := do
  let s ← get
  if s.flow == 0 then set (close s s.indents)
where
  close (s : Scan) : List Int → Scan
    | [] => s
    | before :: outer =>
      if s.indent > column then
        close { s with indent := before, indents := outer, tokens := s.tokens.push .blockEnd } outer
      else s

def openAt (column : Nat) : Scanner Bool := do
  let s ← get
  if s.indent < (column : Int) then
    set { s with indents := s.indent :: s.indents, indent := column }
    return true
  else return false

def allowKey (allowed : Bool) : Scanner Unit := modify fun s => { s with keyAllowed := allowed }

def skipToToken : Scanner Unit := do
  if (← get).index == 0 && (← peek) == '\ufeff' then skip 1
  go ((← get).rest.length + 1)
where
  go : Nat → Scanner Unit
    | 0 => return
    | fuel + 1 => do
      discard (takeChars (· == ' '))
      if (← peek) == '#' then discard (takeChars fun c => !isLineEnd c)
      let lineBreak ← takeBreak
      if lineBreak.isEmpty then return
      if (← get).flow == 0 then allowKey true
      go fuel

def skipLine : Scanner Unit := do
  discard (takeChars (· == ' '))
  if (← peek) == '#' then discard (takeChars fun c => !isLineEnd c)
  if isLineEnd (← peek) then discard takeBreak else refuse

end EntityForge.Yaml
