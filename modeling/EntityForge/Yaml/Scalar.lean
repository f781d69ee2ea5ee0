import EntityForge.Json.Reader
import EntityForge.Yaml.Scan

/-!
Scalars in YAML texts: block scalars, quoted scalars and plain ones. A single break inside a folded
scalar is a space, further breaks stay.
-/
namespace EntityForge.Yaml

inductive Chomp where
  | clip
  | strip
  | keep
  deriving DecidableEq, Repr

def Chomp.ofSign (c : Char) : Chomp := if c == '+' then .keep else .strip

def takeIncrement : Scanner (Option Nat) := do
  let c ← peek
  if c.isDigit then
    if c == '0' then refuse
    skip 1
    return some (c.toNat - 48)
  else return none

def takeChomp : Scanner (Option Chomp) := do
  let c ← peek
  if c == '+' || c == '-' then
    skip 1
    return some (.ofSign c)
  else return none

def takeIndicators : Scanner (Chomp × Option Nat) := do
  let result ← match ← takeChomp with
    | some chomp => pure (chomp, ← takeIncrement)
    | none =>
      match ← takeIncrement with
      | some n => pure ((← takeChomp).getD .clip, some n)
      | none => pure (.clip, none)
  if isSpaceOrEnd (← peek) then return result else refuse

def skipIndent (column : Nat) : Scanner Unit := do
  let s ← get
  let spaces := (s.rest.takeWhile (· == ' ')).length
  skip (min spaces (column - s.column))

def takeLeading : Nat → Scanner (List Char × Nat)
  | 0 => return ([], 0)
  | fuel + 1 => do
    let c ← peek
    if c == ' ' then
      discard (takeChars (· == ' '))
      let column := (← get).column
      let (breaks, deepest) ← takeLeading fuel
      return (breaks, max column deepest)
    else if isBreak c then
      let first ← takeBreak
      let (breaks, deepest) ← takeLeading fuel
      return (first ++ breaks, deepest)
    else return ([], 0)

def takeBreaks (column : Nat) : Nat → Scanner (List Char)
  | 0 => return []
  | fuel + 1 => do
    skipIndent column
    if isBreak (← peek) then
      let first ← takeBreak
      return first ++ (← takeBreaks column fuel)
    else return []

def takeLines (folded : Bool) (chomp : Chomp) (column : Nat) :
    Nat → List Char → List Char → Scanner (List Char)
  | 0, _, _ => return []
  | fuel + 1, breaks, lineBreak => do
    let s ← get
    if s.column == column && s.peek != '\x00' then
      let flush := !(s.peek == ' ' || s.peek == '\t')
      let line ← takeChars fun c => !isLineEnd c
      let next ← takeBreak
      let after ← takeBreaks column ((← get).rest.length + 1)
      let t ← get
      let more := t.column == column && t.peek != '\x00'
      let joint :=
        if !more then []
        else if folded && next == ['\n'] && flush && !(t.peek == ' ' || t.peek == '\t') then
          if after.isEmpty then [' '] else []
        else next
      return breaks ++ line ++ joint ++ (← takeLines folded chomp column fuel after next)
    else
      return (if chomp == .strip then [] else lineBreak) ++ (if chomp == .keep then breaks else [])

def takeBlockScalar (folded : Bool) : Scanner String := do
  skip 1
  let (chomp, increment) ← takeIndicators
  skipLine
  let least := (max ((← get).indent + 1) 1).toNat
  let fuel := (← get).rest.length + 1
  let (breaks, column) ← match increment with
    | none =>
      let (breaks, deepest) ← takeLeading (2 * fuel)
      pure (breaks, max least deepest)
    | some n =>
      let column := least + n - 1
      pure (← takeBreaks column fuel, column)
  return String.ofList (← takeLines folded chomp column fuel breaks [])

def takeQuotedBreaks : Nat → Scanner (List Char)
  | 0 => return []
  | fuel + 1 => do
    if (← get).atMarker then refuse
    discard (takeChars fun c => c == ' ' || c == '\t')
    if isBreak (← peek) then
      let first ← takeBreak
      return first ++ (← takeQuotedBreaks fuel)
    else return []

def takeQuotedSpaces : Scanner (List Char) := do
  let blanks ← takeChars fun c => c == ' ' || c == '\t'
  let c ← peek
  if c == '\x00' then refuse
  else if isBreak c then
    let first ← takeBreak
    let breaks ← takeQuotedBreaks ((← get).rest.length + 1)
    return (if first != ['\n'] then first else if breaks.isEmpty then [' '] else []) ++ breaks
  else return blanks

def simpleEscapes : List (Char × Char) := [
  ('0', '\x00'), ('a', '\x07'), ('b', '\x08'), ('t', '\t'), ('\t', '\t'), ('n', '\n'), ('v', '\x0b'),
  ('f', '\x0c'), ('r', '\r'), ('e', '\x1b'), (' ', ' '), ('"', '"'), ('\\', '\\'), ('/', '/'),
  ('N', '\x85'), ('_', '\xa0'), ('L', '\u2028'), ('P', '\u2029')]

def numericEscapes : List (Char × Nat) := [('x', 2), ('u', 4), ('U', 8)]

def takeEscape : Scanner (List Char) := do
  let c ← peek
  match simpleEscapes.lookup c, numericEscapes.lookup c with
  | some replacement, _ => skip 1; return [replacement]
  | _, some width =>
    skip 1
    let digits := (← get).rest.take width
    match Json.hexNumber? digits with
    | some n =>
      if digits.length < width then refuse
      else if n ≥ 0x110000 then throw (.impossible "character beyond the last one")
      else
        skip width
        return Json.joinUnits [n]
    | none => refuse
  | none, none =>
    if isBreak c then
      discard takeBreak
      takeQuotedBreaks ((← get).rest.length + 1)
    else refuse

def takeQuotedText (double : Bool) : Nat → Scanner (List Char)
  | 0 => refuse
  | fuel + 1 => do
    let c ← peek
    if c == '"' && double then return []
    else if c == '\'' && !double then
      if (← peek 1) == '\'' then
        skip 2
        return '\'' :: (← takeQuotedText double fuel)
      else return []
    else if c == '\\' && double then
      skip 1
      let first ← takeEscape
      return first ++ (← takeQuotedText double fuel)
    else if isGap c then
      let first ← takeQuotedSpaces
      return first ++ (← takeQuotedText double fuel)
    else
      skip 1
      return c :: (← takeQuotedText double fuel)

def takeQuoted (double : Bool) : Scanner String := do
  skip 1
  let text ← takeQuotedText double (2 * (← get).rest.length + 2)
  skip 1
  return String.ofList text

def takePlainBreaks : Nat → Scanner (Option (List Char))
  | 0 => return some []
  | fuel + 1 => do
    if (← get).atMarker then return none
    discard (takeChars (· == ' '))
    if isBreak (← peek) then
      let first ← takeBreak
      return (← takePlainBreaks fuel).map (first ++ ·)
    else return some []

def takePlainSpaces : Scanner (List Char) := do
  let blanks ← takeChars (· == ' ')
  if isBreak (← peek) then
    let first ← takeBreak
    allowKey true
    match ← takePlainBreaks ((← get).rest.length + 1) with
    | none => return []
    | some breaks =>
      return (if first != ['\n'] then first else if breaks.isEmpty then [' '] else []) ++ breaks
  else return blanks

def plainLength (flow : Bool) : List Char → Nat
  | [] => 0
  | c :: rest =>
    let next := rest.headD '\x00'
    let ends := isGap c ||
      (c == ':' && (isGap next || (flow && [',', '[', ']', '\x7b', '\x7d'].contains next))) ||
      (flow && [',', '?', '[', ']', '\x7b', '\x7d'].contains c)
    if ends then 0 else plainLength flow rest + 1

def takePlainParts (column : Int) : Nat → List Char → Scanner (List Char)
  | 0, _ => return []
  | fuel + 1, joint => do
    let s ← get
    let length := if s.peek == '#' then 0 else plainLength (s.flow != 0) s.rest
    if length == 0 then return []
    allowKey false
    let part := s.rest.take length
    skip length
    let spaces ← takePlainSpaces
    let t ← get
    if spaces.isEmpty || t.peek == '#' || (t.flow == 0 && (t.column : Int) < column) then
      return joint ++ part
    else return joint ++ part ++ (← takePlainParts column fuel spaces)

def takePlain : Scanner String := do
  let s ← get
  return String.ofList (← takePlainParts (s.indent + 1) (s.rest.length + 1) [])

end EntityForge.Yaml
