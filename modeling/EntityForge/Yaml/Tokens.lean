import EntityForge.Yaml.Scalar

/-!
The tokens of a YAML text. Reading stops at the first place where no token can stand; what was read
before it is kept, because a reader of the tokens may refuse them earlier.
-/
namespace EntityForge.Yaml

def isWord (c : Char) : Bool := c.isAlphanum || c == '-' || c == '_'

def isUriChar (c : Char) : Bool := c.isAlphanum || "-;/?:@&=+$,_.!~*'()[]%".toList.contains c

def expect (p : Char → Bool) : Scanner Unit := do
  if !p (← peek) then refuse

def takeSome (p : Char → Bool) : Scanner (List Char) := do
  let taken ← takeChars p
  if taken.isEmpty then refuse else return taken

def escapedBytes : List Char → Option (List UInt8 × List Char)
  | '%' :: a :: b :: rest => do
    let n ← Json.hexNumber? [a, b]
    let (bytes, tail) ← escapedBytes rest
    return (n.toUInt8 :: bytes, tail)
  | '%' :: _ => none
  | rest => some ([], rest)

def unescapeUri : Nat → List Char → Option String
  | 0, _ => some ""
  | fuel + 1, s => do
    let plain := String.ofList (s.takeWhile (· != '%'))
    let (bytes, rest) ← escapedBytes (s.dropWhile (· != '%'))
    if bytes.isEmpty then return plain
    let escaped ← String.fromUTF8? ⟨bytes.toArray⟩
    return plain ++ escaped ++ (← unescapeUri fuel rest)

def takeUri : Scanner String := do
  let s ← takeSome isUriChar
  match unescapeUri (s.length + 1) s with
  | some text => return text
  | none => refuse

def takeHandle : Scanner String := do
  expect (· == '!')
  skip 1
  if (← peek) == ' ' then return "!"
  let name ← takeChars isWord
  expect (· == '!')
  skip 1
  return String.ofList ('!' :: name ++ ['!'])

def takeTag : Scanner Token := do
  let next ← peek 1
  let tag ←
    if next == '<' then
      skip 2
      let suffix ← takeUri
      expect (· == '>')
      skip 1
      pure (.tag none suffix)
    else if isGap next then
      skip 1
      pure (.tag none "!")
    else
      let word := ((← get).rest.drop 1).takeWhile fun c => !isSpaceOrEnd c
      let handle ← if word.contains '!' then takeHandle else do skip 1; pure "!"
      pure (.tag (some handle) (← takeUri))
  expect isSpaceOrEnd
  return tag

def takeAnchorName : Scanner String := do
  skip 1
  let name ← takeSome isWord
  expect fun c => isGap c || "?:,]\x7d%@`".toList.contains c
  return String.ofList name

def takeNumber : Scanner Nat := return Json.decimalNumber (← takeSome Char.isDigit)

def takeDirective : Scanner Directive := do
  skip 1
  let name := String.ofList (← takeSome isWord)
  expect isSpaceOrEnd
  let directive ←
    if name == "YAML" then
      discard (takeChars (· == ' '))
      let major ← takeNumber
      expect (· == '.')
      skip 1
      let minor ← takeNumber
      expect isSpaceOrEnd
      pure (.version major minor)
    else if name == "TAG" then
      discard (takeChars (· == ' '))
      let handle ← takeHandle
      expect (· == ' ')
      discard (takeChars (· == ' '))
      let start ← takeUri
      expect isSpaceOrEnd
      pure (.tag handle start)
    else
      discard (takeChars fun c => !isLineEnd c)
      pure (.other name)
  skipLine
  return directive

def takeSign (t : Token) : Scanner Unit := do
  skip 1
  push t

def leaveBlocks : Scanner Unit := do
  unwindTo (-1)
  dropCandidate
  allowKey false

def openFlow (t : Token) : Scanner Unit := do
  saveCandidate
  modify fun s => { s with flow := s.flow + 1, keyAllowed := true }
  takeSign t

def closeFlow (t : Token) : Scanner Unit := do
  dropCandidate
  modify fun s => { s with flow := s.flow - 1, keyAllowed := false }
  takeSign t

def enterBlock (start : Token) : Scanner Unit := do
  let s ← get
  if s.flow == 0 then
    if !s.keyAllowed then refuse
    if ← openAt s.column then push start

/-- The colon after a key. If a candidate is open, that was the key, and the mapping starts there. -/
def takeValueSign : Scanner Unit := do
  let s ← get
  match s.candidates.lookup s.flow with
  | some c =>
    set { s with candidates := s.candidates.filter fun (level, _) => level != s.flow }
    let starts ← if s.flow == 0 then openAt c.column else pure false
    let inserted := if starts then #[.blockMappingStart, .key] else #[.key]
    modify fun s => { s with
      tokens := s.tokens.extract 0 c.token ++ inserted ++ s.tokens.extract c.token s.tokens.size
      keyAllowed := false }
  | none =>
    enterBlock .blockMappingStart
    allowKey (s.flow == 0)
    dropCandidate
  takeSign .value

def takeKeyLike (take : Scanner Token) : Scanner Unit := do
  saveCandidate
  allowKey false
  push (← take)

def startsPlain (flow : Bool) (c next : Char) : Bool :=
  !(isGap c || "-?:,[]\x7b\x7d#&*!|>'\"%@`".toList.contains c) ||
    (!isGap next && (c == '-' || (!flow && (c == '?' || c == ':'))))

def step : Scanner Bool := do
  skipToToken
  dropStale
  unwindTo (← get).column
  let s ← get
  let c := s.peek
  let next := s.peek 1
  let flow := s.flow != 0
  if c == '\x00' then
    unwindTo (-1)
    dropCandidate
    return false
  if s.column == 0 && c == '%' then
    leaveBlocks
    push (.directive (← takeDirective))
  else if s.column == 0 && s.atMarker then
    leaveBlocks
    skip 3
    push (if c == '-' then .documentStart else .documentEnd)
  else if c == '[' then openFlow .flowSequenceStart
  else if c == '\x7b' then openFlow .flowMappingStart
  else if c == ']' then closeFlow .flowSequenceEnd
  else if c == '\x7d' then closeFlow .flowMappingEnd
  else if c == ',' then
    allowKey true
    dropCandidate
    takeSign .flowEntry
  else if c == '-' && isGap next then
    enterBlock .blockSequenceStart
    allowKey true
    dropCandidate
    takeSign .blockEntry
  else if c == '?' && (flow || isGap next) then
    enterBlock .blockMappingStart
    allowKey (!flow)
    dropCandidate
    takeSign .key
  else if c == ':' && (flow || isGap next) then takeValueSign
  else if c == '*' then takeKeyLike (return .reference (← takeAnchorName))
  else if c == '&' then takeKeyLike (return .anchor (← takeAnchorName))
  else if c == '!' then takeKeyLike takeTag
  else if (c == '|' || c == '>') && !flow then
    allowKey true
    dropCandidate
    push (.scalar (← takeBlockScalar (c == '>')) false)
  else if c == '\'' || c == '"' then takeKeyLike (return .scalar (← takeQuoted (c == '"')) false)
  else if startsPlain flow c next then takeKeyLike (return .scalar (← takePlain) true)
  else refuse
  return true

structure Tokens where
  items : List Token
  fault : Option ReadFault

def isPrintable (c : Char) : Bool :=
  let n := c.toNat
  c == '\t' || c == '\n' || c == '\r' || (0x20 ≤ n && n ≤ 0x7E) || n == 0x85 ||
    (0xA0 ≤ n && n ≤ 0xFFFD) || 0x10000 ≤ n

def Tokens.ofText (text : List Char) : Tokens :=
  if text.all isPrintable then go (text.length + 1) { rest := text } else ⟨[], some .malformed⟩
where
  go : Nat → Scan → Tokens
    | 0, s => ⟨s.tokens.toList, none⟩
    | fuel + 1, s =>
      match step.run s with
      | .ok (true, s) => go fuel s
      | .ok (false, s) => ⟨s.tokens.toList, none⟩
      | .error fault => ⟨s.tokens.toList, some fault⟩

end EntityForge.Yaml
