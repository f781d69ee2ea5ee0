import EntityForge.Failure
import EntityForge.Terminal.Style
import EntityForge.Terminal.Symbol

/-!
Markup of printed texts. A tag stands between square brackets and begins with a small letter, `#`, `@`
or, when it closes another, `/`. A backslash before a tag makes it text, and two of them are one.
Tags leave no text behind; one that closes what was not opened is a fault. `escape` protects a text
that happens to have tags in it.
-/
namespace EntityForge.Terminal

def startsTag (c : Char) : Bool := ('a' ≤ c && c ≤ 'z') || c == '#' || c == '/' || c == '@'

def tagBody : List Char → Option (List Char × List Char)
  | [] => none
  | c :: rest =>
    if c = ']' then some ([], rest)
    else if c = '[' then none
    else (tagBody rest).map fun (body, after) => (c :: body, after)

def leadingTag : List Char → Option (List Char × List Char)
  | '[' :: c :: rest =>
    if startsTag c then (tagBody rest).map fun (body, after) => (c :: body, after) else none
  | _ => none

inductive Piece where
  | text (s : List Char)
  | tag (body : List Char)
  deriving DecidableEq, Repr

def escapedTag (s : List Char) : Option (Nat × List Char × List Char) :=
  let slashes := s.takeWhile (· == '\\')
  (leadingTag (s.drop slashes.length)).map fun (body, after) => (slashes.length, body, after)

def escapedPieces (slashes : Nat) (body : List Char) : List Piece :=
  (if slashes < 2 then [] else [.text (List.replicate (slashes / 2) '\\')]) ++
    [if slashes % 2 = 1 then .text ('[' :: body ++ [']']) else .tag body]

def pieces (s : List Char) : List Piece := go s.length [] s
where
  textPiece (reversed : List Char) : List Piece := if reversed.isEmpty then [] else [.text reversed.reverse]
  go : Nat → List Char → List Char → List Piece
    | 0, before, _ => textPiece before
    | _, before, [] => textPiece before
    | fuel + 1, before, c :: rest =>
      match escapedTag (c :: rest) with
      | some (slashes, body, after) =>
        textPiece before ++ escapedPieces slashes body ++ go fuel [] after
      | none => go fuel (c :: before) rest

def dropBracketEscapes : List Char → List Char
  | '\\' :: '[' :: rest => '[' :: dropBracketEscapes rest
  | c :: rest => c :: dropBracketEscapes rest
  | [] => []

def isPrinted (c : Char) : Bool := !([0x07, 0x08, 0x0B, 0x0C, 0x0D].contains c.toNat)

def shown (s : List Char) : List Char := (replaceSymbols (dropBracketEscapes s)).filter isPrinted

def markupFault : Failure := .foreign "tags do not match"

def tagName (body : List Char) : List Char := body.takeWhile (· != '=')

def applyTag (opened : List String) (body : List Char) : Except Failure (List String) :=
  let normal (name : List Char) : Except Failure String :=
    match styleName name with
    | .ok name => .ok name
    | .error _ => .error markupFault
  match tagName body with
  | '/' :: name => do
    if (Text.strip name).isEmpty then
      match opened with
      | _ :: rest => return rest
      | [] => throw markupFault
    else
      let closed ← normal (Text.strip name)
      if opened.contains closed then return opened.erase closed else throw markupFault
  | name => return (← normal name) :: opened

def textOf (opened : List String) : List Piece → Except Failure (List Char)
  | [] => .ok []
  | .text s :: rest => (textOf opened rest).map (shown s ++ ·)
  | .tag body :: rest => do textOf (← applyTag opened body) rest

def plain (markup : String) : Except Failure (List Char) := textOf [] (pieces markup.toList)

/-- The text with its tags protected: the backslashes before a tag are doubled, and one more is put
before the tag. -/
def escapeTags (s : List Char) : List Char := go s.length s
where
  go : Nat → List Char → List Char
    | 0, s => s
    | _, [] => []
    | fuel + 1, c :: rest =>
      match escapedTag (c :: rest) with
      | some (slashes, body, after) =>
        List.replicate (2 * slashes + 1) '\\' ++ '[' :: body ++ ']' :: go fuel after
      | none => c :: go fuel rest

def escape (s : String) : String :=
  let protectedText := escapeTags s.toList
  match protectedText.reverse with
  | '\\' :: '\\' :: _ => String.ofList protectedText
  | '\\' :: _ => String.ofList (protectedText ++ ['\\'])
  | _ => String.ofList protectedText

end EntityForge.Terminal
