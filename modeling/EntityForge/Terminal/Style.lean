import EntityForge.Terminal.ColourData
import EntityForge.Text.Blank
import EntityForge.Text.Case
import EntityForge.Text.Quoted
import EntityForge.Text.Split

/-!
Names of styles in a normal form. A style is named by words: attributes, `not` with an attribute, a
colour, `on` with a colour for the background, `link` with an address. Two names of the same style have
the same normal form; a text that names no style is compared in lower case.
-/
namespace EntityForge.Terminal

def attributeNames : List (String × List String) := [
  ("bold", ["b"]), ("dim", ["d"]), ("italic", ["i"]), ("underline", ["u"]), ("blink", []),
  ("blink2", []), ("reverse", ["r"]), ("conceal", ["c"]), ("strike", ["s"]), ("underline2", ["uu"]),
  ("frame", []), ("encircle", []), ("overline", ["o"])]

def attribute? (word : String) : Option String :=
  (attributeNames.find? fun (name, others) => word = name || others.contains word).map Prod.fst

structure Style where
  attributes : List (String × Bool) := []
  colour : Option String := none
  background : Option String := none
  link : Option String := none
  deriving DecidableEq, Repr

inductive StyleFault where
  | unknown
  | notNumber
  deriving DecidableEq, Repr

def argumentOf? (name : String) (s : List Char) : Option (List Char) :=
  let opening := name.toList ++ ['(']
  if opening.isPrefixOf s && s.getLast? == some ')' && opening.length < s.length
  then some ((s.drop opening.length).dropLast) else none

def numberOf (digits : List Char) : Nat := digits.foldl (fun n c => n * 10 + (c.toNat - '0'.toNat)) 0

def isHexColour : List Char → Bool
  | '#' :: digits => digits.length == 6 && digits.all fun c => c.isDigit || ('a' ≤ c && c ≤ 'f')
  | _ => false

def isNumberedColour (digits : List Char) : Bool :=
  1 ≤ digits.length && digits.length ≤ 3 && digits.all Char.isDigit && numberOf digits ≤ 255

def checkParts (argument : List Char) : Except StyleFault Unit :=
  let parts := Text.splitAt (· == ',') argument
  if argument.isEmpty || !argument.all (fun c => c.isDigit || c == ',') then .error .unknown
  else if parts.length ≠ 3 then .error .unknown
  else if parts.any List.isEmpty then .error .notNumber
  else if parts.all fun part => numberOf part ≤ 255 then .ok () else .error .unknown

def colour? (word : String) : Except StyleFault String := do
  let name := Text.lowercase word
  if name = "default" || colourNames.contains name || isHexColour name.toList then return name
  match argumentOf? "color" name.toList with
  | some digits => if isNumberedColour digits then return name else throw .unknown
  | none =>
    match argumentOf? "rgb" name.toList with
    | some argument => do
      checkParts argument
      return name
    | none => throw .unknown

def Style.read (style : Style) : List String → Except StyleFault Style
  | [] => .ok style
  | word :: rest =>
    let lower := Text.lowercase word
    if lower = "on" then
      match rest with
      | [] => .error .unknown
      | next :: rest => do Style.read { style with background := some (← colour? next) } rest
    else if lower = "not" then
      match rest with
      | [] => .error .unknown
      | next :: rest =>
        match attribute? next with
        | some name => Style.read { style with attributes := (name, false) :: style.attributes } rest
        | none => .error .unknown
    else if lower = "link" then
      match rest with
      | [] => .error .unknown
      | next :: rest => Style.read { style with link := some next } rest
    else
      match attribute? lower with
      | some name => Style.read { style with attributes := (name, true) :: style.attributes } rest
      | none => do Style.read { style with colour := some (← colour? lower) } rest

def Style.text (style : Style) : String :=
  let attributes := attributeNames.filterMap fun (name, _) =>
    (style.attributes.lookup name).map fun on => if on then name else "not " ++ name
  let part (word : String) (value : Option String) : List String :=
    value.elim [] fun v => [word ++ v]
  let words := attributes ++ part "" style.colour ++ part "on " style.background ++
    part "link " style.link
  if words.isEmpty then "none" else String.intercalate " " words

def blankWords (s : List Char) : List String :=
  ((Text.splitAt Text.isBlank s).filter fun word => !word.isEmpty).map String.ofList

def styleName (name : List Char) : Except StyleFault String :=
  let trimmed := Text.strip name
  if trimmed = "none".toList then .ok "none"
  else
    match Style.read {} (blankWords name) with
    | .ok style => .ok style.text
    | .error .unknown => .ok (String.ofList (Text.lower trimmed))
    | .error .notNumber => .error .notNumber

end EntityForge.Terminal
