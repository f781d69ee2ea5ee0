import EntityForge.Text.Split
import EntityForge.Yaml.Number
import EntityForge.Yaml.Stamp

/-!
The tags of YAML nodes, and which tag a plain scalar without one gets from its text.
-/
namespace EntityForge.Yaml

inductive Tag where
  | null
  | bool
  | int
  | float
  | binary
  | timestamp
  | orderedMap
  | pairs
  | set
  | text
  | sequence
  | mapping
  | merge
  | default
  | unknown
  deriving DecidableEq, Repr, Inhabited

namespace Tag

def names : List (String × Tag) := [
  ("null", .null), ("bool", .bool), ("int", .int), ("float", .float), ("binary", .binary),
  ("timestamp", .timestamp), ("omap", .orderedMap), ("pairs", .pairs), ("set", .set), ("str", .text),
  ("seq", .sequence), ("map", .mapping), ("merge", .merge), ("value", .default)]

def common : String := "tag:yaml.org,2002:"

def ofName (name : String) : Tag :=
  ((names.map fun (short, tag) => (common ++ short, tag)).lookup name).getD .unknown

def isWordOf (words : List String) (s : List Char) : Bool :=
  words.any fun word =>
    let capital := match word.toList with
      | c :: rest => c.toUpper :: rest
      | [] => []
    s == word.toList || s == capital || s == word.toList.map Char.toUpper

def isSpacedDigit (c : Char) : Bool := c.isDigit || c == '_'

def isSixty : List Char → Bool
  | [a] => a.isDigit
  | [a, b] => '0' ≤ a && a ≤ '5' && b.isDigit
  | _ => false

def isSpacedNumber (first : Char) : List Char → Bool
  | c :: rest => first ≤ c && c ≤ '9' && rest.all isSpacedDigit
  | [] => false

def isSexagesimal (first : Char) (s : List Char) : Bool :=
  match Text.splitAt (· == ':') s with
  | head :: part :: parts => isSpacedNumber first head && (part :: parts).all isSixty
  | _ => false

def isInt (s : List Char) : Bool :=
  match (cutSign s).2 with
  | ['0'] => true
  | '0' :: 'b' :: c :: rest => (c :: rest).all fun d => d == '0' || d == '1' || d == '_'
  | '0' :: 'x' :: c :: rest => (c :: rest).all fun d => (Json.hexDigit? d).isSome || d == '_'
  | '0' :: rest => rest.all fun d => ('0' ≤ d && d ≤ '7') || d == '_'
  | unsigned => isSpacedNumber '1' unsigned || isSexagesimal '1' unsigned

def isExponent : List Char → Bool
  | [] => true
  | e :: sign :: d :: rest => (e == 'e' || e == 'E') && (sign == '+' || sign == '-') && (d :: rest).all Char.isDigit
  | _ => false

def isFloat (s : List Char) : Bool :=
  let (_, unsigned) := cutSign s
  match Text.cutAt ['.'] unsigned with
  | none => false
  | some ([], after) =>
    isWordOf ["inf"] after ||
      (s.head? == some '.' &&
        (after == "nan".toList || after == "NaN".toList || after == "NAN".toList ||
          (isSpacedNumber '0' (after.takeWhile isSpacedDigit) && isExponent (after.dropWhile isSpacedDigit))))
  | some (before, after) =>
    (isSpacedNumber '0' before && isExponent (after.dropWhile isSpacedDigit)) ||
      (isSexagesimal '0' before && after.all isSpacedDigit)

def isTimestamp (s : List Char) : Bool :=
  match Stamp.ofText? s with
  | some stamp => stamp.wide || stamp.clock.isSome
  | none => false

/-- The tag of a plain scalar by its text. A line feed at the end does not count. -/
def ofPlain (s : List Char) : Tag :=
  let trimmed := if s.getLast? == some '\n' && s != ['\n'] then s.dropLast else s
  if isWordOf ["yes", "no", "true", "false", "on", "off"] trimmed then .bool
  else if isFloat trimmed then .float
  else if isInt trimmed then .int
  else if trimmed == ['<', '<'] then .merge
  else if trimmed.isEmpty || trimmed == ['~'] || isWordOf ["null"] trimmed then .null
  else if isTimestamp s then .timestamp
  else if trimmed == ['='] then .default
  else if trimmed == ['!'] || trimmed == ['&'] || trimmed == ['*'] then .unknown
  else .text

end Tag

end EntityForge.Yaml
