import EntityForge.Document.Fault
import EntityForge.Value

/-!
JSON texts. Besides the standard the names `NaN`, `Infinity` and `-Infinity` are numbers, of repeated
keys the last value counts, and numbers without fraction and exponent are integers of any size up to
4300 digits. Nesting is limited.
-/
namespace EntityForge.Json

def isSpace (c : Char) : Bool := c == ' ' || c == '\t' || c == '\n' || c == '\r'

def skipSpace (s : List Char) : List Char := s.dropWhile isSpace

def hexDigit? (c : Char) : Option Nat :=
  if '0' ≤ c ∧ c ≤ '9' then some (c.toNat - 48)
  else if 'a' ≤ c ∧ c ≤ 'f' then some (c.toNat - 87)
  else if 'A' ≤ c ∧ c ≤ 'F' then some (c.toNat - 55)
  else none

def hexNumber? (digits : List Char) : Option Nat :=
  digits.foldlM (fun n c => (hexDigit? c).map fun d => 16 * n + d) 0

def simpleEscape? (c : Char) : Option Nat :=
  [('"', 0x22), ('\\', 0x5C), ('/', 0x2F), ('b', 8), ('f', 12), ('n', 10), ('r', 13), ('t', 9)].lookup c

def readString : List Char → Option (List Nat × List Char)
  | [] => none
  | '"' :: rest => some ([], rest)
  | '\\' :: 'u' :: a :: b :: c :: d :: rest => do
    let unit ← hexNumber? [a, b, c, d]
    let (units, tail) ← readString rest
    return (unit :: units, tail)
  | '\\' :: c :: rest => do
    let unit ← simpleEscape? c
    let (units, tail) ← readString rest
    return (unit :: units, tail)
  | c :: rest =>
    if c.toNat < 0x20 || c == '\\' then none
    else (readString rest).map fun (units, tail) => (c.toNat :: units, tail)

/-- Joins the two halves of surrogate pairs; a half that stands alone has no character and gives the
replacement character. -/
def joinUnits : List Nat → List Char
  | [] => []
  | [u] => [if 0xD800 ≤ u ∧ u < 0xE000 then '\ufffd' else Char.ofNat u]
  | u :: v :: rest =>
    if 0xD800 ≤ u ∧ u < 0xDC00 ∧ 0xDC00 ≤ v ∧ v < 0xE000 then
      Char.ofNat (0x10000 + (u - 0xD800) * 0x400 + (v - 0xDC00)) :: joinUnits rest
    else (if 0xD800 ≤ u ∧ u < 0xE000 then '\ufffd' else Char.ofNat u) :: joinUnits (v :: rest)

def decimalNumber (digits : List Char) : Nat :=
  digits.foldl (fun n c => 10 * n + (c.toNat - 48)) 0

def spanDigits (s : List Char) : List Char × List Char := (s.takeWhile Char.isDigit, s.dropWhile Char.isDigit)

def readFraction (s : List Char) : Option (List Char) × List Char :=
  match s with
  | '.' :: rest =>
    match spanDigits rest with
    | ([], _) => (none, s)
    | (digits, tail) => (some digits, tail)
  | _ => (none, s)

def readExponent (s : List Char) : Option Int × List Char :=
  let body (negative : Bool) (rest : List Char) : Option Int × List Char :=
    match spanDigits rest with
    | ([], _) => (none, s)
    | (digits, tail) =>
      let n : Int := decimalNumber digits
      (some (if negative then -n else n), tail)
  match s with
  | e :: rest =>
    if e == 'e' || e == 'E' then
      match rest with
      | '-' :: tail => body true tail
      | '+' :: tail => body false tail
      | tail => body false tail
    else (none, s)
  | [] => (none, s)

def readNumber (negative : Bool) (s : List Char) : Except ReadFault (Value × List Char) :=
  let whole := match s with
    | '0' :: rest => (['0'], rest)
    | _ => spanDigits s
  if whole.1.isEmpty then .error .malformed
  else
    let (fraction, afterFraction) := readFraction whole.2
    let (exponent, rest) := readExponent afterFraction
    match fraction, exponent with
    | none, none =>
      if whole.1.length > 4300 then .error (.impossible "integer with too many digits")
      else
        let n : Int := decimalNumber whole.1
        .ok (.int (if negative then -n else n), rest)
    | _, _ =>
      let digits := whole.1 ++ fraction.getD []
      let x := Decimal.toFloat (decimalNumber digits)
        (exponent.getD 0 - ((fraction.getD []).length : Int))
      .ok (.float (if negative then -x else x), rest)

def afterWord? (word : String) (s : List Char) : Option (List Char) :=
  if word.toList.isPrefixOf s then some (s.drop word.length) else none

def readScalar (s : List Char) : Except ReadFault (Value × List Char) :=
  let named : List (String × Value) := [("null", .null), ("true", .bool true), ("false", .bool false),
    ("NaN", .float (0.0 / 0.0)), ("Infinity", .float (1.0 / 0.0)), ("-Infinity", .float (-1.0 / 0.0))]
  match named.findSome? fun (word, v) => (afterWord? word s).map fun rest => (v, rest) with
  | some found => .ok found
  | none =>
    match s with
    | '-' :: rest => readNumber true rest
    | _ => readNumber false s

def depthLimit : Nat := 985

mutual

def readValue (fuel depth : Nat) (s : List Char) : Except ReadFault (Value × List Char) :=
  match fuel with
  | 0 => .error .malformed
  | fuel + 1 =>
    match s with
    | '"' :: rest =>
      match readString rest with
      | some (units, tail) => .ok (.text (String.ofList (joinUnits units)), tail)
      | none => .error .malformed
    | '[' :: rest =>
      if depth = 0 then .error (.impossible "nesting too deep")
      else match skipSpace rest with
        | ']' :: tail => .ok (.list [], tail)
        | items => do
          let (values, tail) ← readItems fuel (depth - 1) items
          return (.list values, tail)
    | '{' :: rest =>
      if depth = 0 then .error (.impossible "nesting too deep")
      else match skipSpace rest with
        | '}' :: tail => .ok (.map [], tail)
        | members => do
          let (pairs, tail) ← readMembers fuel (depth - 1) members
          return (.map (Entries.ofPairs pairs), tail)
    | _ => readScalar s

def readItems (fuel depth : Nat) (s : List Char) : Except ReadFault (List Value × List Char) :=
  match fuel with
  | 0 => .error .malformed
  | fuel + 1 => do
    let (value, rest) ← readValue fuel depth s
    match skipSpace rest with
    | ']' :: tail => return ([value], tail)
    | ',' :: tail =>
      let (values, tail) ← readItems fuel depth (skipSpace tail)
      return (value :: values, tail)
    | _ => .error .malformed

def readMembers (fuel depth : Nat) (s : List Char) :
    Except ReadFault (List (Value × Value) × List Char) :=
  match fuel with
  | 0 => .error .malformed
  | fuel + 1 =>
    match s with
    | '"' :: rest =>
      match readString rest with
      | none => .error .malformed
      | some (units, tail) =>
        match skipSpace tail with
        | ':' :: tail => do
          let key := Value.text (String.ofList (joinUnits units))
          let (value, rest) ← readValue fuel depth (skipSpace tail)
          match skipSpace rest with
          | '}' :: tail => return ([(key, value)], tail)
          | ',' :: tail =>
            let (pairs, tail) ← readMembers fuel depth (skipSpace tail)
            return ((key, value) :: pairs, tail)
          | _ => .error .malformed
        | _ => .error .malformed
    | _ => .error .malformed

end

def parse (text : String) : Except ReadFault Value := do
  let s := text.toList
  let (value, rest) ← readValue (2 * s.length + 2) depthLimit (skipSpace s)
  if (skipSpace rest).isEmpty then return value else .error .malformed

end EntityForge.Json
