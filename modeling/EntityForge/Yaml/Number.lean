import EntityForge.Text.Blank
import EntityForge.Text.Quoted
import EntityForge.Json.Reader

/-!
Numbers as an explicit tag allows them: blanks around them, a sign, digits of any script, and in
bases other than ten the usual mark of the base.
-/
namespace EntityForge.Yaml

def digitAmount? (c : Char) : Option Nat :=
  match Text.digitBlocks.find? fun (first, last) => first ≤ c.toNat && c.toNat ≤ last with
  | some (first, _) => some ((c.toNat - first) % 10)
  | none => Json.hexDigit? c

def cutSign : List Char → Bool × List Char
  | '-' :: rest => (true, rest)
  | '+' :: rest => (false, rest)
  | rest => (false, rest)

def baseMark (base : Nat) : Option Char := [(2, 'b'), (8, 'o'), (16, 'x')].lookup base

def cutBase (base : Nat) : List Char → List Char
  | '0' :: c :: rest => if some c.toLower == baseMark base then rest else '0' :: c :: rest
  | s => s

/-- The integer that a text stands for in a base; none of more than 4300 decimal digits. -/
def integer? (base : Nat) (s : List Char) : Option Int := do
  let (negative, unsigned) := cutSign (Text.strip s)
  let digits := cutBase base unsigned
  if digits.isEmpty || (base == 10 && digits.length > 4300) then none
  let n ← digits.foldlM (fun n c => do
    let d ← digitAmount? c
    if d < base then some (base * n + d) else none) 0
  return if negative then -(n : Int) else n

def plainDigit? (c : Char) : Option Char :=
  if Text.isDecimalDigit c then (digitAmount? c).map fun d => Char.ofNat (d + 48) else none

def spanAmounts (s : List Char) : List Char × List Char :=
  ((s.takeWhile Text.isDecimalDigit).filterMap plainDigit?, s.dropWhile Text.isDecimalDigit)

def exponent? : List Char → Option Int
  | [] => some 0
  | c :: rest =>
    if c.toLower == 'e' then
      let (negative, tail) := cutSign rest
      match spanAmounts tail with
      | ([], _) => none
      | (digits, []) =>
        let n : Int := Json.decimalNumber digits
        some (if negative then -n else n)
      | _ => none
    else none

def float? (s : List Char) : Option Float := do
  let (negative, unsigned) := cutSign (Text.strip s)
  let x ← match Text.lowercase (String.ofList unsigned) with
    | "inf" => some (1.0 / 0.0)
    | "infinity" => some (1.0 / 0.0)
    | "nan" => some (0.0 / 0.0)
    | _ =>
      let (whole, afterWhole) := spanAmounts unsigned
      let (fraction, rest) := match afterWhole with
        | '.' :: tail => spanAmounts tail
        | tail => ([], tail)
      if whole.isEmpty && fraction.isEmpty then none
      else (exponent? rest).map fun e =>
        Decimal.toFloat (Json.decimalNumber (whole ++ fraction)) (e - (fraction.length : Int))
  return if negative then -x else x

def sexagesimal (parts : List Int) : Int :=
  parts.foldl (fun n part => 60 * n + part) 0

end EntityForge.Yaml
