/-!
The shortest decimal that reads back as a given binary floating-point number. A finite number is
`m * 2 ^ e`; every real between the midpoints to its two neighbours rounds to it, the midpoints
included when `m` is even. The search goes through the grids of 1, 2, … 17 significant digits: the
first grid with a point between the midpoints wins, of two points the nearer, of two equally near
the one with an even last digit.
-/
namespace EntityForge.Decimal

/-- A positive binary number `mantissa * 2 ^ exponent`; `narrow` when the gap below it is half the
gap above it. -/
structure Binary where
  mantissa : Nat
  exponent : Int
  narrow : Bool
  deriving DecidableEq, Repr

structure Numeral where
  digits : Nat
  exponent : Int
  deriving DecidableEq, Repr

def Binary.ofBits (bits : Nat) : Binary :=
  let fraction : Nat := bits % 0x10000000000000
  let field : Nat := bits / 0x10000000000000 % 0x800
  if field = 0 then ⟨fraction, -1074, false⟩
  else ⟨fraction + 0x10000000000000, (field : Int) - 1075, fraction == 0 && field > 1⟩

def ratio (base : Nat) (e : Int) : Nat × Nat :=
  if 0 ≤ e then (base.pow e.toNat, 1) else (1, base.pow (-e).toNat)

def digitCount (n : Nat) : Nat := (Nat.toDigits 10 n).length

def leading (num den : Nat) : Int :=
  let guess : Int := (digitCount num : Int) - (digitCount den : Int)
  let (p, q) := ratio 10 guess
  if num * q < den * p then guess - 1 else guess

/-- The points of one grid that lie strictly between the midpoints, or on them if `closed`; all
numbers are over the same denominator and `unit` is the distance of the grid's points. -/
def gridHit (value below above unit : Nat) (closed : Bool) : Option Nat :=
  let inside (k : Nat) : Bool :=
    0 < k && if closed then below ≤ k * unit && k * unit ≤ above else below < k * unit && k * unit < above
  let k := value / unit
  let down := value - k * unit
  let up := (k + 1) * unit - value
  match inside k, inside (k + 1) with
  | true, true => if down < up || (down == up && k % 2 == 0) then some k else some (k + 1)
  | true, false => some k
  | false, true => some (k + 1)
  | false, false => none

def shortest (b : Binary) : Numeral :=
  -- four times the number, so that both midpoints are integers over the denominator
  let (p, q) := ratio 2 b.exponent
  let value := 4 * b.mantissa * p
  let below := value - (if b.narrow then p else 2 * p)
  let above := value + 2 * p
  let top := leading (b.mantissa * p) q
  let closed := b.mantissa % 2 == 0
  let grid (count : Nat) : Option Numeral :=
    let e := top - (count : Int) + 1
    let (u, d) := ratio 10 e
    (gridHit (value * d) (below * d) (above * d) (4 * q * u) closed).map fun k => ⟨k, e⟩
  ((List.range 17).findSome? fun i => grid (i + 1)).getD ⟨b.mantissa, 0⟩

def dropZeros : Nat → Numeral → Numeral
  | fuel + 1, d => if d.digits ≠ 0 ∧ d.digits % 10 = 0 then dropZeros fuel ⟨d.digits / 10, d.exponent + 1⟩ else d
  | 0, d => d

def natText (n : Nat) : String := String.ofList (Nat.toDigits 10 n)

def Numeral.text (d : Numeral) : String :=
  let ds := Nat.toDigits 10 d.digits
  let point : Int := ds.length + d.exponent
  if -4 < point ∧ point ≤ 16 then
    if point ≤ 0 then "0." ++ String.ofList (List.replicate (-point).toNat '0' ++ ds)
    else
      let whole := ds.take point.toNat
      let zeros := List.replicate (point.toNat - ds.length) '0'
      let rest := ds.drop point.toNat
      String.ofList (whole ++ zeros ++ ['.'] ++ if rest.isEmpty then ['0'] else rest)
  else
    let e := point - 1
    let size := Nat.toDigits 10 e.natAbs
    let padded := if size.length < 2 then '0' :: size else size
    let mantissa := match ds with
      | [] => []
      | [c] => [c]
      | c :: rest => c :: '.' :: rest
    String.ofList (mantissa ++ ['e', if e < 0 then '-' else '+'] ++ padded)

def floatText (x : Float) : String :=
  if x.isNaN then "nan"
  else
    let bits := x.toBits.toNat
    let sign := if bits ≥ 0x8000000000000000 then "-" else ""
    let magnitude := bits % 0x8000000000000000
    if magnitude = 0x7FF0000000000000 then sign ++ "inf"
    else if magnitude = 0 then sign ++ "0.0"
    else sign ++ (dropZeros 20 (shortest (Binary.ofBits magnitude))).text

def toFloat (digits : Nat) (exponent : Int) : Float :=
  if digits = 0 then 0.0
  else
    let magnitude := (digitCount digits : Int) + exponent
    if magnitude > 310 then Float.ofBits 0x7FF0000000000000
    else if magnitude < -330 then 0.0
    else if 0 ≤ exponent then Float.ofScientific digits false exponent.toNat
    else Float.ofScientific digits true (-exponent).toNat

end EntityForge.Decimal
