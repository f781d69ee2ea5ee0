import EntityForge.Decimal.Shortest
import EntityForge.Text.Quoted

/-!
Plain data as documents deliver it: scalars, sequences and ordered mappings. A mapping keeps its
entries in the order of their first appearance; writing to a key that is there replaces the value and
keeps the place. Numbers and truth values that are numerically equal are the same key. Data that leads
back to itself is a knot: the objects it is made of, which hold one another by their places.
-/
namespace EntityForge

structure Date where
  year : Nat
  month : Nat
  day : Nat
  deriving DecidableEq, Repr

structure Moment where
  date : Date
  hour : Nat
  minute : Nat
  second : Nat
  micro : Nat
  offset : Option Int
  deriving DecidableEq, Repr

inductive Atom where
  | null
  | bool (b : Bool)
  | int (n : Int)
  | float (x : Float)
  | text (s : String)
  | bytes (data : List UInt8)
  | date (d : Date)
  | moment (m : Moment)
  deriving Inhabited

inductive Part where
  | atom (s : Atom)
  | object (place : Nat)
  deriving Inhabited

/-- The entries of sets and mappings stand as they are written, with repeated keys. -/
inductive Object where
  | list (parts : List Part)
  | tuple (parts : List Part)
  | set (written : List (Atom × Part))
  | map (written : List (Atom × Part))
  deriving Inhabited

structure Knot where
  objects : List Object
  place : Nat

inductive Value where
  | null
  | bool (b : Bool)
  | int (n : Int)
  | float (x : Float)
  | text (s : String)
  | bytes (data : List UInt8)
  | date (d : Date)
  | moment (m : Moment)
  | list (items : List Value)
  | tuple (items : List Value)
  | set (items : List Value)
  | map (entries : List (Value × Value))
  | knot (k : Knot)
  deriving Inhabited

abbrev Entries := List (Value × Value)

def padded (width n : Nat) : String :=
  let digits := Nat.toDigits 10 n
  String.ofList (List.replicate (width - digits.length) '0' ++ digits)

namespace Date

def text (d : Date) : String :=
  padded 4 d.year ++ "-" ++ padded 2 d.month ++ "-" ++ padded 2 d.day

def monthLength (year month : Nat) : Nat :=
  if month = 2 then if year % 4 = 0 ∧ (year % 100 ≠ 0 ∨ year % 400 = 0) then 29 else 28
  else if month = 4 ∨ month = 6 ∨ month = 9 ∨ month = 11 then 30 else 31

def valid (d : Date) : Bool :=
  1 ≤ d.year && d.year ≤ 9999 && 1 ≤ d.month && d.month ≤ 12 && 1 ≤ d.day &&
    d.day ≤ monthLength d.year d.month

end Date

namespace Moment

def offsetText (seconds : Int) : String :=
  let n := seconds.natAbs
  let base := (if seconds < 0 then "-" else "+") ++ padded 2 (n / 3600) ++ ":" ++ padded 2 (n / 60 % 60)
  if n % 60 = 0 then base else base ++ ":" ++ padded 2 (n % 60)

def text (m : Moment) (separator : String) : String :=
  m.date.text ++ separator ++ padded 2 m.hour ++ ":" ++ padded 2 m.minute ++ ":" ++ padded 2 m.second ++
    (if m.micro = 0 then "" else "." ++ padded 6 m.micro) ++
    (match m.offset with
      | some seconds => offsetText seconds
      | none => "")

end Moment

namespace Value

def ofAtom : Atom → Value
  | .null => .null
  | .bool b => .bool b
  | .int n => .int n
  | .float x => .float x
  | .text s => .text s
  | .bytes data => .bytes data
  | .date d => .date d
  | .moment m => .moment m

def integerOf (x : Float) : Option Int :=
  let bits := x.toBits.toNat
  let magnitude := bits % 0x8000000000000000
  if magnitude ≥ 0x7FF0000000000000 then none
  else
    let b := Decimal.Binary.ofBits magnitude
    let whole : Option Nat :=
      if 0 ≤ b.exponent then some (b.mantissa * Nat.pow 2 b.exponent.toNat)
      else
        let scale := Nat.pow 2 (-b.exponent).toNat
        if b.mantissa % scale = 0 then some (b.mantissa / scale) else none
    whole.map fun n => if bits ≥ 0x8000000000000000 then -(n : Int) else n

def asInteger : Value → Option Int
  | .bool b => some (if b then 1 else 0)
  | .int n => some n
  | .float x => integerOf x
  | _ => none

mutual

def sameKey : Value → Value → Bool
  | .null, .null => true
  | .text s, .text t => s == t
  | .bytes a, .bytes b => a == b
  | .date a, .date b => a == b
  | .moment a, .moment b => a == b
  | .tuple a, .tuple b => sameKeys a b
  | .float x, .float y => x == y
  | a, b =>
    match asInteger a, asInteger b with
    | some m, some n => m == n
    | _, _ => false

def sameKeys : List Value → List Value → Bool
  | [], [] => true
  | a :: as, b :: bs => sameKey a b && sameKeys as bs
  | _, _ => false

end

def hashable : Value → Bool
  | .list _ => false
  | .set _ => false
  | .map _ => false
  | .knot _ => false
  | .tuple items => hashableAll items
  | _ => true
where
  hashableAll : List Value → Bool
    | [] => true
    | item :: rest => hashable item && hashableAll rest

end Value

namespace Entries

def get? (entries : Entries) (key : Value) : Option Value :=
  (entries.find? fun e => Value.sameKey e.1 key).map Prod.snd

def field? (entries : Entries) (name : String) : Option Value := get? entries (.text name)

/-- Writes to a key: an entry that is there keeps its place and its key, a new one comes last. -/
def insert : Entries → Value → Value → Entries
  | [], key, value => [(key, value)]
  | (k, v) :: rest, key, value =>
    if Value.sameKey k key then (k, value) :: rest else (k, v) :: insert rest key value

def ofPairs (pairs : List (Value × Value)) : Entries :=
  pairs.foldl (fun entries (key, value) => insert entries key value) []

def update (entries other : Entries) : Entries :=
  other.foldl (fun acc (key, value) => insert acc key value) entries

end Entries

namespace Object

def parts : Object → List Part
  | .list parts => parts
  | .tuple parts => parts
  | .set written => written.map Prod.snd
  | .map written => written.map Prod.snd

def entries (value : Part → Value) (written : List (Atom × Part)) : Entries :=
  Entries.ofPairs (written.map fun (key, part) => (.ofAtom key, value part))

def value (value : Part → Value) : Object → Value
  | .list parts => .list (parts.map value)
  | .tuple parts => .tuple (parts.map value)
  | .set written => .set ((entries value written).map Prod.fst)
  | .map written => .map (entries value written)

def items (value : Part → Value) : Object → List Value
  | .list parts => parts.map value
  | .tuple parts => parts.map value
  | .set written => (entries value written).map Prod.fst
  | .map written => (entries value written).map Prod.fst

def kindName : Object → String
  | .list _ => "list"
  | .tuple _ => "tuple"
  | .set _ => "set"
  | .map _ => "dict"

def again : Object → String
  | .list _ => "[...]"
  | .tuple _ => "(...)"
  | .set _ => "set(...)"
  | .map _ => "\x7b...\x7d"

end Object

def objectAt (objects : List Object) (place : Nat) : Object := objects.getD place (.list [])

namespace Part

def ends (objects : List Object) : Nat → Part → Bool
  | _, .atom _ => true
  | 0, .object _ => false
  | steps + 1, .object place => (objectAt objects place).parts.all (ends objects steps)

def value (objects : List Object) : Nat → Part → Value
  | _, .atom s => .ofAtom s
  | 0, .object place => .knot ⟨objects, place⟩
  | steps + 1, .object place =>
    if ends objects (steps + 1) (.object place) then
      (objectAt objects place).value (value objects steps)
    else .knot ⟨objects, place⟩

/-- The value of a part. A way on that is longer than there are objects never ends. -/
def read (objects : List Object) (part : Part) : Value := part.value objects objects.length

end Part

namespace Knot

def object (k : Knot) : Object := objectAt k.objects k.place

def opened (k : Knot) : Value := k.object.value (Part.read k.objects)

end Knot

namespace Value

@[simp] def opened : Value → Value
  | .knot k => k.opened
  | v => v

def bytesText (data : List UInt8) : String :=
  let chars := data.map fun b => Char.ofNat b.toNat
  let q := Text.quoteFor chars
  let escape (c : Char) : List Char :=
    if c.toNat < 128 then Text.escapeChar q c else '\\' :: 'x' :: Text.hex 2 c.toNat
  String.ofList ('b' :: q :: chars.flatMap escape ++ [q])

def zoneText (seconds : Int) : String :=
  if seconds = 0 then "datetime.timezone.utc"
  else
    let days := seconds / 86400
    let rest := seconds % 86400
    let parts := (if days = 0 then [] else ["days=" ++ toString days]) ++
      (if rest = 0 then [] else ["seconds=" ++ toString rest])
    "datetime.timezone(datetime.timedelta(" ++ String.intercalate ", " parts ++ "))"

def momentText (m : Moment) : String :=
  let base := [m.date.year, m.date.month, m.date.day, m.hour, m.minute]
  let tail := if m.micro ≠ 0 then [m.second, m.micro] else if m.second ≠ 0 then [m.second] else []
  let zone := match m.offset with
    | some seconds => [", tzinfo=" ++ zoneText seconds]
    | none => []
  "datetime.datetime(" ++ String.intercalate ", " ((base ++ tail).map Decimal.natText) ++ String.join zone ++ ")"

mutual

def quotedWith (inside : Knot → String) : Value → String
  | .null => "None"
  | .bool true => "True"
  | .bool false => "False"
  | .int n => toString n
  | .float x => Decimal.floatText x
  | .text s => Text.quoted s
  | .bytes data => bytesText data
  | .date d => "datetime.date(" ++ String.intercalate ", " ([d.year, d.month, d.day].map Decimal.natText) ++ ")"
  | .moment m => momentText m
  | .list items => "[" ++ String.intercalate ", " (quotedItems inside items) ++ "]"
  | .tuple [item] => "(" ++ quotedWith inside item ++ ",)"
  | .tuple items => "(" ++ String.intercalate ", " (quotedItems inside items) ++ ")"
  | .set [] => "set()"
  | .set items => "\x7b" ++ String.intercalate ", " (quotedItems inside items) ++ "\x7d"
  | .map entries => "\x7b" ++ String.intercalate ", " (quotedEntries inside entries) ++ "\x7d"
  | .knot k => inside k

def quotedItems (inside : Knot → String) : List Value → List String
  | [] => []
  | item :: rest => quotedWith inside item :: quotedItems inside rest

def quotedEntries (inside : Knot → String) : List (Value × Value) → List String
  | [] => []
  | (key, value) :: rest =>
    (quotedWith inside key ++ ": " ++ quotedWith inside value) :: quotedEntries inside rest

end

def quotedKnot : Nat → List Nat → Knot → String
  | 0, _, k => k.object.again
  | steps + 1, around, k =>
    if around.contains k.place then k.object.again
    else k.opened.quotedWith (quotedKnot steps (k.place :: around))

def quoted (v : Value) : String := v.quotedWith fun k => quotedKnot (k.objects.length + 1) [] k

def display : Value → String
  | .text s => s
  | .date d => d.text
  | .moment m => m.text " "
  | v => v.quoted

def truthy : Value → Bool
  | .null => false
  | .bool b => b
  | .int n => n != 0
  | .float x => x != 0.0
  | .text s => s != ""
  | .bytes data => !data.isEmpty
  | .date _ => true
  | .moment _ => true
  | .list items => !items.isEmpty
  | .tuple items => !items.isEmpty
  | .set items => !items.isEmpty
  | .map entries => !entries.isEmpty
  | .knot k => !k.object.parts.isEmpty

def items? : Value → Option (List Value)
  | .text s => some (s.toList.map fun c => .text (String.singleton c))
  | .bytes data => some (data.map fun b => .int b.toNat)
  | .list items => some items
  | .tuple items => some items
  | .set items => some items
  | .map entries => some (entries.map Prod.fst)
  | .knot k => some (k.object.items (Part.read k.objects))
  | _ => none

def kindName : Value → String
  | .null => "NoneType"
  | .bool _ => "bool"
  | .int _ => "int"
  | .float _ => "float"
  | .text _ => "str"
  | .bytes _ => "bytes"
  | .date _ => "datetime.date"
  | .moment _ => "datetime.datetime"
  | .list _ => "list"
  | .tuple _ => "tuple"
  | .set _ => "set"
  | .map _ => "dict"
  | .knot k => k.object.kindName

end Value

end EntityForge
