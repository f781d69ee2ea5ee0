import EntityForge.Document.Fault
import EntityForge.Json.Reader

/-!
Days and points in time in YAML texts: a day, and after it a time with an optional fraction and an
optional zone.
-/
namespace EntityForge.Yaml

inductive Zone where
  | universal
  | distance (negative : Bool) (hours minutes : Nat)
  deriving DecidableEq, Repr

structure Clock where
  hour : Nat
  minute : Nat
  second : Nat
  fraction : List Char
  zone : Option Zone
  deriving DecidableEq, Repr

structure Stamp where
  year : Nat
  month : Nat
  day : Nat
  wide : Bool
  clock : Option Clock
  deriving DecidableEq, Repr

def cutShort : List Char → Option (Nat × Bool × List Char)
  | a :: b :: rest =>
    if a.isDigit then
      if b.isDigit then some (Json.decimalNumber [a, b], true, rest)
      else some (Json.decimalNumber [a], false, b :: rest)
    else none
  | [a] => if a.isDigit then some (Json.decimalNumber [a], false, []) else none
  | [] => none

def cutTwo (s : List Char) : Option (Nat × List Char) := do
  let (n, two, rest) ← cutShort s
  if two then return (n, rest) else none

def cutSignAt (c : Char) : List Char → Option (List Char)
  | d :: rest => if c == d then some rest else none
  | [] => none

def zone? (s : List Char) : Option (Option Zone) :=
  match s.dropWhile fun c => c == ' ' || c == '\t' with
  | ['Z'] => some (some .universal)
  | sign :: rest =>
    if sign == '+' || sign == '-' then do
      let (hours, _, tail) ← cutShort rest
      if tail.isEmpty then return some (.distance (sign == '-') hours 0)
      let (minutes, tail) ← cutTwo (← cutSignAt ':' tail)
      if tail.isEmpty then return some (.distance (sign == '-') hours minutes) else none
    else none
  | [] => if s.isEmpty then some none else none

def clock? (s : List Char) : Option Clock := do
  let start ← match s with
    | 'T' :: rest => some rest
    | 't' :: rest => some rest
    | c :: rest =>
      if c == ' ' || c == '\t' then some (rest.dropWhile fun c => c == ' ' || c == '\t') else none
    | [] => none
  let (hour, _, tail) ← cutShort start
  let (minute, tail) ← cutTwo (← cutSignAt ':' tail)
  let (second, tail) ← cutTwo (← cutSignAt ':' tail)
  let (fraction, tail) := match tail with
    | '.' :: rest => Json.spanDigits rest
    | rest => ([], rest)
  return ⟨hour, minute, second, fraction, ← zone? tail⟩

def Stamp.ofText? (s : List Char) : Option Stamp := do
  let s := if s.getLast? == some '\n' then s.dropLast else s
  let (century, tail) ← cutTwo s
  let (years, tail) ← cutTwo tail
  let (month, wideMonth, tail) ← cutShort (← cutSignAt '-' tail)
  let (day, wideDay, tail) ← cutShort (← cutSignAt '-' tail)
  let clock ← if tail.isEmpty then pure none else (clock? tail).map some
  return ⟨century * 100 + years, month, day, wideMonth && wideDay, clock⟩

def microseconds (fraction : List Char) : Nat :=
  let digits := fraction.take 6
  Json.decimalNumber digits * Nat.pow 10 (6 - digits.length)

def Zone.offset? : Zone → Option Int
  | .universal => some 0
  | .distance negative hours minutes =>
    let seconds := hours * 3600 + minutes * 60
    if seconds < 86400 then some (if negative then -(seconds : Int) else seconds) else none

def Stamp.atom? (s : Stamp) : Option Atom := do
  let date : Date := ⟨s.year, s.month, s.day⟩
  match s.clock with
  | none => if date.valid then return .date date else none
  | some clock =>
    let offset ← match clock.zone with
      | none => pure none
      | some zone => zone.offset?.map some
    if date.valid && clock.hour < 24 && clock.minute < 60 && clock.second < 60 then
      return .moment ⟨date, clock.hour, clock.minute, clock.second, microseconds clock.fraction, offset⟩
    else none

end EntityForge.Yaml
