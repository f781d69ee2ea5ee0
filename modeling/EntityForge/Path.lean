import EntityForge.Text.Case
import EntityForge.Text.Split

/-!
File paths as lists of names. Empty names and single dots vanish when a path is read; `..` stays
until the path is made canonical. An absolute path put after another one replaces it.
-/
namespace EntityForge

inductive Anchor where
  | relative
  | root
  | doubleRoot
  deriving DecidableEq, Repr

structure Path where
  anchor : Anchor
  parts : List String
  deriving DecidableEq, Repr

/-- Names from the root down to a file or directory, free of `..`: where things are in a file tree. -/
abbrev Location := List String

namespace Path

def names (s : List Char) : List String :=
  ((Text.splitAt (· == '/') s).map String.ofList).filter fun part => part ≠ "" && part ≠ "."

def ofText (s : String) : Path :=
  let cs := s.toList
  let anchor := match cs with
    | '/' :: '/' :: '/' :: _ => Anchor.root
    | '/' :: '/' :: _ => Anchor.doubleRoot
    | '/' :: _ => Anchor.root
    | _ => Anchor.relative
  ⟨anchor, names cs⟩

def text (p : Path) : String :=
  let body := String.intercalate "/" p.parts
  match p.anchor with
  | .relative => if p.parts.isEmpty then "." else body
  | .root => "/" ++ body
  | .doubleRoot => "//" ++ body

def join (p q : Path) : Path :=
  match q.anchor with
  | .relative => ⟨p.anchor, p.parts ++ q.parts⟩
  | _ => q

def child (p : Path) (s : String) : Path := p.join (ofText s)

def parent (p : Path) : Path := ⟨p.anchor, p.parts.dropLast⟩

def name (p : Path) : String := p.parts.getLastD ""

def step (location : Location) (part : String) : Location :=
  if part = ".." then location.dropLast else location ++ [part]

def locate (cwd : Location) (p : Path) : Location :=
  match p.anchor with
  | .relative => p.parts.foldl step cwd
  | _ => p.parts.foldl step []

def ofLocation (location : Location) : Path := ⟨.root, location⟩

def resolve (cwd : Location) (p : Path) : Path := ofLocation (p.locate cwd)

def suffixOf (name : String) : String :=
  let reversed := name.toList.reverse
  let after := reversed.takeWhile (· ≠ '.')
  match reversed.drop after.length with
  | _ :: before => if after.isEmpty || before.isEmpty then "" else String.ofList ('.' :: after.reverse)
  | [] => ""

def hasNul (p : Path) : Bool := p.parts.any fun part => part.toList.contains '\x00'

end Path

end EntityForge
