import EntityForge.Path

/-!
A tree of files and directories. Everything that is there has a location, the names on the way from
the root; the root itself is always there. Paths are followed name by name, so that a `..` needs the
directory before it, and a name of more than 255 bytes cannot be had.
-/
namespace EntityForge

inductive Entry where
  | directory
  | file (content : ByteArray)

instance : DecidableEq Entry
  | .directory, .directory => isTrue rfl
  | .directory, .file _ => isFalse nofun
  | .file _, .directory => isFalse nofun
  | .file a, .file b => decidable_of_iff (a.data = b.data) (by simp [ByteArray.ext_iff])

structure FileTree where
  entries : List (Location × Entry) := []

inductive Obstacle where
  | missing
  | notDirectory
  | occupied
  | isDirectory
  | longName
  deriving DecidableEq, Repr

namespace FileTree

def get? (t : FileTree) (l : Location) : Option Entry :=
  if l = [] then some .directory else t.entries.lookup l

def put (t : FileTree) (l : Location) (e : Entry) : FileTree :=
  ⟨(l, e) :: t.entries.filter fun entry => entry.1 ≠ l⟩

def remove (t : FileTree) (l : Location) : FileTree :=
  ⟨t.entries.filter fun entry => !l.isPrefixOf entry.1⟩

def children (t : FileTree) (l : Location) : List String :=
  t.entries.filterMap fun (location, _) =>
    if location ≠ [] ∧ location.dropLast = l then location.getLast? else none

def fits (name : String) : Bool := name.utf8ByteSize ≤ 255

def enter (t : FileTree) (l : Location) (name : String) : Except Obstacle Location :=
  if name = ".." then .ok l.dropLast
  else if !fits name then .error .longName
  else match t.get? (l ++ [name]) with
    | none => .error .missing
    | some (.file _) => .error .notDirectory
    | some .directory => .ok (l ++ [name])

def follow (t : FileTree) (l : Location) : List String → Except Obstacle Location
  | [] => .ok l
  | [name] =>
    if name = ".." then .ok l.dropLast
    else if fits name then .ok (l ++ [name]) else .error .longName
  | name :: rest =>
    match t.enter l name with
    | .ok inner => follow t inner rest
    | .error obstacle => .error obstacle

def locate (t : FileTree) (cwd : Location) (p : Path) : Except Obstacle Location :=
  t.follow (if p.anchor = .relative then cwd else []) p.parts

def stat (t : FileTree) (cwd : Location) (p : Path) : Except Obstacle Entry :=
  match t.locate cwd p with
  | .error obstacle => .error obstacle
  | .ok l =>
    match t.get? l with
    | none => .error .missing
    | some e => .ok e

def isDirectory (t : FileTree) (cwd : Location) (p : Path) : Bool :=
  match t.stat cwd p with
  | .ok .directory => true
  | _ => false

def makeDirectory (t : FileTree) (cwd : Location) (p : Path) : Except Obstacle FileTree :=
  match t.locate cwd p with
  | .error obstacle => .error obstacle
  | .ok l =>
    match t.get? l with
    | none => .ok (t.put l .directory)
    | some _ => .error .occupied

/-- Makes a directory and those above it; the names are given from the last one up. Directories that
are there are fine. What was made before an obstacle stays. -/
def makeDirectories (t : FileTree) (cwd : Location) (anchor : Anchor) :
    List String → FileTree × Option Obstacle
  | [] => (t, none)
  | name :: above =>
    let p : Path := ⟨anchor, (name :: above).reverse⟩
    match t.makeDirectory cwd p with
    | .ok made => (made, none)
    | .error .missing =>
      match makeDirectories t cwd anchor above with
      | (t, some obstacle) => (t, some obstacle)
      | (t, none) =>
        match t.makeDirectory cwd p with
        | .ok made => (made, none)
        | .error .missing => (t, some .missing)
        | .error obstacle => (t, if t.isDirectory cwd p then none else some obstacle)
    | .error obstacle => (t, if t.isDirectory cwd p then none else some obstacle)

def write (t : FileTree) (cwd : Location) (p : Path) (content : ByteArray) : Except Obstacle FileTree :=
  match t.locate cwd p with
  | .error obstacle => .error obstacle
  | .ok l =>
    match t.get? l with
    | some .directory => .error .isDirectory
    | _ => .ok (t.put l (.file content))

def exists? (t : FileTree) (cwd : Location) (p : Path) : Except Obstacle Bool :=
  match t.stat cwd p with
  | .ok _ => .ok true
  | .error .longName => .error .longName
  | .error _ => .ok false

theorem lookupFilter (entries : List (Location × Entry)) {l m : Location} (h : m ≠ l) :
    (entries.filter fun entry => entry.1 ≠ l).lookup m = entries.lookup m := by
  induction entries with
  | nil => rfl
  | cons entry rest ih =>
    obtain ⟨k, v⟩ := entry
    by_cases hk : k = l
    · subst hk
      have differ : (m == k) = false := by simpa using h
      simpa [List.lookup_cons, differ] using ih
    · rw [List.filter_cons_of_pos (by simpa using hk), List.lookup_cons, List.lookup_cons, ih]

theorem putGet (t : FileTree) (l m : Location) (e : Entry) (h : m ≠ []) :
    (t.put l e).get? m = if m = l then some e else t.get? m := by
  by_cases hm : m = l
  · subst hm; simp [get?, put, h]
  · have other : (m == l) = false := by simpa using hm
    simp only [get?, put, h, hm, if_false, List.lookup_cons, other]
    exact lookupFilter t.entries hm

end FileTree

end EntityForge
