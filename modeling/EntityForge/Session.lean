import EntityForge.Output
import EntityForge.Web

/-!
A session: the file tree that activities change, the log they write, the requests they send and the
text they print. An activity that fails keeps what it did before.
-/
namespace EntityForge

inductive Event where
  | before (name target : String)
  | done (name target : String) (failure : Option Failure)

structure Tally where
  generated : Nat := 0
  failed : Nat := 0
  faults : Nat := 0
  deriving DecidableEq, Repr

structure Session where
  cwd : Location
  tree : FileTree := {}
  web : String → WebAnswer := fun _ => .connection ""
  log : List Log.Record := []
  requests : List WebRequest := []
  events : List Event := []
  screen : String := ""
  width : Nat := 80
  tally : Tally := {}

abbrev Activity := ExceptT Failure (StateM Session)

namespace Activity

def note (level : Log.Level) (source message : String) : Activity Unit :=
  modify fun s => { s with log := s.log ++ [⟨level, source, message⟩] }

def witness (e : Event) : Activity Unit := modify fun s => { s with events := s.events ++ [e] }

def onTree {α : Type} (operation : FileTree → Location → FileTree × Except Failure α) : Activity α := do
  let s ← get
  let (tree, result) := operation s.tree s.cwd
  set { s with tree }
  result

def ensureDirectory (p : Path) : Activity Unit := onTree fun tree cwd => tree.ensureDirectory cwd p

def resolve (p : Path) : Activity Path := do
  if p.hasNul then throw nulFault
  return p.resolve (← get).cwd

end Activity

end EntityForge
