import EntityForge.Emit.Artifact
import EntityForge.FileTree
import EntityForge.Log

/-!
Writing generated files. Directories are made where they are missing. A file that must not overwrite
is skipped when something is there already; all others are written in order, and the first obstacle
ends the writing and leaves what was written before.
-/
namespace EntityForge

namespace FileTree

def ensureDirectory (t : FileTree) (cwd : Location) (p : Path) : FileTree × Except Failure Unit :=
  if p.hasNul then (t, .error nulFault)
  else
    match t.makeDirectories cwd p.anchor p.parts.reverse with
    | (t, none) => (t, .ok ())
    | (t, some _) => (t, .error (.files (.createDirectory p.text)))

def fileExists (t : FileTree) (cwd : Location) (p : Path) : Except Failure Bool :=
  if p.hasNul then .ok false
  else
    match t.exists? cwd p with
    | .ok found => .ok found
    | .error _ => .error (.files (.checkExistence p.text))

def writeText (t : FileTree) (cwd : Location) (p : Path) (content : String) :
    FileTree × Except Failure Unit :=
  match t.ensureDirectory cwd p.parent with
  | (t, .error failure) => (t, .error failure)
  | (t, .ok ()) =>
    if p.hasNul then (t, .error nulFault)
    else
      match t.write cwd p content.toUTF8 with
      | .ok written => (written, .ok ())
      | .error _ => (t, .error (.files (.writeFile p.text)))

end FileTree

structure Output where
  tree : FileTree
  written : List Path := []
  skipped : List Path := []
  log : List Log.Record := []
  failure : Option Failure := none

namespace Output

def source : String := "entity_baker.codegen.core.writer"

def writeOne (cwd : Location) (o : Output) (a : Artifact) : Output :=
  let existing : Except Failure Bool := if a.overwrite then .ok false else o.tree.fileExists cwd a.path
  match existing with
  | .error failure => { o with failure := some failure }
  | .ok true =>
    { o with
      skipped := o.skipped ++ [a.path]
      log := o.log ++ [⟨.debug, source, s!"Keeping existing file {a.path.text}"⟩] }
  | .ok false =>
    match o.tree.writeText cwd a.path a.content with
    | (tree, .error failure) => { o with tree, failure := some failure }
    | (tree, .ok ()) =>
      { o with
        tree
        written := o.written ++ [a.path]
        log := o.log ++ [⟨.debug, source, s!"Wrote {a.kind} file {a.path.text}"⟩] }

def writeAll (cwd : Location) (o : Output) : List Artifact → Output
  | [] => o
  | a :: rest =>
    let next := writeOne cwd o a
    match next.failure with
    | some _ => next
    | none => writeAll cwd next rest

end Output

def FileTree.writeArtifacts (t : FileTree) (cwd : Location) (artifacts : List Artifact) : Output :=
  Output.writeAll cwd { tree := t } artifacts

end EntityForge
