import EntityForge.Proofs.Surveys

/-! What a run leaves on the screen. It is the lines of its survey, with a summary at the end, and the run
returns exactly if all of them can be printed. Names, directories, paths and warnings are printed as
markup, so a name such as `[/x]` breaks a run off and one such as `[x]` is not to be seen. -/
namespace EntityForge
open Activity Command
open Terminal (Printable)

section Expansion

end Expansion

section Runs
variable {base : Path} {settings : Settings} {verbose : Bool}

def closing (width : Nat) (t : Tally) : String :=
  shownLines width [⟨"", "\n"⟩] ++
    String.ofList (((summary t).lines width).flatMap fun line => line ++ ['\n'])

end Runs

end EntityForge
