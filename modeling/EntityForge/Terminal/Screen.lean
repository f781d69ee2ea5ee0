import EntityForge.Session
import EntityForge.Terminal.Markup
import EntityForge.Terminal.Table

/-!
Printing on the screen of a session. What is printed comes after what is there already, and nothing
is ever taken back.
-/
namespace EntityForge.Activity

def put (text : List Char) : Activity Unit :=
  modify fun s => { s with screen := s.screen ++ String.ofList text }

def print (markup : String) (ending : String := "\n") : Activity Unit := do
  let text ← Terminal.plain markup
  put (Text.join ['\n'] (Terminal.wrap (← get).width .fold text) ++ ending.toList)

def printLines (lines : List (List Char)) : Activity Unit :=
  put (lines.flatMap fun line => line ++ ['\n'])

end EntityForge.Activity
