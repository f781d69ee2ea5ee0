/-!
What comes back from the web.
-/
namespace EntityForge

inductive WebAnswer where
  | page (status : Int) (contentType : Option String) (text : String)
  | timeout
  | connection (reason : String)
  /-- A status was refused without an answer to show it. -/
  | unanswered
  | other (reason : String)
  deriving DecidableEq, Repr

structure WebRequest where
  url : String
  timeout : Int
  deriving DecidableEq, Repr

end EntityForge
