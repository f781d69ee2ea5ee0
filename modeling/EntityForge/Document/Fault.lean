/-!
What a document reader can object to.
-/
namespace EntityForge

/-- A text is not of the format, or it asks for a value that cannot be built (a number without
digits, a day that the calendar does not have). -/
inductive ReadFault where
  | malformed
  | impossible (text : String)
  deriving DecidableEq, Repr

end EntityForge
