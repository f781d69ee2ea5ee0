import EntityForge.Text.Blank
import EntityForge.Text.Split

/-!
Texts written into generated sources. Each form has a reader beside it, so that a literal gives back
the text it was made from: C# string literals escape quotes and backslashes, annotation strings
double their quotes, attribute values use character references.
-/
namespace EntityForge.Text

def escapeLiteral : List Char → List Char
  | [] => []
  | c :: rest =>
    if c = '\\' ∨ c = '"' then '\\' :: c :: escapeLiteral rest else c :: escapeLiteral rest

def readLiteral : List Char → Option (List Char × List Char)
  | [] => none
  | '"' :: rest => some ([], rest)
  | '\\' :: c :: rest => (readLiteral rest).map fun (s, tail) => (c :: s, tail)
  | c :: rest => (readLiteral rest).map fun (s, tail) => (c :: s, tail)

def doubleQuotes : List Char → List Char
  | [] => []
  | c :: rest => if c = '"' then '"' :: '"' :: doubleQuotes rest else c :: doubleQuotes rest

def readDoubled : List Char → Option (List Char × List Char)
  | [] => none
  | '"' :: '"' :: rest => (readDoubled rest).map fun (s, tail) => ('"' :: s, tail)
  | '"' :: rest => some ([], rest)
  | c :: rest => (readDoubled rest).map fun (s, tail) => (c :: s, tail)

def reference? (c : Char) : Option (List Char) :=
  if c = '&' then some ['&', 'a', 'm', 'p', ';']
  else if c = '<' then some ['&', 'l', 't', ';']
  else if c = '>' then some ['&', 'g', 't', ';']
  else if c = '"' then some ['&', '#', '3', '4', ';']
  else if c = '\'' then some ['&', '#', '3', '9', ';']
  else none

def escapeAttribute (s : List Char) : List Char := s.flatMap fun c => (reference? c).getD [c]

def literal (s : String) : String := String.ofList ('"' :: escapeLiteral s.toList ++ ['"'])

def doubled (s : String) : String := String.ofList ('"' :: doubleQuotes s.toList ++ ['"'])

def escaped (s : String) : String := String.ofList (escapeAttribute s.toList)

def indent (width : Nat) (s : List Char) : List Char :=
  join ['\n'] ((lines s).map fun line => if allBlank line then line else List.replicate width ' ' ++ line)

end EntityForge.Text
