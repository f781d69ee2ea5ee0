import EntityForge.Text.Case
import EntityForge.Text.LetterData

/-!
Texts written between quotes so that they can be read unambiguously. A single quote is used unless
the text holds single quotes and no double ones; the quote, the backslash, line breaks, tabs and all
characters without a visible form are escaped.
-/
namespace EntityForge.Text

def isLetter (c : Char) : Bool :=
  if c.toNat < 128 then c.isAlpha else inBlocks letterBlocks c

def isDecimalDigit (c : Char) : Bool :=
  if c.toNat < 128 then c.isDigit else inBlocks digitBlocks c

def isVisible (c : Char) : Bool :=
  if c.toNat < 128 then 0x20 ≤ c.toNat && c.toNat < 0x7F else !inBlocks hiddenBlocks c

def hex (width n : Nat) : List Char :=
  let digits := Nat.toDigits 16 n
  List.replicate (width - digits.length) '0' ++ digits

def escapeChar (quote c : Char) : List Char :=
  if c == quote || c == '\\' then ['\\', c]
  else if c == '\n' then ['\\', 'n']
  else if c == '\r' then ['\\', 'r']
  else if c == '\t' then ['\\', 't']
  else if isVisible c then [c]
  else if c.toNat < 0x100 then '\\' :: 'x' :: hex 2 c.toNat
  else if c.toNat < 0x10000 then '\\' :: 'u' :: hex 4 c.toNat
  else '\\' :: 'U' :: hex 8 c.toNat

def quoteFor (s : List Char) : Char :=
  if s.contains '\'' && !s.contains '"' then '"' else '\''

def quoted (s : String) : String :=
  let q := quoteFor s.toList
  String.ofList (q :: s.toList.flatMap (escapeChar q) ++ [q])

end EntityForge.Text
