import EntityForge.Terminal.SymbolData
import EntityForge.Text.Blank
import EntityForge.Text.Case
import EntityForge.Text.Split

/-!
Pictographs by name. A name between colons gives way to its pictograph; a name that nobody knows stays
as it is. The name may end in `-text` or `-emoji` to ask for one of two forms.
-/
namespace EntityForge.Terminal

def symbolAfter (name : List Char) : List (List Char) → Option (List Char)
  | key :: symbol :: rest => if key = name then some symbol else symbolAfter name rest
  | _ => none

def symbol? (name : List Char) : Option (List Char) :=
  let key := Text.lower name
  symbolLines.findSome? fun line => symbolAfter key (Text.splitAt (· == ' ') line.toList)

def symbolForms : List (List Char × Char) := [
  ("-emoji".toList, Char.ofNat 0xFE0F), ("-text".toList, Char.ofNat 0xFE0E)]

def symbolOf? (label : List Char) : Option (List Char) :=
  match symbolForms.find? fun (ending, _) => ending.isSuffixOf label with
  | some (ending, form) =>
    (symbol? (label.take (label.length - ending.length))).map fun symbol => symbol ++ [form]
  | none => symbol? label

def symbolLabel : List Char → Option (List Char × List Char)
  | [] => none
  | c :: rest =>
    if c = ':' then some ([], rest)
    else if Text.isBlank c then none
    else (symbolLabel rest).map fun (label, after) => (c :: label, after)

def replaceSymbols (s : List Char) : List Char := go s.length s
where
  go : Nat → List Char → List Char
    | 0, s => s
    | _, [] => []
    | fuel + 1, c :: rest =>
      match if c = ':' then symbolLabel rest else none with
      | some (label, after) => ((symbolOf? label).getD (':' :: label ++ [':'])) ++ go fuel after
      | none => c :: go fuel rest

end EntityForge.Terminal
