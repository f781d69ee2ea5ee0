import EntityForge.Document.Reader
import EntityForge.Session

/-!
Documents from files and from the web.
-/
namespace EntityForge.Document

def source : String := "entity_baker.utils"

def note (level : Log.Level) (message : String) : Activity Unit := Activity.note level source message

def plainBreaks : List Char → List Char
  | [] => []
  | '\r' :: '\n' :: rest => '\n' :: plainBreaks rest
  | '\r' :: rest => '\n' :: plainBreaks rest
  | c :: rest => c :: plainBreaks rest

def textOf (content : ByteArray) : Except Failure String :=
  match String.fromUTF8? content with
  | some text => .ok (String.ofList (plainBreaks text.toList))
  | none => .error (.foreign "text that is no UTF-8")

def fileAt? (tree : FileTree) (cwd : Location) (p : Path) : Except Failure (Option ByteArray) :=
  if p.hasNul then .ok none
  else
    match tree.stat cwd p with
    | .ok (.file content) => .ok (some content)
    | .error .longName => .error (.foreign "file name too long")
    | _ => .ok none

def loadFile (p : Path) : Activity Value := do
  note .debug s!"Loading {p.text}"
  let s ← get
  match ← fileAt? s.tree s.cwd p with
  | none => throw (.document (.notFound p.text))
  | some content =>
    let text ← textOf content
    let format ← Format.detect p.name
    read format text p.text

def send (url : String) (timeout : Int) : Activity WebAnswer := do
  modify fun s => { s with requests := s.requests ++ [⟨url, timeout⟩] }
  return (← get).web url

def pageFormat (url : String) (contentType : Option String) : Except Failure Format := do
  let byName ← Format.detect url
  let kind := Text.lower (contentType.getD "").toList
  return if Text.contains "xml".toList kind then .xml
    else if Text.contains "yaml".toList kind then .yaml
    else byName

def loadUrl (url : String) (timeout : Int := 30) : Activity (String × Value) := do
  note .debug s!"Attempting to load entities from URL: {url}"
  if !(← Format.isUrl url) then
    note .error s!"Invalid URL format: {url}"
    throw (.document (.invalidUrl url))
  match ← send url timeout with
  | .timeout =>
    note .error s!"Request timeout for URL: {url}"
    throw (.document (.timeout url))
  | .connection reason =>
    note .error s!"Connection error for URL {url}: {reason}"
    throw (.document (.connection url))
  | .unanswered => throw (.foreign "refused without an answer")
  | .other reason =>
    note .error s!"Request error for URL {url}: {reason}"
    throw (.document (.request url reason))
  | .page status contentType text =>
    if 400 ≤ status ∧ status < 600 then
      note .error s!"HTTP error {status} for URL: {url}"
      throw (.document (.status status url))
    let format ← pageFormat url contentType
    let data ← read format text url
    note .info s!"Loaded entities from {url}"
    return (url, data)

def load (name : String) (timeout : Int := 30) : Activity (String × Value) := do
  if ← Format.isUrl name then loadUrl name timeout
  else
    let data ← loadFile (Path.ofText name)
    note .info s!"Loaded entities from {name}"
    return (name, data)

end EntityForge.Document
