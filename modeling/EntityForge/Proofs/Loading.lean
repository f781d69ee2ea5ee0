import EntityForge.Proofs.Formatting
import EntityForge.Proofs.Telling

/-! What loading a document comes to: its data, a document fault, or a failure of another kind. The
other kinds are an address that cannot be read, a request refused without an answer, a file name that is
too long, bytes that are no UTF-8, and a text with a value that its reader cannot build. A run reports a
document fault and goes on; any other failure breaks it off. -/
namespace EntityForge
open Activity

namespace Document

def Impossible (text : String) : Format → Prop
  | .json => ∃ why, Json.parse text = .error (.impossible why)
  | .xml => ∃ why, Xml.parse text = .error (.impossible why)
  | .yaml => ∃ why, Yaml.parse text.toList = .error (.impossible why)

/- What keeps a document from being loaded without being a fault of documents. -/
inductive Stray (s : Session) (name : String) : Prop where
  | address (unread : Url.ofText? name = none)
  | unanswered (web : Format.isUrl name = .ok true) (answer : s.web name = .unanswered)
  | page {status : Int} {contentType : Option String} {text : String} {format : Format}
      (web : Format.isUrl name = .ok true) (answer : s.web name = .page status contentType text)
      (fine : ¬ (400 ≤ status ∧ status < 600)) (chosen : pageFormat name contentType = .ok format)
      (never : Impossible text format)
  | longName (place : Format.isUrl name = .ok false) (whole : (Path.ofText name).hasNul = false)
      (found : s.tree.stat s.cwd (.ofText name) = .error .longName)
  | bytes {content : ByteArray} (place : Format.isUrl name = .ok false)
      (found : fileAt? s.tree s.cwd (.ofText name) = .ok (some content))
      (unread : String.fromUTF8? content = none)
  | file {content : ByteArray} {text : String} {format : Format}
      (place : Format.isUrl name = .ok false)
      (found : fileAt? s.tree s.cwd (.ofText name) = .ok (some content))
      (decoded : textOf content = .ok text)
      (chosen : Format.detect (Path.ofText name).name = .ok format) (never : Impossible text format)

section Readers

theorem readImpossible {format : Format} {text : String} (never : Impossible text format)
    (source : String) :
    ∃ why, read format text source = .error (.foreign why) := by
  cases format <;> obtain ⟨why, asks⟩ := never
  · exact ⟨why, by simp [read, asks, Except.map]⟩
  · exact ⟨why, by simp [read, readXml, asks, bind, Except.bind]⟩
  · exact ⟨why, by simp [read, asks, Except.map]⟩

end Readers

section Results
variable (s : Session)

theorem loadFileResult (p : Path) : ((loadFile p).on s).1 = (do
    match ← fileAt? s.tree s.cwd p with
    | none => .error (.document (.notFound p.text))
    | some content =>
      let text ← textOf content
      let format ← Format.detect p.name
      read format text p.text : Except Failure Value) := by
  unfold loadFile note
  rw [onBind, onNote]
  dsimp only
  rw [onBind, onGet]
  dsimp only
  rw [onBind, onLift]
  cases fileAt? s.tree s.cwd p with
  | error failure => rfl
  | ok found =>
    cases found with
    | none => rfl
    | some content =>
      dsimp only
      rw [onBind, onLift]
      cases decoded : textOf content with
      | error failure => simp [bind, Except.bind, decoded]
      | ok text =>
        dsimp only
        rw [onBind, onLift]
        cases Format.detect p.name <;> simp [bind, Except.bind, decoded, onLift]

theorem loadUrlResult {url : String} (web : Format.isUrl url = .ok true) (timeout : Int) :
    ((loadUrl url timeout).on s).1 = match s.web url with
      | .timeout => .error (.document (.timeout url))
      | .connection _ => .error (.document (.connection url))
      | .unanswered => .error (.foreign "refused without an answer")
      | .other reason => .error (.document (.request url reason))
      | .page status contentType text =>
        if 400 ≤ status ∧ status < 600 then .error (.document (.status status url))
        else do
          let format ← pageFormat url contentType
          let data ← read format text url
          return (url, data) := by
  unfold loadUrl note send
  rw [onBind, onNote]
  dsimp only
  rw [onBind, onLift, web]
  dsimp only
  rw [if_neg (by decide), onBind, onBind, onModify]
  dsimp only
  rw [onBind, onGet]
  dsimp only [onPure]
  cases s.web url with
  | page status contentType text =>
    dsimp only
    split
    · rw [onBind, onNote]
      rfl
    · rw [onBind, onLift]
      cases pageFormat url contentType with
      | error failure => rfl
      | ok format =>
        dsimp only
        rw [onBind, onLift]
        cases data : read format text url with
        | error failure => simp only [bind, Except.bind, data]
        | ok value =>
          simp only [bind, Except.bind, data]
          rfl
  | unanswered => rfl
  | timeout | connection reason | other reason =>
    dsimp only
    rw [onBind, onNote]
    rfl

theorem loadResult (name : String) (timeout : Int) : ((load name timeout).on s).1 = (do
    if ← Format.isUrl name then ((loadUrl name timeout).on s).1
    else do
      let data ← ((loadFile (Path.ofText name)).on s).1
      return (name, data)) := by
  unfold load
  rw [onBind, onLift]
  cases Format.isUrl name with
  | error failure => rfl
  | ok web =>
    cases web with
    | true => rfl
    | false =>
      dsimp only
      rw [if_neg (by decide), onBind]
      cases (loadFile (Path.ofText name)).on s with
      | mk result t =>
        cases result with
        | error failure => simp [bind, Except.bind]
        | ok data =>
          simp [bind, Except.bind]
          rfl

end Results

section Names

end Names

section Cases
variable (s : Session) (name : String) (timeout : Int)

theorem Stray.fails {s : Session} {name : String} (stray : Stray s name) (timeout : Int) :
    ∃ why, ((load name timeout).on s).1 = .error (.foreign why) := by
  rw [loadResult]
  cases stray with
  | address unread =>
    have failed : Format.isUrl name = .error (.foreign "invalid address") := by
      unfold Format.isUrl
      rw [unread]
    exact ⟨_, by rw [failed]; rfl⟩
  | unanswered web answer =>
    have result := loadUrlResult s web timeout
    rw [answer] at result
    rw [web]
    exact ⟨_, result⟩
  | page web answer fine chosen never =>
    have result := loadUrlResult s web timeout
    obtain ⟨why, read⟩ := readImpossible never name
    rw [answer] at result
    dsimp only at result
    rw [if_neg fine, chosen] at result
    rw [web]
    exact ⟨why, result.trans (by simp only [bind, Except.bind, read])⟩
  | longName place whole found =>
    have failed : fileAt? s.tree s.cwd (.ofText name) = .error (.foreign "file name too long") := by
      unfold fileAt?
      rw [whole, found]
      rfl
    rw [place, loadFileResult, failed]
    exact ⟨_, rfl⟩
  | bytes place found unread =>
    have failed (content : ByteArray) (none : String.fromUTF8? content = none) :
        textOf content = .error (.foreign "text that is no UTF-8") := by
      unfold textOf
      rw [none]
    rw [place, loadFileResult, found]
    exact ⟨"text that is no UTF-8", by simp [bind, Except.bind, failed _ unread]⟩
  | file place found decoded chosen never =>
    obtain ⟨why, read⟩ := readImpossible never (Path.ofText name).text
    rw [place, loadFileResult, found]
    exact ⟨why, by simp [bind, Except.bind, decoded, chosen, read]⟩

end Cases

section Sessions

theorem loadUrlRequests {url : String} (web : Format.isUrl url = .ok true) (timeout : Int) (s : Session) :
    ∃ log, ((loadUrl url timeout).on s).2 = { s with log, requests := s.requests ++ [⟨url, timeout⟩] } := by
  have page (contentType : Option String) (text : String) : (do
      let format ← pageFormat url contentType
      let data ← read format text url
      note .info s!"Loaded entities from {url}"
      return (url, data) : Activity (String × Value)).Logs :=
    logsBind (logsLift _) fun _ => logsBind (logsLift _) fun _ => logsBind (logsNote _ _ _) fun _ =>
      logsPure _
  have complains (message : String) (failure : Failure) :
      (note .error message >>= fun _ => throw failure : Activity (String × Value)).Logs :=
    logsBind (logsNote _ _ _) fun _ => logsThrow failure
  unfold loadUrl note send
  rw [onBind, onNote]
  dsimp only
  rw [onBind, onLift, web]
  dsimp only
  rw [if_neg (by decide), onBind, onBind, onModify]
  dsimp only
  rw [onBind, onGet]
  dsimp only [onPure]
  cases s.web url with
  | page status contentType text =>
    dsimp only
    split
    · exact complains _ _ _
    · exact page contentType text _
  | unanswered => exact ⟨_, rfl⟩
  | timeout | connection reason | other reason => exact complains _ _ _

def requestsFor (name : String) (timeout : Int) : List WebRequest :=
  match Format.isUrl name with
  | .ok true => [⟨name, timeout⟩]
  | _ => []

theorem loadLeaves (name : String) (timeout : Int) (s : Session) :
    ∃ log, ((load name timeout).on s).2 =
      { s with log, requests := s.requests ++ requestsFor name timeout } := by
  unfold load requestsFor
  rw [onBind, onLift]
  cases web : Format.isUrl name with
  | error failure => exact ⟨s.log, by simp⟩
  | ok isWeb =>
    cases isWeb with
    | true => exact loadUrlRequests web timeout s
    | false =>
      have logs : (do
          let data ← loadFile (Path.ofText name)
          note .info s!"Loaded entities from {name}"
          return (name, data) : Activity (String × Value)).Logs :=
        logsBind (loadDocumentLogs _) fun _ => logsBind (logsNote _ _ _) fun _ => logsPure _
      obtain ⟨log, wrote⟩ := logs s
      exact ⟨log, by simpa using wrote⟩

theorem loadAgain {s t : Session} (idle : s.Idle t) (name : String) (timeout : Int) :
    ((load name timeout).on t).1 = ((load name timeout).on s).1 ∧
      ((load name timeout).on s).2.Idle ((load name timeout).on t).2 := by
  obtain ⟨log, left⟩ := loadLeaves name timeout s
  obtain ⟨log', left'⟩ := loadLeaves name timeout t
  obtain ⟨_, _, _, rfl⟩ := idle
  refine ⟨?_, by rw [left, left']; exact ⟨_, _, _, rfl⟩⟩
  rw [loadResult, loadResult]
  cases web : Format.isUrl name with
  | error failure => rfl
  | ok isWeb =>
    cases isWeb with
    | true => exact (loadUrlResult _ web timeout).trans (loadUrlResult s web timeout).symm
    | false =>
      simp only [bind, Except.bind]
      rw [if_neg (by decide), if_neg (by decide), loadFileResult, loadFileResult]

end Sessions

end Document

section Runs
open Command
open Terminal (escape Printable)
variable (base : Path) (settings : Settings) (verbose : Bool)

def titleLine (source : String) : Line := ⟨s!"\n📄 [bold]{escape source}[/bold]", "\n"⟩

def faultLine (failure : Failure) : Line := ⟨s!"  [red]✗ {escape failure.message}[/red]", "\n"⟩

theorem titlePrintable (source : String) : Printable (titleLine source).markup := by
  have style : Terminal.styleName "bold".toList = .ok "bold" := by decide
  have opens : (Terminal.marks "\n📄 [bold]".toList).foldlM Terminal.applyTag [] = .ok ["bold"] := by
    have tags : Terminal.marks "\n📄 [bold]".toList = ["bold".toList] := by decide
    have first : Terminal.applyTag [] "bold".toList = .ok ["bold"] := rfl
    rw [tags, List.foldlM_cons, first]
    rfl
  have closes : Terminal.applyTag ["bold"] ('/' :: "bold".toList) = .ok [] := by
    have name : Terminal.tagName ('/' :: "bold".toList) = '/' :: "bold".toList := by decide
    have bare : Text.strip "bold".toList = "bold".toList := by decide
    unfold Terminal.applyTag
    simp only [name, bare, style]
    rfl
  exact Terminal.printableEscaped "\n📄 [bold]" "bold".toList (by decide) opens rfl (by decide) closes
    source

theorem faultPrintable (failure : Failure) : Printable (faultLine failure).markup :=
  messagePrintable "  [red]✗ " (by decide) (by rfl) failure.message

end Runs

end EntityForge
