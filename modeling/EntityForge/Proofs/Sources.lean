import EntityForge.Proofs.Bundles

/-! The texts of generated files. A formatted text ends with the line ending and keeps a visible first
character; a PHP class starts like every PHP file and is therefore no JSON document. -/
namespace EntityForge
open Activity

theorem formattedEnds {name ending content : String} {template : Template} {scope : Scope}
    {options : Options} (ok : renderFormatted name template scope options = .ok content)
    (given : options.lineEnding = .text ending) :
    ∃ front, content.toList = front ++ ending.toList := by
  obtain ⟨code, _, ok⟩ := exceptBindOk ok
  rw [given] at ok
  cases ok
  exact ⟨_, String.toList_ofList⟩

theorem formatHead {c : Char} (visible : Text.isBlank c = false) (tail ending : List Char) :
    ∃ rest, Format.format ending (c :: tail) = c :: rest := by
  have solid : (c == '\n') = false := by
    rw [beq_eq_false_iff_ne]
    rintro rfl
    exact absurd visible (by decide)
  obtain ⟨piece, pieces, cut⟩ : ∃ piece pieces, Text.lines (c :: tail) = (c :: piece) :: pieces := by
    unfold Text.lines Text.splitAt
    rw [if_neg (by simp [solid])]
    split <;> exact ⟨_, _, rfl⟩
  obtain ⟨kept, strip⟩ : ∃ kept, Text.stripEnd (c :: piece) = c :: kept := by
    unfold Text.stripEnd
    split
    · exact ⟨[], by simp [visible]⟩
    · exact ⟨_, rfl⟩
  obtain ⟨more, lines⟩ : ∃ more, Format.normalLines (c :: tail) = (c :: kept) :: more := by
    unfold Format.normalLines
    rw [cut, Format.squeeze, strip]
    dsimp only
    unfold Format.dropTail
    split
    · exact ⟨[], by simp⟩
    · exact ⟨_, rfl⟩
  unfold Format.format
  rw [lines]
  cases more with
  | nil => exact ⟨_, rfl⟩
  | cons next others => exact ⟨_, rfl⟩

theorem templateHead {scope : Scope} {code : String} {line : String} {texts : List String} {blocks : Template}
    (ok : Template.render (.lines (line :: texts) :: blocks) scope = .ok code) :
    ∃ rest, code.toList = line.toList ++ rest := by
  unfold Template.render at ok
  rw [Template.fillAll, Template.Block.fill] at ok
  cases filled : Template.fillAll scope blocks with
  | error fault => simp [filled, bind, Except.bind] at ok
  | ok lines =>
    simp only [filled, bind, Except.bind, pure, Except.pure, Except.ok.injEq] at ok
    subst ok
    simp [Template.textOf, String.toList_join]

theorem formattedBegins {name ending content : String} {scope : Scope} {options : Options}
    {line : String} {texts : List String} {blocks : Template} {c : Char} {tail : List Char}
    (ok : renderFormatted name (.lines (line :: texts) :: blocks) scope options = .ok content)
    (given : options.lineEnding = .text ending) (first : line.toList = c :: tail)
    (visible : Text.isBlank c = false) : ∃ rest, content.toList = c :: rest := by
  obtain ⟨code, rendered, ok⟩ := exceptBindOk ok
  rw [given] at ok
  cases ok
  obtain ⟨rest, begins⟩ : ∃ rest, code.toList = c :: rest := by
    unfold renderPlain at rendered
    split at rendered
    next filled =>
      cases rendered
      obtain ⟨rest, shape⟩ := templateHead filled
      exact ⟨tail ++ rest, by rw [shape, first]; rfl⟩
    next => cases rendered
    next => cases rendered
  obtain ⟨more, formatted⟩ := formatHead visible rest ending.toList
  exact ⟨more, by rw [String.toList_ofList, begins, formatted]⟩

theorem doctrineClassText {c : Call} {key raw : Value} {e : Entity} {main : Artifact}
    {others : List Artifact} {ending : String} (target : c.target = .doctrine)
    (ok : c.render key raw = .ok (e, main :: others)) (given : c.options.lineEnding = .text ending) :
    (∃ rest, main.content.toList = '<' :: rest) ∧
      ∃ front, main.content.toList = front ++ ending.toList := by
  obtain ⟨_, _, _, _, emitted⟩ := Call.renderOk ok
  rw [target] at emitted
  obtain ⟨_, _, _, _, _, _, rendered, _, _, _, same⟩ := Emit.Doctrine.artifactsOk.mp emitted
  cases same
  exact ⟨formattedBegins rendered given rfl (by decide), formattedEnds rendered given⟩

theorem jsonRefuses {text : String} {rest : List Char} (begins : text.toList = '<' :: rest) :
    Json.parse text = .error .malformed := by
  unfold Json.parse
  rw [begins]
  have start : Json.skipSpace ('<' :: rest) = '<' :: rest := by
    simp [Json.skipSpace, Json.isSpace]
  dsimp only
  rw [start]
  have scalar : Json.readScalar ('<' :: rest) = .error .malformed := by
    simp [Json.readScalar, Json.afterWord?, Json.readNumber, Json.spanDigits]
  simp only [Json.readValue, scalar]
  rfl
theorem textOfUtf8 (s : String) :
    Document.textOf s.toUTF8 = .ok (String.ofList (Document.plainBreaks s.toList)) := by
  have read : String.fromUTF8? s.toUTF8 = some s := by
    simp only [String.fromUTF8?, String.toUTF8_eq_toByteArray, s.isValidUTF8, dite_true]
    rfl
  unfold Document.textOf
  rw [read]

theorem documentRefused {s : Session} {p : Path} {content : String} {rest : List Char}
    (clean : p.hasNul = false) (json : Format.detect p.name = .ok .json)
    (there : s.tree.stat s.cwd p = .ok (.file content.toUTF8)) (begins : content.toList = '<' :: rest) :
    ∃ fault t, (Document.loadFile p).on s = (.error (.document fault), t) := by
  have text : (String.ofList (Document.plainBreaks content.toList)).toList =
      '<' :: Document.plainBreaks rest := by
    rw [begins, String.toList_ofList]
    rfl
  have refused : Document.read .json (String.ofList (Document.plainBreaks content.toList)) p.text =
      .error (.document (.malformed Format.json.title p.text)) := by
    unfold Document.read
    dsimp only
    rw [jsonRefuses text]
    rfl
  unfold Document.loadFile
  rw [onBind, Document.note, onNote]
  dsimp only
  rw [onBind, onGet]
  dsimp only
  rw [onBind, onLift]
  unfold Document.fileAt?
  rw [if_neg (by simp [clean]), there]
  dsimp only
  rw [onBind, onLift, textOfUtf8]
  dsimp only
  rw [onBind, onLift, json]
  dsimp only
  rw [onLift, refused]
  exact ⟨_, _, rfl⟩

theorem loadRefused {s : Session} {p : Path} {content : String} {rest : List Char}
    (clean : p.hasNul = false) (json : Format.detect p.name = .ok .json)
    (there : s.tree.stat s.cwd p = .ok (.file content.toUTF8)) (begins : content.toList = '<' :: rest) :
    ∃ failure, ((Config.loadFile p).on s).1 = .error failure := by
  have present : (Config.isPresent p).on s = (.ok true, s) := by
    unfold Config.isPresent
    rw [onBind, onGet]
    dsimp only
    rw [if_neg (by simp [clean]), FileTree.exists?, there]
    rfl
  obtain ⟨fault, t, refused⟩ := documentRefused clean json there begins
  unfold Config.loadFile
  rw [onBind, present]
  dsimp only
  rw [if_neg (by simp)]
  unfold Config.readEntries
  rw [onBind, onTryCatch, refused]
  exact ⟨_, rfl⟩

end EntityForge
