import EntityForge.Command.Run
import EntityForge.Proofs.Activities
import Mathlib.Data.List.Induction

/-! The settings of a run from all their sources, the configuration files in order and then the
command line. Each setting has a rule of its own: a flag is what its last mention says, unless the
command line sets it; lists grow; of the directories that are not blank the last one counts. -/
namespace EntityForge
open Activity

def Target.flagName : Target → String
  | .doctrine => "doctrine"
  | .entityFramework => "entityFramework"
  | .entityFrameworkCore => "entityFrameworkCore"

def Command.Arguments.selects (a : Command.Arguments) : Target → Bool
  | .doctrine => a.doctrine
  | .entityFramework => a.entityFramework
  | .entityFrameworkCore => a.entityFrameworkCore

namespace Text

theorem trimEmpty {s : String} : trim s = "" ↔ allBlank s.toList = true := by
  rw [trim, String.ofList_eq_empty_iff, strip, stripEndNil, stripStart, allBlank,
    List.all_eq_true]
  constructor
  · intro blank c there
    rw [← List.takeWhile_append_dropWhile (p := isBlank) (l := s.toList)] at there
    rcases List.mem_append.mp there with front | back
    · exact List.all_eq_true.mp List.all_takeWhile c front
    · exact blank c back
  · exact fun blank c there => blank c ((List.dropWhile_suffix _).subset there)

end Text

namespace Settings
variable {sources : List Entries} {s : Settings} {a : Command.Arguments}

def mentions (sources : List Entries) (name : String) : List Value :=
  sources.filterMap fun entries => Entries.field? entries name

def listed (v : Value) : List Value :=
  match v.opened with
  | .list items => items
  | .tuple items => items
  | _ => [v]

def isSaid : Value → Bool
  | .null => false
  | v => !Text.allBlank v.display.toList

def said (sources : List Entries) (name : String) : List String :=
  (((mentions sources name).flatMap listed).filter isSaid).map Value.display

def lastSaid? (sources : List Entries) (name : String) : Option String :=
  (((mentions sources name).filter isSaid).map Value.display).getLast?

theorem mentionsLast (sources : List Entries) (entries : Entries) (name : String) :
    mentions (sources ++ [entries]) name =
      mentions sources name ++ (Entries.field? entries name).toList := by
  rw [mentions, List.filterMap_append]
  cases found : Entries.field? entries name <;> simp [mentions, found]

theorem pickSaid (f : Value → String) (v : Value) :
    (match v with
      | .null => none
      | v => if Text.trim v.display = "" then none else some (f v)) =
      if isSaid v then some (f v) else none := by
  have either (blank : Bool) (x : String) :
      (if blank = true then none else some x) = if (!blank) = true then some x else none := by
    cases blank <;> rfl
  cases v with
  | null => rfl
  | _ =>
    simp only [isSaid, Text.trimEmpty]
    exact either _ _

theorem keepSaid (items : List Value) :
    texts.keep items = (items.filter isSaid).map Value.display := by
  rw [texts.keep, ← List.filterMap_eq_map, List.filterMap_filter]
  exact congrArg (items.filterMap ·) (funext fun v => pickSaid Value.display v)

theorem textsSaid (v : Value) : texts v = ((listed v).filter isSaid).map Value.display := by
  unfold texts listed
  cases shape : v.opened with
  | null =>
    obtain rfl := Value.openedNull shape
    rfl
  | _ => exact keepSaid _

theorem trimmedSaid (v : Value) :
    trimmed? v = if isSaid v then some (Text.trim v.display) else none := by
  unfold trimmed?
  exact pickSaid (fun v => Text.trim v.display) v

theorem flagLast (entries : Entries) (name : String) (before : Bool) :
    flagOr entries name before = ((Entries.field? entries name).map (·.flag)).getD before := by
  unfold flagOr
  cases Entries.field? entries name <;> rfl

theorem mergeSelects (s : Settings) (entries : Entries) (t : Target) :
    (s.merge entries).selects t = flagOr entries t.flagName (s.selects t) := by
  cases t <;> rfl

theorem foldSelects (sources : List Entries) (s : Settings) (t : Target) :
    (sources.foldl merge s).selects t =
      ((mentions sources t.flagName).getLast?.map (·.flag)).getD (s.selects t) := by
  induction sources using List.reverseRecOn with
  | nil => rfl
  | append_singleton front entries ih =>
    rw [List.foldl_append, List.foldl_cons, List.foldl_nil, mergeSelects, flagLast, mentionsLast, ih]
    cases Entries.field? entries t.flagName <;> simp

theorem saidLast (sources : List Entries) (entries : Entries) (name : String) :
    said (sources ++ [entries]) name =
      said sources name ++ texts ((Entries.field? entries name).getD .null) := by
  rw [said, mentionsLast, List.flatMap_append, List.filter_append, List.map_append, textsSaid]
  cases Entries.field? entries name with
  | none => rfl
  | some v => simp [said]

theorem foldSaid {grown : Settings → List String} {name : String}
    (grows : ∀ s entries, grown (s.merge entries) =
      grown s ++ texts ((Entries.field? entries name).getD .null))
    (sources : List Entries) (s : Settings) :
    grown (sources.foldl merge s) = grown s ++ said sources name := by
  induction sources using List.reverseRecOn with
  | nil => exact (List.append_nil _).symm
  | append_singleton front entries ih =>
    rw [List.foldl_append, List.foldl_cons, List.foldl_nil, grows, saidLast, ← List.append_assoc, ih]

theorem lastSaidLast (sources : List Entries) (entries : Entries) (name : String) :
    (lastSaid? (sources ++ [entries]) name).map Text.trim =
      (trimmed? ((Entries.field? entries name).getD .null)).or
        ((lastSaid? sources name).map Text.trim) := by
  rw [lastSaid?, mentionsLast, List.filter_append, List.map_append, trimmedSaid, lastSaid?]
  cases Entries.field? entries name with
  | none => simp [isSaid]
  | some v => by_cases there : isSaid v = true <;> simp [there]

theorem lastSaidVisible {name text : String} (last : lastSaid? sources name = some text) :
    Text.allBlank text.toList = false := by
  obtain ⟨v, there, rfl⟩ := List.mem_map.mp (List.mem_of_getLast? last)
  have visible := (List.mem_filter.mp there).2
  unfold isSaid at visible
  split at visible
  next => cases visible
  next => simpa using visible

theorem foldMappingDir (sources : List Entries) (s : Settings) :
    (sources.foldl merge s).mappingDir =
      ((lastSaid? sources "doctrineXmlOutDir").map Text.trim).or s.mappingDir := by
  induction sources using List.reverseRecOn with
  | nil => rfl
  | append_singleton front entries ih =>
    rw [List.foldl_append, List.foldl_cons, List.foldl_nil, lastSaidLast, Option.or_assoc, ← ih,
      Option.or_eq_orElse]
    rfl

def mappingOption (dir : Option String) : Target → Value
  | .doctrine => dir.elim .null .text
  | _ => .null

theorem optionsMapping (some : s.mappingDir ≠ some "") (t : Target) :
    ∃ o, s.options t = .ok o ∧ o.xmlOutDir = mappingOption s.mappingDir t := by
  unfold options
  cases t with
  | doctrine =>
    unfold overrides
    cases chosen : s.mappingDir with
    | none => exact ⟨_, rfl, rfl⟩
    | some dir =>
      have filled : dir ≠ "" := by
        rintro rfl
        exact some chosen
      simp only [if_neg filled]
      exact ⟨_, rfl, rfl⟩
  | entityFramework => exact ⟨_, rfl, rfl⟩
  | entityFrameworkCore => exact ⟨_, rfl, rfl⟩

/- The settings that a command line makes of what its configuration files say. -/
structure Combined (sources : List Entries) (a : Command.Arguments) (s : Settings) : Prop where
  selects : ∀ t : Target, s.selects t = true ↔ a.selects t = true ∨
    ∃ v, (mentions sources t.flagName).getLast? = some v ∧ v.flag = true
  inputFiles : s.inputFiles = said sources "inputFiles" ++ a.files
  outDirs : s.outDirs = said sources "outDir" ++ a.out
  mappingDir : s.mappingDir = ((a.mappingDir.filter fun dir => !Text.allBlank dir.toList).or
    (lastSaid? sources "doctrineXmlOutDir")).map Text.trim
  targets : s.targets.Sublist [.doctrine, .entityFramework, .entityFrameworkCore] ∧
    ∀ t, t ∈ s.targets ↔ s.selects t = true
  options : ∀ t, ∃ o, s.options t = .ok o ∧ o.xmlOutDir = mappingOption s.mappingDir t

end Settings

namespace Command
open Settings
variable {a : Arguments} {sources : List Entries} {s : Session}

def Loads (s : Session) (file : String) (entries : Entries) : Prop :=
  ∃ t, (Config.loadFile ((Path.ofLocation s.cwd).child file)).on s = (.ok entries, t)

theorem mergeFilesOn {files : List String} (loaded : List.Forall₂ (Loads s) files sources)
    (log : List Log.Record) (settings : Settings) :
    ∃ log', (files.foldlM (fun (settings : Settings) file =>
      settings.mergeFile ((Path.ofLocation s.cwd).child file)) settings).on { s with log } =
      (.ok (sources.foldl merge settings), { s with log := log' }) := by
  induction loaded generalizing log settings with
  | nil => exact ⟨log, rfl⟩
  | @cons file entries files sources first _ ih =>
    obtain ⟨t, read⟩ := first
    obtain ⟨log', wrote⟩ := loadFileLogs ((Path.ofLocation s.cwd).child file) { s with log }
    have again := loadFileReads ((Path.ofLocation s.cwd).child file) s { s with log } ⟨rfl, rfl⟩
    rw [read] at again
    have ran : (Config.loadFile ((Path.ofLocation s.cwd).child file)).on { s with log } =
        (.ok entries, { s with log := log' }) := Prod.ext again wrote
    have step : (settings.mergeFile ((Path.ofLocation s.cwd).child file)).on { s with log } =
        (.ok (settings.merge entries), { s with log := log' }) := by
      unfold mergeFile
      rw [onBindReturns ran]
      rfl
    obtain ⟨log'', done⟩ := ih log' (settings.merge entries)
    refine ⟨log'', ?_⟩
    rw [List.foldlM_cons, onBindReturns step]
    exact done

def adjusted (settings : Settings) (a : Arguments) : Settings where
  doctrine := settings.doctrine || a.doctrine
  entityFramework := settings.entityFramework || a.entityFramework
  entityFrameworkCore := settings.entityFrameworkCore || a.entityFrameworkCore
  inputFiles := settings.inputFiles ++ a.files
  outDirs := settings.outDirs ++ a.out
  mappingDir := ((a.mappingDir.map Text.trim).filter (· ≠ "")).orElse fun _ => settings.mappingDir

theorem adjustedSelects (settings : Settings) (a : Arguments) (t : Target) :
    (adjusted settings a).selects t = (settings.selects t || a.selects t) := by
  cases t <;> rfl

theorem adjustedMappingDir (settings : Settings) (a : Arguments) :
    (adjusted settings a).mappingDir =
      ((a.mappingDir.filter fun dir => !Text.allBlank dir.toList).map Text.trim).or
        settings.mappingDir := by
  unfold adjusted
  cases a.mappingDir with
  | none => rfl
  | some dir =>
    by_cases blank : Text.allBlank dir.toList = true
    · simp [Option.filter_some, blank, Text.trimEmpty.mpr blank]
    · simp [Option.filter_some, blank, Text.trimEmpty]

theorem adjustedMappingSome (sources : List Entries) (a : Arguments) :
    (adjusted (sources.foldl Settings.merge {}) a).mappingDir ≠ some "" := by
  rw [adjustedMappingDir, foldMappingDir, Option.or_none, ← Option.map_or]
  intro empty
  obtain ⟨text, chosen, trimmed⟩ := Option.map_eq_some_iff.mp empty
  rcases Option.or_eq_some_iff.mp chosen with asked | ⟨_, last⟩
  · have visible := (Option.filter_eq_some_iff.mp asked).2
    rw [Text.trimEmpty.mp trimmed] at visible
    cases visible
  · have visible := lastSaidVisible last
    rw [Text.trimEmpty.mp trimmed] at visible
    cases visible

theorem adjustedCombined (sources : List Entries) (a : Arguments) :
    Combined sources a (adjusted (sources.foldl Settings.merge {}) a) where
  selects t := by
    rw [adjustedSelects, foldSelects, Bool.or_eq_true, or_comm]
    cases (mentions sources t.flagName).getLast? with
    | none => cases t <;> simp [Settings.selects]
    | some v => simp
  inputFiles := by
    have grown := @foldSaid Settings.inputFiles _ (fun _ _ => rfl) sources {}
    exact congrArg (· ++ a.files) grown
  outDirs := by
    have grown := @foldSaid Settings.outDirs _ (fun _ _ => rfl) sources {}
    exact congrArg (· ++ a.out) grown
  mappingDir := by
    rw [adjustedMappingDir, foldMappingDir, Option.or_none, ← Option.map_or]
  targets := ⟨List.filter_sublist, fun t => by cases t <;> simp [Settings.targets, Target.all]⟩
  options := optionsMapping (adjustedMappingSome sources a)

end Command

open Command

theorem settingsCombined {s : Session} {a : Arguments} {sources : List Entries}
    (loaded : List.Forall₂ (Loads s) a.config sources) :
    ∃ settings t, (buildSettings a).on s = (.ok settings, t) ∧
      Settings.Combined sources a settings := by
  obtain ⟨log, merged⟩ := mergeFilesOn loaded s.log {}
  refine ⟨adjusted (sources.foldl Settings.merge {}) a, { s with log }, ?_, adjustedCombined sources a⟩
  unfold buildSettings
  rw [onBind, onGet]
  dsimp only
  rw [onBindReturns merged]
  rfl

def firstFile : String :=
  "\x7b\"doctrine\":1,\"inputFiles\":[\"x\",null,\" y\"],\"doctrineXmlOutDir\":\"m \"\x7d"

def secondFile : String := "\x7b\"doctrine\":\"no\",\"inputFiles\":\"z\"\x7d"

def filesSession : Session :=
  { cwd := ["w"]
    tree := ⟨[(["w"], .directory), (["w", "a.json"], .file firstFile.toUTF8),
      (["w", "b.json"], .file secondFile.toUTF8)]⟩ }

def filesArguments : Arguments :=
  { config := ["a.json", "b.json"], entityFrameworkCore := true, files := ["e.json"] }

theorem filesCombined :
    Arguments.parse ["-c", "a.json", "-c", "b.json", "--efc", "e.json"] =
      .ok filesArguments ∧
    ∃ sources settings t, List.Forall₂ (Loads filesSession) filesArguments.config sources ∧
      (buildSettings filesArguments).on filesSession = (.ok settings, t) ∧
      settings = { entityFrameworkCore := true, inputFiles := ["x", " y", "z", "e.json"],
                   mappingDir := some "m" } ∧
      Settings.Combined sources filesArguments settings := by
  refine ⟨by rfl, ?_⟩
  obtain ⟨first, _, read, _⟩ := @showsOk _ (Config.loadFile ((Path.ofLocation ["w"]).child "a.json"))
    filesSession (fun _ _ => true) (by decide +kernel)
  obtain ⟨second, _, read', _⟩ := @showsOk _ (Config.loadFile ((Path.ofLocation ["w"]).child "b.json"))
    filesSession (fun _ _ => true) (by decide +kernel)
  have loaded : List.Forall₂ (Loads filesSession) filesArguments.config [first, second] :=
    .cons ⟨_, read⟩ (.cons ⟨_, read'⟩ .nil)
  obtain ⟨settings, t, ran, combined⟩ := @settingsCombined filesSession filesArguments _ loaded
  obtain ⟨settings', t', ran', same⟩ := @showsOk _ (buildSettings filesArguments) filesSession
    (fun settings _ => settings =
      { entityFrameworkCore := true, inputFiles := ["x", " y", "z", "e.json"],
        mappingDir := some "m" }) (by decide +kernel)
  rw [ran] at ran'
  cases ran'
  exact ⟨_, settings, t, loaded, ran, of_decide_eq_true same, combined⟩

end EntityForge
