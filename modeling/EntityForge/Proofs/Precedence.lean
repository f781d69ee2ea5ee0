import EntityForge.Proofs.Activities
import EntityForge.Proofs.Keys

/-! Which value an option gets. What is given directly comes before what the file says, the file before
the default, and of several values for one option the last counts. Options that no generator knows go to
the custom options, where they come before what is there. -/
namespace EntityForge
open Activity Value

namespace Options
variable {target : String} {file filed given c : Entries} {key : Value} {e : Value × Value}

inductive Concerns (target : String) (file : Entries) : Entries → Prop where
  | own {v : Value} {inner : Entries} (there : file.field? target = some v)
      (mapping : v.opened = .map inner) : Concerns target file inner
  | flat (none : ∀ v, file.field? target = some v → ∀ inner, v.opened ≠ .map inner) :
      Concerns target file file

theorem sectionConcerns (target : String) (file : Entries) :
    Concerns target file (section? target file) := by
  unfold section?
  split
  next inner own =>
    obtain ⟨v, there, mapping⟩ := Option.map_eq_some_iff.mp own
    exact .own there mapping
  next none => exact .flat fun v there inner mapping => none inner (by rw [there, Option.map_some, mapping])

theorem Concerns.eq (concerns : Concerns target file filed) : filed = section? target file := by
  unfold section?
  cases concerns with
  | own there mapping => rw [there, Option.map_some, mapping]
  | flat none =>
    split
    next inner own =>
      obtain ⟨v, there, mapping⟩ := Option.map_eq_some_iff.mp own
      exact absurd mapping (none v there inner)
    next => rfl

def given? (entries : Entries) (key : Value) : Option Value :=
  Entries.last? (entries.map fun e => (optionKey e.1, e.2)) key

def winning (filed given : Entries) (key : Value) : Option Value :=
  (given? given key).or (given? filed key)

def merged (filed given : Entries) : Entries := Entries.update (canonical filed) (canonical given)

theorem canonicalApart (entries : Entries) : Entries.Apart (canonical entries) := Entries.ofPairsApart _

theorem canonicalGet (entries : Entries) (key : Value) :
    Entries.get? (canonical entries) key = given? entries key := Entries.getOfPairs _ key

theorem mergedApart (filed given : Entries) : Entries.Apart (merged filed given) :=
  Entries.updateApart (canonicalApart filed) _

theorem mergedGet (filed given : Entries) (key : Value) :
    Entries.get? (merged filed given) key = winning filed given key := by
  rw [merged, Entries.getUpdate, Entries.lastApart (canonicalApart given), canonicalGet, canonicalGet]
  rfl

theorem mergedKeeps (member : e ∈ filed ++ given) :
    ∃ e' ∈ merged filed given, Alike e'.1 (optionKey e.1) := by
  have own (entries : Entries) (member : e ∈ entries) :
      ∃ e' ∈ canonical entries, Alike e'.1 (optionKey e.1) :=
    (Entries.updateKeeps [] _).1 (optionKey e.1, e.2) (List.mem_map_of_mem member)
  obtain ⟨direct, kept⟩ := Entries.updateKeeps (canonical filed) (canonical given)
  rcases List.mem_append.mp member with there | there
  · obtain ⟨e', there, alike⟩ := own filed there
    obtain ⟨e'', there, same⟩ := kept e' there
    exact ⟨e'', there, same ▸ alike⟩
  · obtain ⟨e', there, alike⟩ := own given there
    obtain ⟨e'', there, first⟩ := direct e' there
    exact ⟨e'', there, first.trans alike⟩

theorem mergedOrigin (member : e ∈ merged filed given) :
    ∃ e' ∈ filed ++ given, Alike e.1 (optionKey e'.1) := by
  have own (entries : Entries) {e : Value × Value} (member : e ∈ canonical entries) :
      ∃ e' ∈ entries, Alike e.1 (optionKey e'.1) := by
    rcases Entries.memberUpdate member with none | ⟨pair, there, _, alike⟩
    · cases none
    · obtain ⟨e', source, rfl⟩ := List.mem_map.mp there
      exact ⟨e', source, alike⟩
  rcases Entries.memberUpdate member with there | ⟨pair, there, _, alike⟩
  · obtain ⟨e', there, alike⟩ := own filed there
    exact ⟨e', List.mem_append_left _ there, alike⟩
  · obtain ⟨e', there, first⟩ := own given there
    exact ⟨e', List.mem_append_right _ there, alike.trans first⟩

theorem unknownAlike {a b : Value} (alike : Alike a b) : isUnknown a = isUnknown b := by
  rcases alike with rfl | same
  · rfl
  · cases a <;> cases b <;> first | rfl | (simp [sameKey, Value.asInteger] at same)
    rw [same]

def strangers (filed given : Entries) : Entries := (merged filed given).filter fun e => isUnknown e.1

theorem strangersLast (filed given : Entries) (key : Value) :
    Entries.last? (strangers filed given) key =
      if isUnknown key then winning filed given key else none := by
  rw [strangers, Entries.lastFilter fun _ _ same => unknownAlike (.inr same),
    Entries.lastApart (mergedApart filed given), mergedGet]

structure Chosen (filed given : Entries) (o : Options) : Prop where
  header : o.header = ((winning filed given (.text "add_header")).map (·.flag true)).getD true
  comments : o.comments = ((winning filed given (.text "add_comments")).map (·.flag true)).getD true
  lineEnding : o.lineEnding = (winning filed given (.text "line_ending")).getD (.text "\n")
  xmlOutDir : o.xmlOutDir = (winning filed given (.text "xml_out_dir")).getD .null

structure Collected (filed given asked custom : Entries) : Prop where
  holds : ∀ key, Entries.get? custom key =
    if isUnknown key then (winning filed given key).or (Entries.get? asked key)
    else Entries.get? asked key
  kept : ∀ e ∈ filed ++ given, isUnknown (optionKey e.1) = true →
    ∃ e' ∈ custom, Alike e'.1 (optionKey e.1)
  known : ∀ e ∈ custom, isUnknown e.1 = false → e ∈ asked

theorem collected (filed given c : Entries) :
    Collected filed given c (Entries.update c (strangers filed given)) where
  holds key := by
    rw [Entries.getUpdate, strangersLast]
    split <;> rfl
  kept e member unknown := by
    obtain ⟨e', there, alike⟩ := mergedKeeps member
    have stranger : e' ∈ strangers filed given :=
      List.mem_filter.mpr ⟨there, (unknownAlike alike).trans unknown⟩
    obtain ⟨e'', there, first⟩ := (Entries.updateKeeps c _).1 e' stranger
    exact ⟨e'', there, first.trans alike⟩
  known e member known := by
    rcases Entries.memberUpdate member with there | ⟨pair, there, _, alike⟩
    · exact there
    · have unknown := (List.mem_filter.mp there).2
      rw [← unknownAlike alike, known] at unknown
      cases unknown

theorem mergedField (filed given : Entries) (name : String) :
    Entries.field? (merged filed given) name = winning filed given (.text name) :=
  mergedGet filed given (.text name)

theorem ofEntriesChosen {o : Options} (ok : ofEntries (merged filed given) = .ok o) :
    Chosen filed given o := by
  unfold ofEntries at ok
  simp only [mergedField] at ok
  split at ok
  · cases ok
    constructor <;> first | rfl | (dsimp only; split <;> simp [*])
  · split at ok
    · cases ok
      constructor <;> first | rfl | (dsimp only; split <;> simp [*])
    · cases ok

theorem ofEntriesPlain (plain : strangers filed given = []) :
    ∃ o, ofEntries (merged filed given) = .ok o ∧
      o.custom = (winning filed given (.text "custom")).getD (.map []) := by
  unfold strangers at plain
  unfold ofEntries
  simp only [mergedField, plain, List.isEmpty_nil, if_true]
  exact ⟨_, rfl, rfl⟩

theorem ofEntriesCustom (asked : ((winning filed given (.text "custom")).getD (.map [])).opened = .map c) :
    ∃ o, ofEntries (merged filed given) = .ok o ∧
      (o.custom = .map (Entries.update c (strangers filed given)) ∨
        o.custom = (winning filed given (.text "custom")).getD (.map [])) ∧
      o.custom.opened = .map (Entries.update c (strangers filed given)) := by
  cases plain : strangers filed given with
  | nil =>
    obtain ⟨o, ok, custom⟩ := ofEntriesPlain plain
    exact ⟨o, ok, .inr custom, (congrArg opened custom).trans asked⟩
  | cons e rest =>
    unfold strangers at plain
    unfold ofEntries
    simp only [mergedField, plain, asked, entriesOf?]
    exact ⟨_, rfl, .inl rfl, rfl⟩

theorem strangersNone (none : ∀ e ∈ filed ++ given, isUnknown (optionKey e.1) = false) :
    strangers filed given = [] := by
  refine List.filter_eq_nil_iff.mpr fun e member => ?_
  obtain ⟨e', there, alike⟩ := mergedOrigin member
  rw [unknownAlike alike, none e' there]
  exact Bool.false_ne_true

end Options

open Options

/- The options that a target gets from a file and from what is given directly. Options come about if none
are unknown, and if the custom options are not given or are a mapping; without unknown options they are
what is given, else a mapping of their own. -/
theorem optionPrecedence (target : String) {custom file : Value} {entries given : Entries} {s t : Session}
    (read : (Config.loadNamed file).on s = (.ok entries, t))
    (asked : Config.overrides custom = .ok given) :
    ∃ filed result, Concerns target entries filed ∧
      (Config.load target custom file).on s = (result, t) ∧
      (∀ o, result = .ok o → Chosen filed given o) ∧
      ((∀ e ∈ filed ++ given, isUnknown (optionKey e.1) = false) →
        ∃ o, result = .ok o ∧ o.custom = (winning filed given (.text "custom")).getD (.map [])) ∧
      ∀ c, ((winning filed given (.text "custom")).getD (.map [])).opened = .map c →
        ∃ o all, result = .ok o ∧
          (o.custom = .map all ∨ o.custom = (winning filed given (.text "custom")).getD (.map [])) ∧
          o.custom.opened = .map all ∧ Collected filed given c all := by
  refine ⟨section? target entries, ofEntries (merged (section? target entries) given),
    sectionConcerns target entries, ?_, fun o => ofEntriesChosen,
    fun none => ofEntriesPlain (strangersNone none), fun c asked => ?_⟩
  · unfold Config.load
    rw [onBindReturns read, onBind, onLift, asked]
    exact onLift _ t
  · obtain ⟨o, ok, custom, opened⟩ := ofEntriesCustom asked
    exact ⟨o, _, ok, custom, opened, collected _ given c⟩

def optionFile : String :=
  "\x7b\"ef\":\x7b\"addComments\":\"no\",\"size\":2,\"custom\":\x7b\"size\":4\x7d\x7d\x7d"

def optionSession : Session :=
  { cwd := ["w"], tree := ⟨[(["w"], .directory), (["w", "options.json"], .file optionFile.toUTF8)]⟩ }

def directOptions : Entries :=
  [(.text "add_header", .bool true), (.text "addHeader", .text "0"), (.text "quotes", .text "single")]

def sectionShape (entries : Entries) : Bool :=
  let filed := section? "ef" entries
  match winning filed directOptions (.text "custom"), winning filed directOptions (.text "add_comments") with
  | some (.map _), some comments => !comments.flag true
  | _, _ => false

theorem sectionPrecedence : ∃ entries filed asked all o t,
    (Config.loadNamed (.text "options.json")).on optionSession = (.ok entries, t) ∧
      Config.overrides (.map directOptions) = .ok directOptions ∧ Concerns "ef" entries filed ∧
      winning filed directOptions (.text "custom") = some (.map asked) ∧
      (Config.load "ef" (.map directOptions) (.text "options.json")).on optionSession = (.ok o, t) ∧
      o.header = false ∧ o.comments = false ∧ o.custom = .map all ∧
      Collected filed directOptions asked all := by
  obtain ⟨entries, t, read, shape⟩ := @showsOk _ (Config.loadNamed (.text "options.json")) optionSession
    (fun entries _ => sectionShape entries) (by decide +kernel)
  obtain ⟨filed, result, concerns, load, chosen, _, custom⟩ :=
    @optionPrecedence "ef" (.map directOptions) _ _ _ _ _ read rfl
  unfold sectionShape at shape
  rw [← concerns.eq] at shape
  dsimp only at shape
  split at shape
  next asked comments mapping wanted =>
    obtain ⟨o, all, rfl, given, opened, collected⟩ := custom asked (by rw [mapping]; rfl)
    have extended : o.custom = .map all := by
      rcases given with extended | given
      · exact extended
      · rw [mapping] at given
        rw [given] at opened ⊢
        exact opened
    have chosen := chosen o rfl
    have header : winning filed directOptions (.text "add_header") = some (.text "0") := rfl
    refine ⟨entries, filed, asked, all, o, t, read, rfl, concerns, mapping, load, ?_, ?_, extended, collected⟩
    · rw [chosen.header, header]
      decide +kernel
    · rw [chosen.comments, wanted]
      simpa using shape
  next => cases shape

end EntityForge
