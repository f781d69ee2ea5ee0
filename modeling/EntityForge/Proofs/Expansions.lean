import EntityForge.Proofs.FileOrder
import EntityForge.Proofs.Firsts
import EntityForge.Proofs.Screens
import EntityForge.Proofs.Searches

/-! What a list of patterns stands for: the files that one of its searches finds, each once and in the
order of files, then its addresses, each once and in the order of the list. How often and in which order
a search reports a file does not matter, except between files that differ only in case. -/
namespace EntityForge

theorem FileTree.followSteps {t : FileTree} (wf : t.WellFormed) {l m : Location}
    (here : t.get? l = some .directory) {names : List String} (led : t.follow l names = .ok m) :
    names.foldl Path.step l = m := by
  rcases List.eq_nil_or_concat names with rfl | ⟨front, last, rfl⟩
  · cases led
    rfl
  · rw [List.concat_eq_append, followSnoc] at led
    rw [List.concat_eq_append, List.foldl_append]
    cases reached : t.reach l front with
    | error obstacle => simp [reached] at led
    | ok inner =>
      rw [reached] at led
      rw [← (reachOk wf here reached).2.1]
      simp only [follow] at led
      simp only [List.foldl_cons, List.foldl_nil, Path.step]
      split at led
      next back =>
        cases led
        exact if_pos back
      next other =>
        split at led <;> cases led
        exact if_neg other

namespace InputFiles
open Activity FileTree
variable {t : FileTree} {cwd : Location} {p q : Path} {c : List Char} {comps : List (List Char)}

theorem thereLocated (there : isThere t cwd p = true) :
    ∃ l e, t.locate cwd p = .ok l ∧ t.get? l = some e := by
  rw [isThere, Bool.and_eq_true] at there
  unfold stat at there
  cases located : t.locate cwd p with
  | error obstacle => simp [located, Except.toBool] at there
  | ok l =>
    cases found : t.get? l with
    | none => simp [located, found, Except.toBool] at there
    | some e => exact ⟨l, e, rfl, found⟩

section There
variable (sound : t.Sound) (here : t.get? cwd = some .directory)
include sound here

theorem resolveLocated {l : Location} (located : t.locate cwd p = .ok l) :
    p.resolve cwd = .ofLocation l := by
  have begins := originDirectory here p
  unfold origin at begins
  have steps := followSteps sound.wellFormed begins located
  unfold Path.resolve Path.locate
  cases anchored : p.anchor <;> rw [anchored] at steps <;> exact congrArg _ steps

theorem listedThere {name : String} (listed : name ∈ listing t cwd p) :
    isThere t cwd (under p name) = true := by
  obtain ⟨clean, l, reached⟩ := (directoryIff sound.wellFormed here).mp
    (listingDirectory sound.wellFormed here listed)
  rw [listing, if_neg (by simp [clean]), reached] at listed
  have proper := sound.child listed
  exact (thereUnder sound.wellFormed here).mpr
    ⟨⟨clean, proper.clean⟩, l, reached, .inr ⟨proper.fits, memberChildren.mp listed⟩⟩

theorem insideThere (inner : Inside t cwd p q) : isThere t cwd q = true := by
  induction inner with
  | child listed => exact listedThere sound here listed
  | deeper _ _ _ ih => exact ih

theorem stepThere (step : Step t cwd c p q) : isThere t cwd q = true := by
  cases step with
  | all directory => exact directoryThere directory
  | inside inner => exact insideThere sound here inner
  | named _ _ listed => exact listedThere sound here listed
  | here directory => exact directoryThere directory
  | literal _ _ there => exact there

theorem leadsThere (begins : isThere t cwd p = true) (led : Leads t cwd comps p q) :
    isThere t cwd q = true := by
  induction comps generalizing p with
  | nil =>
    obtain rfl : p = q := led
    exact begins
  | cons c rest ih =>
    obtain ⟨inner, step, later⟩ := led
    exact ih (stepThere sound here step) later

theorem outsetThere (pattern : List Char) : isThere t cwd (outset pattern) = true :=
  directoryThere ((directoryIff sound.wellFormed here).mpr ⟨rfl, _, rfl⟩)

theorem memberFiles {places : List Path} (there : ∀ q ∈ places, isThere t cwd q = true) :
    p ∈ filesOf t cwd places ↔ ∃ q ∈ places, ∃ l content, t.locate cwd q = .ok l ∧
      t.get? l = some (.file content) ∧ p = .ofLocation l := by
  unfold filesOf
  rw [List.mem_filter, List.mem_map]
  constructor
  · rintro ⟨⟨q, member, rfl⟩, regular⟩
    obtain ⟨l, e, located, found⟩ := thereLocated (there q member)
    rw [resolveLocated sound here located] at regular ⊢
    simp only [Path.ofLocation, found] at regular
    cases e with
    | directory => cases regular
    | file content => exact ⟨q, member, l, content, located, found, rfl⟩
  · rintro ⟨q, member, l, content, located, found, rfl⟩
    exact ⟨⟨q, member, resolveLocated sound here located⟩, by simp [Path.ofLocation, found]⟩

end There

def asked (patterns : List Value) : List String :=
  (patterns.map fun pattern => Text.trim pattern.display).filter (· ≠ "")

def isAddress (text : String) : Bool :=
  match Format.isUrl text with
  | .ok web => web
  | .error _ => false

def addresses (patterns : List Value) : List String := (asked patterns).filter isAddress

def searched (patterns : List Value) : List String :=
  (asked patterns).filter fun text => !isAddress text

def Readable (t : FileTree) (cwd : Location) (base text : String) : Prop :=
  Format.isUrl text = .ok true ∨
    Format.isUrl text = .ok false ∧ ∃ places, find t cwd (fullPattern base text.toList) = .ok places

def reported (t : FileTree) (cwd : Location) (base text : String) : List Path :=
  match find t cwd (fullPattern base text.toList) with
  | .ok places => places
  | .error _ => []

def gathered (t : FileTree) (cwd : Location) (report : String → List Path) (patterns : List Value) :
    List Path :=
  (searched patterns).flatMap fun text => filesOf t cwd (report text)

def arranged (t : FileTree) (cwd : Location) (report : String → List Path) (patterns : List Value) :
    List Path :=
  (gathered t cwd report patterns).eraseDups.mergeSort before

section Collecting
variable {s u : Session} {base : String} {patterns : List Value}

theorem askedBlank {pattern : Value} (blank : Text.trim pattern.display = "") (rest : List Value) :
    asked (pattern :: rest) = asked rest := by
  simp [asked, blank]

theorem askedSome {pattern : Value} (some : Text.trim pattern.display ≠ "") (rest : List Value) :
    asked (pattern :: rest) = Text.trim pattern.display :: asked rest := by
  simp [asked, some]

theorem gatheredAddress {pattern : Value} (some : Text.trim pattern.display ≠ "")
    (web : Format.isUrl (Text.trim pattern.display) = .ok true) (report : String → List Path)
    (rest : List Value) : gathered t cwd report (pattern :: rest) = gathered t cwd report rest ∧
      addresses (pattern :: rest) = [Text.trim pattern.display] ++ addresses rest := by
  have address : isAddress (Text.trim pattern.display) = true := by rw [isAddress, web]
  simp [gathered, searched, addresses, askedSome some, address]

theorem gatheredSearch {pattern : Value} (some : Text.trim pattern.display ≠ "")
    (place : Format.isUrl (Text.trim pattern.display) = .ok false) (report : String → List Path)
    (rest : List Value) : gathered t cwd report (pattern :: rest) =
        filesOf t cwd (report (Text.trim pattern.display)) ++ gathered t cwd report rest ∧
      addresses (pattern :: rest) = addresses rest := by
  have address : isAddress (Text.trim pattern.display) = false := by rw [isAddress, place]
  simp [gathered, searched, addresses, askedSome some, address]

theorem collectReads (readable : ∀ text ∈ asked patterns, Readable s.tree s.cwd base text)
    (files : List Path) (urls : List String) (log : List Log.Record) :
    ∃ log', (collect base files urls patterns).on { s with log } =
      (.ok (addNew files (gathered s.tree s.cwd (reported s.tree s.cwd base) patterns),
        addNew urls (addresses patterns)), { s with log := log' }) := by
  induction patterns generalizing files urls log with
  | nil => exact ⟨log, rfl⟩
  | cons pattern rest ih =>
    unfold collect
    dsimp only
    by_cases blank : Text.trim pattern.display = ""
    · rw [if_pos blank]
      unfold gathered addresses searched
      rw [askedBlank blank] at readable ⊢
      exact ih readable files urls log
    · rw [if_neg blank]
      rw [askedSome blank] at readable
      obtain ⟨own, others⟩ := List.forall_mem_cons.mp readable
      rcases own with web | ⟨place, places, found⟩
      · obtain ⟨same, added⟩ := gatheredAddress blank web (reported s.tree s.cwd base) rest
        rw [same, added, ← addNewTwice, onBind, onLift, web]
        exact ih others files _ log
      · obtain ⟨added, same⟩ := gatheredSearch blank place (reported s.tree s.cwd base) rest
        have report : reported s.tree s.cwd base (Text.trim pattern.display) = places := by
          rw [reported, found]
        rw [same, added, ← addNewTwice, report, onBind, onLift, place]
        dsimp only
        rw [if_neg (by decide), onBind, onGet]
        dsimp only
        rw [onBind, onLift, found]
        dsimp only
        split
        · rw [onBind]
          exact ih others _ _ _
        · exact ih others _ _ _

theorem collectReadable {result : List Path × List String} {files : List Path} {urls : List String}
    (ran : (collect base files urls patterns).on s = (.ok result, u)) :
    ∀ text ∈ asked patterns, Readable s.tree s.cwd base text := by
  induction patterns generalizing files urls s with
  | nil => exact nofun
  | cons pattern rest ih =>
    unfold collect at ran
    dsimp only at ran
    by_cases blank : Text.trim pattern.display = ""
    · rw [if_pos blank] at ran
      rw [askedBlank blank]
      exact ih ran
    · rw [if_neg blank] at ran
      rw [askedSome blank]
      obtain ⟨web, v, told, ran⟩ := onBindOk ran
      rw [onLift] at told
      obtain ⟨split, rfl⟩ := Prod.mk.inj told
      cases web with
      | true =>
        rw [if_pos rfl] at ran
        exact List.forall_mem_cons.mpr ⟨.inl split, ih ran⟩
      | false =>
        rw [if_neg (by decide), onBind, onGet] at ran
        dsimp only at ran
        obtain ⟨places, v, told, ran⟩ := onBindOk ran
        rw [onLift] at told
        obtain ⟨found, rfl⟩ := Prod.mk.inj told
        refine List.forall_mem_cons.mpr ⟨.inr ⟨split, places, found⟩, ?_⟩
        split at ran
        · obtain ⟨_, _, noted, ran⟩ := onBindOk ran
          cases noted
          have later := ih ran
          exact later
        · exact ih ran

end Collecting

section Expanding
variable {s u : Session} {base : Path} {patterns : List Value} {names : List String}

theorem expandReads (readable : ∀ text ∈ asked patterns, Readable s.tree s.cwd base.text text) :
    ∃ u, (expand patterns base).on s =
      (.ok ((arranged s.tree s.cwd (reported s.tree s.cwd base.text) patterns).map Path.text ++
        (addresses patterns).eraseDups), u) := by
  obtain ⟨log, ran⟩ := collectReads readable [] [] s.log
  refine ⟨{ s with log }, ?_⟩
  unfold expand
  rw [onBindReturns ran, addNewFirst, addNewFirst]
  rfl

theorem expandOk (ran : (expand patterns base).on s = (.ok names, u)) :
    (∀ text ∈ asked patterns, Readable s.tree s.cwd base.text text) ∧
      names = (arranged s.tree s.cwd (reported s.tree s.cwd base.text) patterns).map Path.text ++
        (addresses patterns).eraseDups := by
  obtain ⟨_, _, collected, _⟩ := onBindOk ran
  have readable := collectReadable collected
  obtain ⟨v, again⟩ := expandReads readable
  rw [again] at ran
  cases ran
  exact ⟨readable, rfl⟩

theorem addressSplits {url : String} (listed : url ∈ addresses patterns) :
    Format.isUrl url = .ok true := by
  have address := (List.mem_filter.mp listed).2
  unfold isAddress at address
  split at address
  next web split => rw [split, address]
  next => cases address

theorem schemeSlash (rest : List Char) : (Url.splitScheme ('/' :: rest)).1 = [] := by
  have cut : Text.cutAt [':'] ('/' :: rest) =
      (Text.cutAt [':'] rest).map fun cut => ('/' :: cut.1, cut.2) := by
    rw [Text.cutAt]
    exact if_neg (by simp)
  rw [Url.splitScheme, cut]
  cases Text.cutAt [':'] rest with
  | none => rfl
  | some pieces => rfl

theorem addressHead {url : String} (web : Format.isUrl url = .ok true) :
    url.toList.head? ≠ some '/' := by
  intro slash
  obtain ⟨rest, shape⟩ := List.head?_eq_some_iff.mp slash
  have front : ('/' :: rest).dropWhile (fun c => c.toNat ≤ 0x20) = '/' :: rest :=
    List.dropWhile_cons_of_neg (by decide)
  have kept : ('/' :: rest).filter (fun c => c != '\t' && c != '\r' && c != '\n') =
      '/' :: rest.filter fun c => c != '\t' && c != '\r' && c != '\n' :=
    List.filter_cons_of_pos (by decide)
  have bare := schemeSlash (rest.filter fun c => c != '\t' && c != '\r' && c != '\n')
  unfold Format.isUrl Url.ofText? at web
  rw [shape, front] at web
  dsimp only at web
  rw [kept] at web
  cases split : Url.splitScheme ('/' :: rest.filter fun c => c != '\t' && c != '\r' && c != '\n') with
  | mk scheme after =>
    rw [split] at bare web
    obtain rfl : scheme = [] := bare
    dsimp only at web
    split at web
    next url chosen =>
      obtain rfl := Option.some.inj (Option.ite_none_left_eq_some.mp chosen).2
      exact absurd (Except.ok.inj web) (by simp [Url.isWeb])
    next => cases web

def Matches (t : FileTree) (cwd : Location) (base text : String) (q : Path) : Prop :=
  Leads t cwd (components (fullPattern base text.toList)) (outset (fullPattern base text.toList)) q

theorem searchedReadable {text : String} (listed : text ∈ searched patterns)
    (readable : ∀ text ∈ asked patterns, Readable t cwd base.text text) :
    ∃ places, find t cwd (fullPattern base.text text.toList) = .ok places := by
  obtain ⟨own, place⟩ := List.mem_filter.mp listed
  rcases readable text own with web | ⟨_, found⟩
  · simp [isAddress, web] at place
  · exact found

section Members
variable (sound : t.Sound) (here : t.get? cwd = some .directory)
include sound here

theorem reportedIff {text : String} (listed : text ∈ searched patterns)
    (readable : ∀ text ∈ asked patterns, Readable t cwd base.text text) :
    q ∈ reported t cwd base.text text ↔ Matches t cwd base.text text q := by
  obtain ⟨places, found⟩ := searchedReadable listed readable
  rw [reported, found]
  exact findIff sound here found

theorem memberArranged {base : String} {report : String → List Path}
    (reports : ∀ text ∈ searched patterns, ∀ q, q ∈ report text ↔ Matches t cwd base text q) :
    p ∈ arranged t cwd report patterns ↔ ∃ text ∈ searched patterns, ∃ q, Matches t cwd base text q ∧
      ∃ l content, t.locate cwd q = .ok l ∧ t.get? l = some (.file content) ∧ p = .ofLocation l := by
  have there (text : String) (listed : text ∈ searched patterns) :
      ∀ q ∈ report text, isThere t cwd q = true := fun q member =>
    leadsThere sound here (outsetThere sound here _) ((reports text listed q).mp member)
  rw [arranged, List.mem_mergeSort, List.mem_eraseDups, gathered, List.mem_flatMap]
  refine exists_congr fun text => and_congr_right fun listed => ?_
  rw [memberFiles sound here (there text listed)]
  exact exists_congr fun q => and_congr_left fun _ => reports text listed q

end Members

end Expanding

def Untied (files : List Path) : Prop :=
  ∀ p ∈ files, ∀ q ∈ files, Text.lowercase p.parent.text = Text.lowercase q.parent.text →
    Text.lowercase p.name = Text.lowercase q.name → p = q

theorem arrangedApart (t : FileTree) (cwd : Location) (report : String → List Path)
    (patterns : List Value) : (arranged t cwd report patterns).Nodup :=
  (List.mergeSort_perm _ _).nodup_iff.mpr (firstsApart _)

theorem arrangedSame {report report' : String → List Path} {patterns patterns' : List Value}
    (same : ∀ p, p ∈ arranged t cwd report patterns ↔ p ∈ arranged t cwd report' patterns')
    (untied : Untied (arranged t cwd report patterns)) :
    arranged t cwd report patterns = arranged t cwd report' patterns' := by
  have perm := (List.perm_ext_iff_of_nodup (arrangedApart _ _ _ _) (arrangedApart _ _ _ _)).mpr same
  refine perm.eq_of_pairwise (fun p q first next less more => ?_) (sortedLength _) (sortedLength _)
  have tied : byLength p = byLength q := le_antisymm less more
  obtain ⟨_, names⟩ := Prod.mk.inj tied
  obtain ⟨directories, files⟩ := Prod.mk.inj names
  exact untied p first q ((same q).mpr next) directories files

/- What an expansion gives: each file that a pattern matches, each address, and nothing twice. -/
structure Expanded (s : Session) (base : Path) (patterns : List Value) (files : List Path)
    (urls : List String) : Prop where
  apart : (files.map Path.text ++ urls).Nodup
  matched : ∀ p, p ∈ files ↔ ∃ text ∈ searched patterns, ∃ q,
    Matches s.tree s.cwd base.text text q ∧ ∃ l content, s.tree.locate s.cwd q = .ok l ∧
      s.tree.get? l = some (.file content) ∧ p = .ofLocation l
  absolute : ∀ p ∈ files, ∃ l, p = .ofLocation l ∧ ∀ name ∈ l, ProperName name
  urls : urls = (addresses patterns).eraseDups
  steady : Untied files → ∀ patterns', patterns'.Perm patterns →
    (∃ u, (expand patterns' base).on s =
      (.ok (files.map Path.text ++ (addresses patterns').eraseDups), u)) ∧
    ∀ report : String → List Path, (∀ text ∈ searched patterns, ∀ q,
      q ∈ report text ↔ Matches s.tree s.cwd base.text text q) →
      arranged s.tree s.cwd report patterns' = files

theorem textsApart {files : List Path} {urls : List String} (files_apart : files.Nodup)
    (absolute : ∀ p ∈ files, ∃ l, p = .ofLocation l ∧ ∀ name ∈ l, ProperName name)
    (urls_apart : urls.Nodup) (web : ∀ url ∈ urls, Format.isUrl url = .ok true) :
    (files.map Path.text ++ urls).Nodup := by
  refine List.nodup_append.mpr ⟨files_apart.map_on fun p first q next same => ?_, urls_apart, ?_⟩
  · obtain ⟨l, rfl, proper⟩ := absolute p first
    obtain ⟨m, rfl, proper'⟩ := absolute q next
    exact congrArg _ (Path.textApart (fun name there => (proper name there).pathName)
      (fun name there => (proper' name there).pathName) same)
  · rintro text file url listed rfl
    obtain ⟨p, member, rfl⟩ := List.mem_map.mp file
    obtain ⟨l, rfl, _⟩ := absolute p member
    exact addressHead (web _ listed) (by simp [Path.text, Path.ofLocation])

theorem askedPerm {patterns patterns' : List Value} (perm : patterns'.Perm patterns) :
    (asked patterns').Perm (asked patterns) := (perm.map _).filter _

theorem searchedPerm {patterns patterns' : List Value} (perm : patterns'.Perm patterns)
    {text : String} : text ∈ searched patterns' ↔ text ∈ searched patterns :=
  ((askedPerm perm).filter _).mem_iff

theorem inputsExpanded {s : Session} (sound : s.tree.Sound)
    (here : s.tree.get? s.cwd = some .directory) {patterns : List Value} {base : Path}
    (readable : ∀ text ∈ asked patterns, Readable s.tree s.cwd base.text text) :
    ∃ files urls u, (expand patterns base).on s = (.ok (files.map Path.text ++ urls), u) ∧
      files = arranged s.tree s.cwd (reported s.tree s.cwd base.text) patterns ∧
      Expanded s base patterns files urls := by
  obtain ⟨u, ran⟩ := expandReads readable
  have reports : ∀ text ∈ searched patterns, ∀ q, q ∈ reported s.tree s.cwd base.text text ↔
      Matches s.tree s.cwd base.text text q :=
    fun text listed q => reportedIff sound here listed readable
  have matched (p : Path) := memberArranged sound here reports (p := p)
  have absolute : ∀ p ∈ arranged s.tree s.cwd (reported s.tree s.cwd base.text) patterns,
      ∃ l, p = .ofLocation l ∧ ∀ name ∈ l, ProperName name := by
    intro p member
    obtain ⟨_, _, _, _, l, content, _, found, rfl⟩ := (matched p).mp member
    exact ⟨l, rfl, sound.proper found⟩
  refine ⟨_, _, u, ran, rfl, ?_, matched, absolute, rfl, fun untied patterns' perm => ?_⟩
  · exact textsApart (arrangedApart _ _ _ _) absolute (firstsApart _)
      fun url listed => addressSplits (List.mem_eraseDups.mp listed)
  · have steady (report : String → List Path) (again : ∀ text ∈ searched patterns, ∀ q,
        q ∈ report text ↔ Matches s.tree s.cwd base.text text q) :
        arranged s.tree s.cwd report patterns' =
          arranged s.tree s.cwd (reported s.tree s.cwd base.text) patterns := by
      refine (arrangedSame (fun p => ?_) untied).symm
      rw [matched, memberArranged sound here fun text listed =>
        again text ((searchedPerm perm).mp listed)]
      simp only [searchedPerm perm]
    obtain ⟨u', ran'⟩ := expandReads fun text listed =>
      readable text ((askedPerm perm).mem_iff.mp listed)
    rw [steady _ reports] at ran'
    exact ⟨⟨u', ran'⟩, steady⟩

def deepSession : Session where
  cwd := ["w"]
  tree := ⟨[(["w"], .directory), (["w", "a"], .directory), (["w", "a", "b"], .directory),
    (["w", "a", "b", "x.json"], .file .empty), (["w", "long"], .directory),
    (["w", "long", "y.json"], .file .empty)]⟩

def deepFile : Path := .ofLocation ["w", "a", "b", "x.json"]

def shallowFile : Path := .ofLocation ["w", "long", "y.json"]

def deepPatterns : List Value :=
  [.text "**/*.json", .text " http://h/e ", .text "LONG/y.JSON", .text "http://h/e"]

theorem deepSound : deepSession.tree.Sound := by decide +kernel

theorem deepReadable :
    ∀ text ∈ asked deepPatterns, Readable deepSession.tree deepSession.cwd "/w" text := by
  have texts : asked deepPatterns = ["**/*.json", "http://h/e", "LONG/y.JSON", "http://h/e"] := by
    decide +kernel
  have web : Readable deepSession.tree deepSession.cwd "/w" "http://h/e" := .inl rfl
  have search (text : String) (place : Format.isUrl text = .ok false)
      (free : '\x00' ∉ fullPattern "/w" text.toList) :
      Readable deepSession.tree deepSession.cwd "/w" text :=
    .inr ⟨place, findReturns deepSound rfl free⟩
  rw [texts]
  simp only [List.forall_mem_cons]
  exact ⟨search _ rfl (by decide +kernel), web, search _ rfl (by decide +kernel), web, nofun⟩

theorem deepArranged : arranged deepSession.tree deepSession.cwd
    (reported deepSession.tree deepSession.cwd "/w") deepPatterns = [deepFile, shallowFile] := by
  have found : (gathered deepSession.tree deepSession.cwd
      (reported deepSession.tree deepSession.cwd "/w") deepPatterns).eraseDups =
        [deepFile, shallowFile] := by decide +kernel
  rw [arranged, found]
  exact List.mergeSort_of_pairwise (by decide +kernel)

theorem deepExpanded : ∃ u, (expand deepPatterns (.ofLocation ["w"])).on deepSession =
      (.ok ["/w/a/b/x.json", "/w/long/y.json", "http://h/e"], u) ∧
    Expanded deepSession (.ofLocation ["w"]) deepPatterns [deepFile, shallowFile] ["http://h/e"] ∧
    Untied [deepFile, shallowFile] := by
  obtain ⟨files, urls, u, ran, chosen, expanded⟩ :=
    @inputsExpanded deepSession deepSound rfl deepPatterns (.ofLocation ["w"]) deepReadable
  obtain rfl : files = [deepFile, shallowFile] := chosen.trans deepArranged
  obtain rfl : urls = ["http://h/e"] := expanded.urls.trans (by decide +kernel)
  refine ⟨u, ran, expanded, ?_⟩
  unfold Untied
  decide +kernel

structure Ordered (s : Session) (names : List String) (files : List Path) (urls : List String) :
    Prop where
  names : names = files.map Path.text ++ urls
  regular : ∀ p ∈ files, ∃ l content, p = .ofLocation l ∧ s.tree.get? l = some (.file content)
  web : ∀ url ∈ urls, Format.isUrl url = .ok true
  sorted : files.Pairwise fun p q => byLength p ≤ byLength q
  outward : files.Pairwise fun p q => ¬ p.parent.Below q.parent
  depth : (files.IsChain fun p q => byDepth p ≤ byDepth q) ↔
    ∀ p ∈ files, ∀ q ∈ files, byLength p ≤ byLength q → byDepth p ≤ byDepth q

theorem inputsOrdered {s u : Session} (sound : s.tree.Sound)
    (here : s.tree.get? s.cwd = some .directory) {patterns : List Value} {base : Path}
    {names : List String} (ran : (expand patterns base).on s = (.ok names, u)) :
    ∃ files urls, Ordered s names files urls := by
  obtain ⟨readable, listed⟩ := expandOk ran
  have matched (p : Path) := memberArranged sound here (p := p)
    fun text listed q => reportedIff sound here listed readable (q := q)
  have proper : ∀ p ∈ arranged s.tree s.cwd (reported s.tree s.cwd base.text) patterns,
      ∃ l, p = .ofLocation l ∧ ∀ name ∈ l, PathName name := by
    intro p member
    obtain ⟨_, _, _, _, l, content, _, found, rfl⟩ := (matched p).mp member
    exact ⟨l, rfl, fun name there => (sound.proper found name there).pathName⟩
  have sorted := sortedLength
    (gathered s.tree s.cwd (reported s.tree s.cwd base.text) patterns).eraseDups
  refine ⟨_, _, listed, fun p member => ?_, fun url listed => ?_, sorted, ?_, depthIff ?_ sorted⟩
  · obtain ⟨_, _, _, _, l, content, _, found, rfl⟩ := (matched p).mp member
    exact ⟨l, content, rfl, found⟩
  · exact addressSplits (List.mem_eraseDups.mp listed)
  · refine sorted.imp_of_mem fun {p q} first next shorter below => ?_
    obtain ⟨l, rfl, named⟩ := proper p first
    obtain ⟨m, rfl, _⟩ := proper q next
    obtain ⟨deeper, some, _, inner⟩ := below
    have split : l.dropLast = m.dropLast ++ deeper := congrArg Path.parts inner
    have longer := @Path.textLonger m.dropLast deeper (fun name there => named name
      (List.dropLast_subset l (split ▸ List.mem_append_right _ there))) some
    rw [← split] at longer
    have short := Prod.Lex.monotone_fst _ _ shorter
    exact absurd short longer.not_ge
  · intro p first q next tied
    obtain ⟨l, rfl, named⟩ := proper p first
    obtain ⟨m, rfl, named'⟩ := proper q next
    exact byDepthTie named named' tied

theorem deepOrdered : ∃ u names files urls, (expand deepPatterns (.ofLocation ["w"])).on deepSession =
    (.ok names, u) ∧ Ordered deepSession names files urls := by
  obtain ⟨u, ran⟩ := @expandReads deepSession (.ofLocation ["w"]) _ deepReadable
  obtain ⟨files, urls, ordered⟩ := @inputsOrdered deepSession u deepSound rfl _ _ _ ran
  exact ⟨u, _, files, urls, ran, ordered⟩

theorem deepBeforeShallow : (∃ u, (expand deepPatterns (.ofLocation ["w"])).on deepSession =
      (.ok [deepFile.text, shallowFile.text, "http://h/e"], u)) ∧
    ¬ byDepth deepFile ≤ byDepth shallowFile := by
  obtain ⟨u, ran⟩ := @expandReads deepSession (.ofLocation ["w"]) _ deepReadable
  have base : (Path.ofLocation ["w"]).text = "/w" := by decide
  have urls : (addresses deepPatterns).eraseDups = ["http://h/e"] := by decide +kernel
  rw [base, deepArranged, urls] at ran
  refine ⟨⟨u, ran⟩, ?_⟩
  decide +kernel

end InputFiles

end EntityForge
