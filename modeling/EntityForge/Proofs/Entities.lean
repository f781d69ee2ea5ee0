import EntityForge.Proofs.Bundles
import EntityForge.Proofs.Changes

/-! Writing the files of an entity. The class file comes first and makes the directory of the classes;
from then on the look for an extension tells what is there, whatever the names of the namespace. -/
namespace EntityForge
open FileTree

theorem Path.underClean {dir : Path} {name : String} (clean : dir.hasNul = false)
    (free : '\x00' ∉ name.toList) : (dir.under name).hasNul = false := by
  simp_all [hasNul, under]

theorem Path.parentClean {p : Path} (clean : p.hasNul = false) : p.parent.hasNul = false := by
  simp only [hasNul, parent, List.any_eq_false] at clean ⊢
  exact fun part member => clean part (List.dropLast_subset _ member)

structure Housed (c : Call) (t : FileTree) : Prop where
  wellFormed : t.WellFormed
  laid : t.lay [] c.home.parts = (t, true)
  clean : c.home.hasNul = false

namespace Housed
variable {c : Call} {t u : FileTree}

theorem grow (housed : Housed c t) (wf : u.WellFormed) (grows : t.Grows u) : Housed c u := by
  refine ⟨wf, ?_, housed.clean⟩
  have more : (t.lay [] c.home.parts).1.Grows u := by
    rw [housed.laid]
    exact grows
  have again := layAgain housed.wellFormed (rootDirectory t) more
  rwa [housed.laid] at again

theorem reached (housed : Housed c t) : t.reach [] c.home.parts = .ok c.home.place :=
  reachOfLay housed.wellFormed (rootDirectory t) housed.laid

theorem here (housed : Housed c t) : t.get? c.home.place = some .directory :=
  (reachOk housed.wellFormed (rootDirectory t) housed.reached).2.2

end Housed

inductive Annexed (c : Call) (t : FileTree) : Prop where
  | there (found : t.get? c.annex.place = some .directory)
      (laid : t.lay [] c.annex.parts = (t, true))
  | missing (absent : t.get? c.annex.place = none)
      (look : t.reach [] c.annex.parts = .error .missing)
      (laid : t.lay [] c.annex.parts = (t.put c.annex.place .directory, true))
      (deeper : c.annex.place = c.home.place ++ ["Extensions"])
  | blocked {content : ByteArray} (file : t.get? c.annex.place = some (.file content))
      (look : t.reach [] c.annex.parts = .error .notDirectory)
      (stuck : t.lay [] c.annex.parts = (t, false))

theorem annexed {c : Call} {t : FileTree} (housed : Housed c t) : Annexed c t := by
  rcases annexCases c with ⟨_, _, deeper⟩ | ⟨_, _, flat⟩
  · have place : c.annex.place = c.home.place ++ ["Extensions"] := by
      rw [deeper, Path.underPlace _ (by decide)]
    have parts : c.annex.parts = c.home.parts ++ ["Extensions"] := by rw [deeper]; rfl
    have fit : fits "Extensions" = true := by decide
    have look : t.reach [] c.annex.parts = t.enter c.home.place "Extensions" := by
      rw [parts, reachSnoc, housed.reached]
    have walk : t.lay [] c.annex.parts = t.lay c.home.place ["Extensions"] := by
      rw [parts, layAppend, housed.laid]
      rfl
    rw [enterPlain (by decide) fit, ← place] at look
    simp only [lay, fit, if_true, ← place] at walk
    rw [if_neg (by decide)] at walk
    cases found : t.get? c.annex.place with
    | none =>
      rw [found] at look walk
      exact .missing found look walk place
    | some e =>
      rw [found] at look walk
      cases e with
      | file content => exact .blocked found look walk
      | directory => exact .there found walk
  · refine .there ?_ ?_
    · rw [flat]
      exact housed.here
    · rw [flat]
      exact housed.laid

def isFile : Option Entry → Bool
  | some (.file _) => true
  | _ => false

theorem isFileIff {entry : Option Entry} :
    isFile entry = true ↔ ∃ content, entry = some (.file content) := by
  cases entry with
  | none => simp [isFile]
  | some e => cases e <;> simp [isFile]

def Call.extensionFate (c : Call) (t : FileTree) (a : Artifact) : Fate :=
  if fits a.path.name then
    if isFile (t.get? c.annex.place) then .failed (.files (.createDirectory c.annex.text))
    else if (t.get? a.path.place).isSome then .kept
    else .written
  else .failed (.files (.checkExistence a.path.text))

section
variable {c : Call} {t u : FileTree} {shelf : Path} {label name : String} {a : Artifact} {cwd : Location}

theorem Filed.plain (absolute : shelf.anchor ≠ .relative) (words : Name.wellFormed name.toList = true)
    {role : Role} (filed : Filed c shelf label name role a) : a.path.Plain := by
  rw [filed.path]
  exact sitePlain absolute words role

theorem Filed.parent {role : Role} (filed : Filed c shelf label name role a) :
    a.path.parent = c.folder shelf role := by
  rw [filed.path]
  exact Path.underParent _ _

theorem Filed.fileName {role : Role} (filed : Filed c shelf label name role a) :
    a.path.name = c.file label name role := by
  rw [filed.path]
  exact Path.underName _ _

theorem extensionClean (housed : Housed c t) (words : Name.wellFormed name.toList = true)
    (filed : Filed c shelf label name .extension a) : a.path.hasNul = false := by
  have suffix : '\x00' ∉ c.extensionSuffix.toList := by
    unfold Call.extensionSuffix
    split <;> decide
  have annex : c.annex.hasNul = false := by
    rcases annexCases c with ⟨_, _, deeper⟩ | ⟨_, _, flat⟩
    · rw [deeper]
      exact Path.underClean housed.clean (by decide)
    · rw [flat]
      exact housed.clean
  rw [filed.path]
  refine Path.underClean annex ?_
  have free := Name.wordFree words (c := '\x00') (by decide)
  simp [Call.file, suffix, free]

/- Unless it is the directory of the classes, the directory of extensions takes names as long as those
of the classes. -/
theorem extensionFits (housed : Housed c t) (apart : t.get? c.annex.place ≠ some .directory)
    (filed : Filed c shelf label name .extension a)
    (fit : fits (name ++ c.target.extension) = true) : fits a.path.name = true := by
  rcases annexCases c with ⟨_, suffix, _⟩ | ⟨_, _, flat⟩
  · rw [filed.fileName, Call.file, suffix]
    exact fit
  · rw [flat] at apart
    exact absurd housed.here apart

theorem extensionAbsent (wf : t.WellFormed) (place : a.path.place = c.annex.place ++ [a.path.name])
    (absent : t.get? c.annex.place = none) : t.get? a.path.place = none := by
  cases there : t.get? a.path.place with
  | none => rfl
  | some e =>
    rw [place] at there
    have directory := wf _ _ _ there
    simp [absent] at directory

theorem extensionSettle (cwd : Location) (housed : Housed c t) (words : Name.wellFormed name.toList = true)
    (absolute : shelf.anchor ≠ .relative) (filed : Filed c shelf label name .extension a)
    (fit : fits (name ++ c.target.extension) = true) :
    (t.settle cwd a).2 = c.extensionFate t a ∧
      ((t.settle cwd a).1 = t ∨ c.extensionFate t a = .written) := by
  have wf := housed.wellFormed
  have plain := filed.plain absolute words
  have clean := extensionClean housed words filed
  have whole : ¬ a.path.hasNul = true := by simp [clean]
  have above : ¬ a.path.parent.hasNul = true := by simp [Path.parentClean clean]
  have once : ¬ a.overwrite = true := by simp [filed.overwrite, Role.always]
  have folder : a.path.parent = c.annex := filed.parent
  have place : a.path.place = c.annex.place ++ [a.path.name] := by rw [plain.place, folder]
  unfold settle Call.extensionFate
  rw [if_neg once, fileExistsReach wf cwd plain, if_neg whole, deposit, if_neg above, folder]
  rcases annexed housed with ⟨found, laid⟩ | ⟨absent, look, laid, deeper⟩ | ⟨file, look, stuck⟩
  · rw [reachOfLay wf (rootDirectory t) laid, laid, found]
    by_cases fits' : fits a.path.name = true
    · cases there : t.get? a.path.place with
      | some e => simp [fits', isFile]
      | none => simp [fits', clean, there, isFile]
    · simp [fits']
  · have fits' := extensionFits housed (by simp [absent]) filed fit
    have nowhere := extensionAbsent wf place absent
    have free : (t.put c.annex.place .directory).get? a.path.place = none := by
      rw [deeper, getPut, ← deeper, if_neg (by simp [place])]
      exact nowhere
    simp [look, laid, absent, fits', clean, nowhere, free, isFile]
  · have fits' := extensionFits housed (by simp [file]) filed fit
    simp [look, stuck, file, fits', isFile]

theorem extensionNew (fresh : c.extensionFate t a = .written) : t.get? a.path.place = none := by
  unfold Call.extensionFate at fresh
  split at fresh
  · split at fresh
    · cases fresh
    · split at fresh
      · cases fresh
      next absent => simpa using absent
  · cases fresh

theorem classHoused (wf : t.WellFormed) (words : Name.wellFormed name.toList = true)
    (absolute : shelf.anchor ≠ .relative) (filed : Filed c shelf label name .main a)
    (done : t.settle cwd a = (u, .written)) :
    Housed c u ∧ fits (name ++ c.target.extension) = true := by
  have plain := filed.plain absolute words
  have folder : a.path.parent = c.home := filed.parent
  obtain ⟨_, laid, fit, clean⟩ := settleWritten wf plain done
  rw [folder] at laid
  refine ⟨⟨?_, laid, ?_⟩, ?_⟩
  · have kept := (settleWellFormed wf cwd plain).1
    rwa [done] at kept
  · rw [← folder]
    exact Path.parentClean clean
  · rw [filed.fileName] at fit
    exact fit

theorem filedChange (housed : Housed c t) (words : Name.wellFormed name.toList = true)
    (absolute : shelf.anchor ≠ .relative) (fit : fits (name ++ c.target.extension) = true)
    {role : Role} (filed : Filed c shelf label name role a) {fate : Fate}
    (done : t.settle cwd a = (u, fate)) (l : Location) : Change t u [a] l := by
  refine (settleCases done).change housed.wellFormed (filed.plain absolute words) ?_ l
  intro once new
  cases role with
  | main => simp [filed.overwrite, Role.always] at once
  | mapping => simp [filed.overwrite, Role.always] at once
  | extension =>
    have same := (extensionSettle cwd housed words absolute filed fit).1
    rw [done, new] at same
    exact extensionNew same.symm

theorem filedAllChange (housed : Housed c t) (words : Name.wellFormed name.toList = true)
    (absolute : shelf.anchor ≠ .relative) (fit : fits (name ++ c.target.extension) = true)
    {artifacts : List Artifact} (each : ∀ a ∈ artifacts, ∃ role, Filed c shelf label name role a)
    (l : Location) : Change t (t.settleAll cwd artifacts).1 artifacts l := by
  induction artifacts generalizing t with
  | nil => exact .same rfl
  | cons first rest ih =>
    obtain ⟨⟨role, filed⟩, others⟩ := List.forall_mem_cons.mp each
    have next := settleWellFormed housed.wellFormed cwd (filed.plain absolute words) (a := first)
    obtain ⟨u, failure, done, all⟩ | ⟨u, fate, done, _, all⟩ := settleAllCases t cwd first rest
    · rw [all]
      exact (filedChange housed words absolute fit filed done l).widen (by simp)
    · rw [done] at next
      rw [all]
      exact (filedChange housed words absolute fit filed done l).trans
        (ih (housed.grow next.1 next.2) others)

theorem writtenStays {v : FileTree} (wf : t.WellFormed) (plain : a.path.Plain)
    (done : t.settle cwd a = (u, .written)) {later : List Artifact}
    (apart : ∀ b ∈ later, a.path.place ≠ b.path.place)
    (change : Change u v later a.path.place) :
    v.get? a.path.place = some (.file a.content.toUTF8) :=
  change.still (settleWritten wf plain done).1 fun b member _ same => apart b member same.symm

theorem filedAllHold (housed : Housed c t) (words : Name.wellFormed name.toList = true)
    (absolute : shelf.anchor ≠ .relative) (fit : fits (name ++ c.target.extension) = true)
    {artifacts : List Artifact} (each : ∀ a ∈ artifacts, ∃ role, Filed c shelf label name role a)
    (apart : artifacts.Pairwise fun a b => a.path.place ≠ b.path.place)
    (fine : (t.settleAll cwd artifacts).2.findSome? Fate.failure? = none) :
    ∀ a ∈ artifacts, a.overwrite = true →
      (t.settleAll cwd artifacts).1.get? a.path.place = some (.file a.content.toUTF8) := by
  induction artifacts generalizing t with
  | nil => simp
  | cons first rest ih =>
    obtain ⟨⟨role, filed⟩, others⟩ := List.forall_mem_cons.mp each
    have wf := housed.wellFormed
    have plain := filed.plain absolute words
    have next := settleWellFormed wf cwd plain
    obtain ⟨u, failure, _, all⟩ | ⟨u, fate, done, kept, all⟩ := settleAllCases t cwd first rest
    · simp [all, Fate.failure?] at fine
    · rw [done] at next
      have housed' := housed.grow next.1 next.2
      rw [all] at fine ⊢
      rw [List.findSome?_cons, kept] at fine
      obtain ⟨alone, others'⟩ := List.pairwise_cons.mp apart
      intro a member always
      rcases List.mem_cons.mp member with rfl | later
      · obtain rfl := alwaysWritten done always kept
        exact writtenStays wf plain done alone
          (filedAllChange housed' words absolute fit others a.path.place)
      · exact ih housed' others others' fine a later always

namespace Bundle
variable {artifacts : List Artifact}

theorem filed (bundle : Bundle c shelf label name artifacts) :
    ∀ a ∈ artifacts, ∃ role, Filed c shelf label name role a := by
  cases bundle with
  | mk first second others _ =>
    intro a member
    rcases List.mem_cons.mp member with rfl | member
    · exact ⟨_, first⟩
    · rcases List.mem_cons.mp member with rfl | member
      · exact ⟨_, second⟩
      · exact ⟨_, others a member⟩

theorem plain (bundle : Bundle c shelf label name artifacts)
    (words : Name.wellFormed name.toList = true) (absolute : shelf.anchor ≠ .relative) :
    ∀ a ∈ artifacts, a.path.Plain := by
  intro a member
  obtain ⟨role, filed⟩ := bundle.filed a member
  exact filed.plain absolute words

theorem apart (bundle : Bundle c shelf label name artifacts)
    (words : Name.wellFormed name.toList = true) :
    artifacts.Pairwise fun a b => a.path.place ≠ b.path.place := by
  have differ {a b : Artifact} {r q : Role} (first : Filed c shelf label name r a)
      (second : Filed c shelf label name q b) (roles : r ≠ q) : a.path.place ≠ b.path.place := by
    intro same
    rw [first.path, second.path] at same
    exact roles (siteApart words words same).2
  cases bundle with
  | @mk main extension rest first second others single =>
    refine .cons (fun a member => ?_) (.cons (fun a member => ?_) ?_)
    · rcases List.mem_cons.mp member with rfl | member
      · exact differ first second (by simp)
      · exact differ first (others a member) (by simp)
    · exact differ second (others a member) (by simp)
    · match rest, single with
      | [], _ => exact .nil
      | [a], _ => exact List.pairwise_singleton _ a

theorem change (bundle : Bundle c shelf label name artifacts) (wf : t.WellFormed)
    (words : Name.wellFormed name.toList = true) (absolute : shelf.anchor ≠ .relative)
    (l : Location) : Change t (t.settleAll cwd artifacts).1 artifacts l := by
  have filed := bundle.filed
  cases bundle with
  | @mk main extension rest first second others _ =>
    have step {u : FileTree} {fate : Fate} (done : t.settle cwd main = (u, fate)) :
        Change t u [main] l := by
      refine (settleCases done).change wf (first.plain absolute words) ?_ l
      simp [first.overwrite, Role.always]
    obtain ⟨u, failure, done, all⟩ | ⟨u, fate, done, kept, all⟩ :=
      settleAllCases t cwd main (extension :: rest)
    · rw [all]
      exact (step done).widen (by simp)
    · obtain rfl := alwaysWritten done first.overwrite kept
      obtain ⟨housed, fit⟩ := classHoused wf words absolute first done
      rw [all]
      exact (step done).trans
        (filedAllChange housed words absolute fit (List.forall_mem_cons.mp filed).2 l)

theorem classStays {main : Artifact} (bundle : Bundle c shelf label name (main :: artifacts))
    (wf : t.WellFormed) (words : Name.wellFormed name.toList = true)
    (absolute : shelf.anchor ≠ .relative) (done : t.settle cwd main = (u, .written)) :
    (t.settleAll cwd (main :: artifacts)).1.get? main.path.place =
      some (.file main.content.toUTF8) := by
  have apart := (List.pairwise_cons.mp (bundle.apart words)).1
  have filed := (List.forall_mem_cons.mp bundle.filed).2
  cases bundle with
  | mk first _ _ _ =>
    obtain ⟨housed, fit⟩ := classHoused wf words absolute first done
    rw [settleAllNext done rfl]
    exact writtenStays wf (first.plain absolute words) done apart
      (filedAllChange housed words absolute fit filed main.path.place)

theorem holds (bundle : Bundle c shelf label name artifacts) (wf : t.WellFormed)
    (words : Name.wellFormed name.toList = true) (absolute : shelf.anchor ≠ .relative)
    (fine : (t.settleAll cwd artifacts).2.findSome? Fate.failure? = none) :
    ∀ a ∈ artifacts, a.overwrite = true →
      (t.settleAll cwd artifacts).1.get? a.path.place = some (.file a.content.toUTF8) := by
  cases bundle with
  | @mk main extension rest first second others single =>
    have bundle := Bundle.mk first second others single
    have apart := (List.pairwise_cons.mp (bundle.apart words)).2
    have filed := (List.forall_mem_cons.mp bundle.filed).2
    obtain ⟨u, failure, _, all⟩ | ⟨u, fate, done, kept, all⟩ :=
      settleAllCases t cwd main (extension :: rest)
    · simp [all, Fate.failure?] at fine
    · obtain rfl := alwaysWritten done first.overwrite kept
      obtain ⟨housed, fit⟩ := classHoused wf words absolute first done
      intro a member always
      rcases List.mem_cons.mp member with rfl | later
      · exact bundle.classStays wf words absolute done
      · rw [all] at fine ⊢
        rw [List.findSome?_cons, kept] at fine
        exact filedAllHold housed words absolute fit filed apart fine a later always

end Bundle

end

end EntityForge
