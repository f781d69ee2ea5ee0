import EntityForge.Proofs.Blanks
import EntityForge.Proofs.Confinement

/-! Qualified names. A namespace is read piece by piece, so reading goes through a dot between two
namespaces, and segments that are joined by dots are read as they were. The name of a class is such a
piece as well. So its qualified name can be read like a namespace, and no other class has it. -/
namespace EntityForge

structure Level (s : String) : Prop extends Segment s where
  trimmed : Text.trim s = s

namespace Level

theorem ofNamespace {raw : Value} {s : String} (member : s ∈ parseNamespace raw) : Level s where
  toSegment := .ofNamespace member
  trimmed := by
    obtain ⟨cs, kept, rfl⟩ := List.mem_map.mp member
    obtain ⟨piece, _, rfl⟩ := List.mem_map.mp (List.mem_filter.mp kept).1
    rw [Text.trim, String.toList_ofList, Text.stripIdem]

theorem ofRead {raw : Value} {name : String} (read : Name.read? raw = some name) : Level name := by
  obtain ⟨words, trimmed⟩ := readOk read
  refine ⟨.ofName words, ?_⟩
  rw [trimmed, Text.trimIdem]

end Level

theorem parseDotted (a b : String) :
    parseNamespace (.text (a ++ "." ++ b)) = parseNamespace (.text a) ++ parseNamespace (.text b) := by
  have dot : (a ++ "." ++ b).toList = a.toList ++ '.' :: b.toList := by simp
  have cut := Text.splitAtCut (p := (· == '.')) (d := '.') rfl a.toList b.toList
  simp only [parseNamespace, namespaceSegments, Value.plain, Value.textOr, dot, cut, List.map_append,
    List.filter_append]

theorem parseLevel {s : String} (level : Level s) : parseNamespace (.text s) = [s] := by
  have solid : Text.strip s.toList = s.toList := by
    rw [← String.toList_ofList (l := Text.strip s.toList)]
    exact congrArg String.toList level.trimmed
  simp [parseNamespace, namespaceSegments, Value.plain, Value.textOr, level.toSegment.split, solid,
    level.some]

theorem parseJoined {segments : List String} (levels : ∀ s ∈ segments, Level s) :
    parseNamespace (.text (String.intercalate "." segments)) = segments := by
  induction segments with
  | nil => rfl
  | cons s rest ih =>
    obtain ⟨here, later⟩ := List.forall_mem_cons.mp levels
    cases rest with
    | nil => simpa using parseLevel here
    | cons next others =>
      rw [String.intercalate_cons_cons, parseDotted, parseLevel here, ih later]
      rfl

namespace Entity

structure Qualified (e : Entity) (space key : Value) : Prop where
  segments : e.segments = parseNamespace space
  named : Name.read? key = some e.name

def mappingName (e : Entity) : String := e.qualifiedName "." ++ ".dcm.xml"

namespace Qualified
variable {e e' : Entity} {space space' key key' : Value}

theorem ofNormal {cwd : Location} {description : Description} {outDir : Path}
    (normal : normalize cwd key description (parseNamespace space) outDir = .ok e) :
    e.Qualified space key :=
  ⟨segmentsChecked normal, readNameRead (normalizeOk normal).1⟩

theorem read (qualified : e.Qualified space key) :
    parseNamespace (.text (e.qualifiedName ".")) = parseNamespace space ++ [e.name] := by
  rw [qualifiedName, qualified.segments]
  exact parseJoined (List.forall_mem_append.mpr
    ⟨fun s => Level.ofNamespace, List.forall_mem_singleton.mpr (Level.ofRead qualified.named)⟩)

theorem determined (first : e.Qualified space key) (second : e'.Qualified space' key')
    (same : e.qualifiedName "." = e'.qualifiedName ".") :
    (parseNamespace space, e.name) = (parseNamespace space', e'.name) := by
  have pieces : parseNamespace space ++ [e.name] = parseNamespace space' ++ [e'.name] := by
    rw [← first.read, ← second.read, same]
  obtain ⟨segments, name⟩ := List.append_inj' pieces rfl
  rw [segments, List.singleton_inj.mp name]

theorem mappingDetermined (first : e.Qualified space key) (second : e'.Qualified space' key')
    (same : e.mappingName = e'.mappingName) :
    (parseNamespace space, e.name) = (parseNamespace space', e'.name) :=
  first.determined second (by simpa [mappingName] using same)

theorem mappingFile (qualified : e.Qualified space key)
    (whole : ∀ s ∈ parseNamespace space, '/' ∉ s.toList) : FileName e.mappingName := by
  have words : Name.wellFormed e.name.toList = true := (readOk qualified.named).1
  rw [mappingName, qualifiedName, qualified.segments, intercalateLast, String.append_assoc]
  exact (FileName.suffixed words FileName.mapping).append _ (intercalateFree whole (by decide))

end Qualified

end Entity

theorem Emit.Doctrine.mappingLast {e : Entity} {options : Options} {files : List Artifact}
    (emitted : artifacts e options = .ok files) : ∃ dir mapping,
      mappingDir e options = .ok dir ∧ files.getLast? = some mapping ∧ mapping.kind = "mapping" ∧
        mapping.path = dir.child e.mappingName := by
  obtain ⟨_, _, _, dir, _, _, _, _, place, _, rfl⟩ := artifactsOk.mp emitted
  exact ⟨dir, _, place, rfl, rfl, rfl⟩

/- Reading goes through dots, gives pieces that are read as they are, and a pair of segments and name
is told by its qualified name, hence by the name of its mapping; where segments are names of files,
that is the name of the file in the directory of the mappings. -/
theorem namesUnambiguous :
    (∀ a b : String, parseNamespace (.text (a ++ "." ++ b)) =
      parseNamespace (.text a) ++ parseNamespace (.text b)) ∧
    (∀ space, ∀ s ∈ parseNamespace space, s ≠ "" ∧ Text.trim s = s ∧ '.' ∉ s.toList) ∧
    (∀ space, parseNamespace (.text (String.intercalate "." (parseNamespace space))) =
      parseNamespace space) ∧
    (∀ {space space' key key' : Value} {e e' : Entity}, e.Qualified space key →
      e'.Qualified space' key' → (parseNamespace space, e.name) ≠ (parseNamespace space', e'.name) →
      e.qualifiedName "." ≠ e'.qualifiedName "." ∧ e.mappingName ≠ e'.mappingName) ∧
    ∀ {space key : Value} {e : Entity} {options : Options} {files : List Artifact},
      e.Qualified space key → Emit.Doctrine.artifacts e options = .ok files → ∃ dir mapping,
        Emit.Doctrine.mappingDir e options = .ok dir ∧ files.getLast? = some mapping ∧
        mapping.kind = "mapping" ∧ mapping.path = dir.child e.mappingName ∧
        ((∀ s ∈ parseNamespace space, '/' ∉ s.toList) → mapping.path = dir.under e.mappingName) := by
  refine ⟨parseDotted, fun space s member => ?_, fun space => ?_, ?_, ?_⟩
  · have level := Level.ofNamespace member
    exact ⟨level.some, level.trimmed, level.dotless⟩
  · exact parseJoined fun s => Level.ofNamespace
  · intro space space' key key' e e' first second differ
    exact ⟨mt (first.determined second) differ, mt (first.mappingDetermined second) differ⟩
  · intro space key e options files qualified emitted
    obtain ⟨dir, mapping, place, last, kind, path⟩ := Emit.Doctrine.mappingLast emitted
    refine ⟨dir, mapping, place, last, kind, path, fun whole => ?_⟩
    rw [path, Path.childFileName dir (qualified.mappingFile whole)]
    rfl

def modelUser : Entity := ⟨"User", ["App", "Model"], "User", [], .ofLocation ["w"]⟩

def appModel : Entity := ⟨"Model", ["App"], "Model", [], .ofLocation ["w"]⟩

theorem modelNames : modelUser.Qualified (.text "App . Model.") (.text " User ") ∧
    appModel.Qualified (.text ".App\t") (.text "Model\n") ∧
    modelUser.qualifiedName "." = "App.Model.User" ∧ appModel.qualifiedName "." = "App.Model" ∧
    modelUser.qualifiedName "." ≠ appModel.qualifiedName "." ∧
    modelUser.mappingName ≠ appModel.mappingName := by
  have normal : Entity.normalize [] (.text " User ") {} (parseNamespace (.text "App . Model."))
      (.ofText "/w") = .ok modelUser := rfl
  have normal' : Entity.normalize [] (.text "Model\n") {} (parseNamespace (.text ".App\t"))
      (.ofText "/w") = .ok appModel := rfl
  have first := Entity.Qualified.ofNormal normal
  have second := Entity.Qualified.ofNormal normal'
  obtain ⟨names, mappings⟩ := namesUnambiguous.2.2.2.1 first second (by decide +kernel)
  exact ⟨first, second, by decide +kernel, by decide +kernel, names, mappings⟩

end EntityForge
