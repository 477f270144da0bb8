import TwinNode.Proofs.Declaration.Facts
import TwinNode.Proofs.Declaration.Layout
import TwinNode.Proofs.FileSystem.Replacement
import TwinNode.Proofs.Package.Counterparts
import TwinNode.Proofs.Package.JsonFile
import TwinNode.Proofs.Package.Outline
import TwinNode.Proofs.Script.Uncommented

/-! Where the comments of a script are blanked, the same is declared by every artifact that
is read from its file: all of them are scripts, because they have the name of the file. So
the package that is found is the same but for the text of this script. -/

namespace TwinNode

section Scripts

variable (text : List Char)

theorem sameLayout_code : (Script.views (Script.code text)).SameLayout (Script.views text) :=
  (Views.aligned_script _).sameLayout (Views.aligned_script _) (Script.skeleton_code text)

theorem stubDeclarations_code (settings : RuleSettings) (path : String) :
    stubDeclarations settings path (Script.views (Script.code text)) =
      stubDeclarations settings path (Script.views text) :=
  (sameLayout_code text).stubDeclarations_eq (Script.code_code text) settings path

theorem deviceDeclarations_code (path : String) :
    deviceDeclarations path (Script.views (Script.code text)) =
      deviceDeclarations path (Script.views text) :=
  (sameLayout_code text).deviceDeclarations_eq (Script.code_code text) path

end Scripts

/-- What has the name of a script is a script, if it has a kind at all. -/
theorem isScript_of_suffix {path : String} {kind : ArtifactKind} (h : kindOfPath? path = some kind)
    (hscript : Path.hasSuffix Path.scriptSuffix (Path.name path) = true) :
    kind = .hostStub ∨ kind = .deviceScript := by
  cases hdevice : Path.hasSuffix Path.deviceScriptSuffix (Path.name path) with
  | true =>
    rw [kindOfPath?_device.2 hdevice] at h
    exact .inr (Option.some.inj h).symm
  | false =>
    rw [kindOfPath?_hostStub.2 ⟨hscript, hdevice⟩] at h
    exact .inl (Option.some.inj h).symm

/-- Two artifacts that differ in their texts only and declare the same. -/
structure Artifact.SameReading (a b : Artifact) : Prop where
  outline : a.outline = b.outline
  declarations : ∀ settings, a.declarations settings = b.declarations settings

namespace Artifact.SameReading

theorem refl (a : Artifact) : a.SameReading a := ⟨rfl, fun _ => rfl⟩

theorem uncommented {kind : ArtifactKind} (hkind : kind = .hostStub ∨ kind = .deviceScript)
    (path : String) (text : List Char) :
    SameReading ⟨kind, path, Script.code text, .scanned (Script.views (Script.code text))⟩
      ⟨kind, path, text, .scanned (Script.views text)⟩ := by
  refine ⟨rfl, fun settings => ?_⟩
  rcases hkind with rfl | rfl
  · exact stubDeclarations_code text settings path
  · exact deviceDeclarations_code text path

variable {a b : Artifact} (h : a.SameReading b)
include h

theorem path_eq : a.path = b.path := congrArg (·.path) h.outline

theorem registrations_eq : a.registrations = b.registrations := by
  rw [← a.outline_registrations, h.outline, b.outline_registrations]

end Artifact.SameReading

/-- Two packages that differ in the texts of their artifacts only and declare the same. -/
structure Package.SameReading (p q : Package) : Prop where
  outline : p.outline = q.outline
  declarations : ∀ settings, p.declarations settings = q.declarations settings

theorem Package.SameReading.of_artifacts {p q : Package} (hroot : p.root = q.root)
    (h : List.Forall₂ Artifact.SameReading p.artifacts q.artifacts)
    (hunits : p.units = groupUnits p.artifacts ∧ q.units = groupUnits q.artifacts) :
    p.SameReading q where
  outline := by
    have houtline := map_eq_of_forall₂ h fun a _ b hab => hab.outline
    unfold Package.outline
    rw [hroot, hunits.1, hunits.2, ← groupUnits_outline, ← groupUnits_outline, houtline]
  declarations settings :=
    Package.declarations_congr (map_eq_of_forall₂ h fun _ _ _ hab => hab.declarations settings)

/-! ## Files -/

/-- A file is written anew with the comments of its script blanked. -/
structure FileSystem.Uncomments (fs : FileSystem) (file : Place) (bytes : Bytes) : Prop where
  sound : fs.Sound
  /-- The name of the file is that of a script. -/
  name : ∃ name, file.getLast? = some name ∧ Path.hasSuffix Path.scriptSuffix name = true
  blanked : ∃ old, fs.contents? file = some old ∧ Text.readText bytes =
    Script.code (Text.readText old)

namespace FileSystem.Uncomments

variable {fs : FileSystem} {file : Place} {bytes : Bytes} (h : fs.Uncomments file bytes)
  (place : Place)
include h

theorem isFile : fs.isFile file = true := by
  obtain ⟨old, hold, _⟩ := h.blanked
  obtain ⟨entry, hentry, _⟩ := Option.map_eq_some_iff.1 hold
  have hplace := List.find?_some hentry
  exact List.any_eq_true.2 ⟨entry, List.mem_of_find?_eq_some hentry, hplace⟩

theorem loadArtifact {kind : ArtifactKind} {path : String} (hkind : kindOfPath? path = some kind) :
    EndAlike Artifact.SameReading (loadArtifact (fs.write file bytes) place kind path)
      (TwinNode.loadArtifact fs place kind path) := by
  unfold TwinNode.loadArtifact
  dsimp only
  rw [FileSystem.read_replaced h.sound h.isFile]
  by_cases hfind : fs.find ((Path.Location.mk .top place).append path) = .ok file
  · -- The artifact has the name of the file, and so it is a script.
    obtain ⟨name, hlast, hscript⟩ := h.name
    obtain ⟨old, hold, htext⟩ := h.blanked
    obtain ⟨hne, hdot, hdots⟩ := not_directory_of_kind hkind
    rw [FileSystem.getLast?_of_find hne hdot hdots hfind] at hlast
    obtain rfl := Option.some.inj hlast
    have hread : fs.read ((Path.Location.mk .top place).append path) = .ok old := by
      unfold FileSystem.read
      rw [hfind]
      dsimp only
      rw [hold]
    rw [if_pos hfind, hread]
    dsimp only
    rw [htext]
    have hkinds := isScript_of_suffix hkind hscript
    have halike := Artifact.SameReading.uncommented hkinds path (Text.readText old)
    rcases hkinds with rfl | rfl <;> exact .ok halike
  · rw [if_neg hfind]
    cases fs.read ((Path.Location.mk .top place).append path) with
    | error e => exact .error _
    | ok bytes =>
      dsimp only
      rw [FileSystem.room_write]
      cases Content.ofText fs.room kind path (Text.readText bytes) with
      | error e => exact .error _
      | ok content => exact .ok (.refl _)

omit place in
theorem counterparts : Counterparts Artifact.SameReading (fs.write file bytes) fs where
  places := FileSystem.samePlaces_write h.sound h.isFile bytes
  path_eq _ _ hab := hab.path_eq
  classifyFiles_eq _ _ hab files := by rw [hab.registrations_eq]
  loadArtifact place _ _ hkind := h.loadArtifact place hkind

omit place in
/-- The same package is found, but for the text of the script, or the search fails in the same
way. -/
theorem discover (root : Path.Location) (exclude : List String) (workers : Int) :
    EndAlike Package.SameReading (discover (fs.write file bytes) root exclude workers)
      (TwinNode.discover fs root exclude workers) :=
  (h.counterparts.discover root exclude workers).imp fun _ _ _ ⟨hroot, hartifacts, hunits⟩ =>
    .of_artifacts hroot hartifacts hunits

end FileSystem.Uncomments

end TwinNode
