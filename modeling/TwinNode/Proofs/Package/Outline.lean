import TwinNode.Package.Discovery

namespace TwinNode

def Artifact.outline (a : Artifact) : Artifact :=
  { a with
    text := []
    content := match a.content with
      | .scanned _ => .present
      | content => content }

namespace Artifact

variable (a : Artifact)

@[simp] theorem outline_path : a.outline.path = a.path := rfl

@[simp] theorem outline_syntaxError? : a.outline.syntaxError? = a.syntaxError? := by
  unfold outline syntaxError?
  cases a.content <;> rfl

@[simp] theorem outline_isParsed : a.outline.isParsed = a.isParsed := by
  unfold isParsed
  rw [outline_syntaxError?]

@[simp] theorem outline_json? : a.outline.json? = a.json? := by
  unfold outline json?
  cases a.content <;> rfl

@[simp] theorem outline_registrations : a.outline.registrations = a.registrations := by
  unfold registrations
  rw [outline_json?]

end Artifact

def NodeUnit.outline (u : NodeUnit) : NodeUnit :=
  { u with
    stub := u.stub.map Artifact.outline
    device := u.device.map Artifact.outline
    markup := u.markup.map Artifact.outline
    manifest := u.manifest.map Artifact.outline
    locales := u.locales.map Artifact.outline }

namespace NodeUnit

variable (u : NodeUnit)

@[simp] theorem outline_key : u.outline.key = u.key := rfl

@[simp] theorem outline_isDual : u.outline.isDual = u.isDual := by
  simp [isDual, outline]

@[simp] theorem outline_scriptsAndMarkup :
    u.outline.scriptsAndMarkup = u.scriptsAndMarkup.map Artifact.outline := by
  unfold scriptsAndMarkup outline
  cases u.stub <;> cases u.device <;> cases u.markup <;> rfl

end NodeUnit

def Package.outline (p : Package) : Package :=
  ⟨p.root, p.artifacts.map Artifact.outline, p.units.map NodeUnit.outline⟩

section Filters

variable {q : Artifact → Bool} (hq : ∀ a, q (Artifact.outline a) = q a) (artifacts : List Artifact)
include hq

theorem filter_outline :
    (artifacts.map Artifact.outline).filter q = (artifacts.filter q).map Artifact.outline := by
  rw [List.filter_map]
  exact congrArg _ (List.filter_congr fun a _ => hq a)

theorem find?_outline :
    (artifacts.map Artifact.outline).find? q = (artifacts.find? q).map Artifact.outline := by
  rw [List.find?_map]
  exact congrArg (fun q => (artifacts.find? q).map Artifact.outline) (funext hq)

theorem last_outline : ((artifacts.map Artifact.outline).filter q).getLast? =
    (artifacts.filter q).getLast?.map Artifact.outline := by
  rw [filter_outline hq, List.getLast?_map]

end Filters

section Units

variable (artifacts : List Artifact)

theorem unitKeys_outline : unitKeys (artifacts.map Artifact.outline) = unitKeys artifacts := by
  unfold unitKeys
  rw [filter_outline fun _ => rfl, List.map_map]
  rfl

theorem slot?_outline (kind : ArtifactKind) (key : UnitKey) :
    slot? (artifacts.map Artifact.outline) kind key =
      (slot? artifacts kind key).map Artifact.outline :=
  last_outline (fun _ => rfl) artifacts

theorem unitManifest?_outline (key : UnitKey) :
    unitManifest? (artifacts.map Artifact.outline) key =
      (unitManifest? artifacts key).map Artifact.outline := by
  unfold unitManifest?
  rw [unitKeys_outline, slot?_outline, Option.isSome_map]
  dsimp only
  split
  · exact last_outline (fun _ => rfl) artifacts
  · rfl

theorem registrationsAmong_outline :
    registrationsAmong (artifacts.map Artifact.outline) = registrationsAmong artifacts := by
  unfold registrationsAmong
  rw [last_outline fun _ => rfl]
  cases (artifacts.filter (·.kind = .descriptor)).getLast? with
  | none => rfl
  | some d => exact d.outline_registrations

theorem unitOf_outline (key : UnitKey) :
    unitOf (artifacts.map Artifact.outline) key = (unitOf artifacts key).outline := by
  unfold unitOf NodeUnit.outline
  simp only [slot?_outline, unitManifest?_outline, registrationsAmong_outline,
    filter_outline (q := fun a =>
    decide (a.kind = .localeBundle) && localeOwner? a.path == some key) fun _ => rfl]

theorem groupUnits_outline :
    groupUnits (artifacts.map Artifact.outline) = (groupUnits artifacts).map NodeUnit.outline := by
  unfold groupUnits
  rw [unitKeys_outline, List.map_map]
  exact List.map_congr_left fun key _ => unitOf_outline artifacts key

end Units

namespace Package

variable (p : Package)

@[simp] theorem outline_descriptor? : p.outline.descriptor? = p.descriptor?.map Artifact.outline :=
  find?_outline (fun _ => rfl) p.artifacts

@[simp] theorem outline_ofKind (kind : ArtifactKind) :
    p.outline.ofKind kind = (p.ofKind kind).map Artifact.outline :=
  filter_outline (fun _ => rfl) p.artifacts

@[simp] theorem outline_get? (path : String) :
    p.outline.get? path = (p.get? path).map Artifact.outline :=
  find?_outline (fun _ => rfl) p.artifacts

end Package

end TwinNode
