import TwinNode.Proofs.FileSystem.Reordered
import TwinNode.Proofs.Package.Contents
import TwinNode.Proofs.Package.Counterparts
import TwinNode.Proofs.Package.JsonFile
import TwinNode.Proofs.Package.Slots

namespace TwinNode

open TwinNode.Json (Value)
open TwinNode.Json.Value (MembersReordered)

theorem registrations?_reordered {v w : Value} (h : v.Reordered w) (hw : w.KeysDistinct) :
    Option.Rel MembersReordered (registrations? v) (registrations? w) := by
  have hsection := h.member? hw "node-red"
  unfold registrations?
  generalize v.member? "node-red" = outer, hmember : w.member? "node-red" = others at hsection
  cases hsection with
  | none => exact .none
  | some hsection =>
    exact rel_bind (hsection.member? (hw.member? hmember) "nodes") fun _ _ hnodes => hnodes.members?

/-- Two artifacts that are the same, except for the order of members in what they hold. -/
inductive Artifact.Reordered : Artifact → Artifact → Prop
  | same (a : Artifact) : Reordered a a
  | json {kind : ArtifactKind} {path : String} {text others : List Char} {v w : Value}
      (hkind : kind.isJson = true) (h : v.Reordered w) (hw : w.KeysDistinct) :
      Reordered ⟨kind, path, text, .json v⟩ ⟨kind, path, others, .json w⟩

namespace Artifact.Reordered

variable {a b : Artifact} (h : a.Reordered b)
include h

theorem kind_eq : a.kind = b.kind := by
  cases h <;> rfl

theorem path_eq : a.path = b.path := by
  cases h <;> rfl

theorem syntaxError?_eq : a.syntaxError? = b.syntaxError? := by
  cases h <;> rfl

theorem isParsed_eq : a.isParsed = b.isParsed := by
  unfold isParsed
  rw [h.syntaxError?_eq]

theorem unitKey_eq : a.unitKey = b.unitKey := by
  cases h <;> rfl

theorem directory_eq : a.directory = b.directory := by
  cases h <;> rfl

theorem isObject_eq : a.json?.any (·.isObject) = b.json?.any (·.isObject) := by
  cases h with
  | same => rfl
  | json _ h => exact h.isObject

theorem eq_of_not_json (hkind : a.kind.isJson = false) : a = b := by
  cases h with
  | same => rfl
  | json hjson => rw [hjson] at hkind; cases hkind

theorem registrations : MembersReordered a.registrations b.registrations := by
  cases h with
  | same => exact .refl _
  | json _ h hw => exact rel_getD (registrations?_reordered h hw) (.refl [])

end Artifact.Reordered

/-! ## Files -/

theorem referencedPaths_perm {registrations others : List (String × Value)}
    (h : MembersReordered registrations others) :
    (referencedPaths registrations).Perm (referencedPaths others) :=
  h.filterMap_perm fun _ _ _ hvalue => by rw [hvalue.str?]

theorem classifyFiles_perm (files : List String) {referenced others : List String}
    (h : referenced.Perm others) :
    classifyFiles files referenced = classifyFiles files others := by
  unfold classifyFiles classify
  simp only [h.contains_eq, (h.map Path.stubPath).contains_eq]

section Files

variable {fs other : FileSystem} (h : fs.Reordered other) (place : Place)
include h

/-- What is read of a file that has a kind is the same artifact, up to the order of members. -/
theorem loadArtifact_reordered {kind : ArtifactKind} {path : String}
    (hkind : kindOfPath? path = some kind) :
    EndAlike Artifact.Reordered (loadArtifact fs place kind path)
      (loadArtifact other place kind path) := by
  unfold loadArtifact FileSystem.read
  dsimp only
  rw [h.samePlaces.find_eq, ← h.room]
  cases hfind : other.find ((Path.Location.mk .top place).append path) with
  | error e => exact .error _
  | ok file =>
    dsimp only
    have hcontents := h.contents? file
    generalize fs.contents? file = bytes, other.contents? file = others at hcontents
    cases hcontents with
    | none => exact .error _
    | @some bytes others hsame =>
      dsimp only
      rcases hsame with rfl | ⟨⟨name, hlast, hsuffix⟩, v, w, hv, hw, hvw⟩
      · cases Content.ofText fs.room kind path (Text.readText bytes) with
        | error e => exact .error _
        | ok content => exact .ok (.same _)
      · -- The file is called like the artifact, which is JSON then.
        obtain ⟨hne, hdot, hdots⟩ := not_directory_of_kind hkind
        rw [FileSystem.getLast?_of_find hne hdot hdots hfind] at hlast
        obtain rfl := Option.some.inj hlast
        have hjson := isJson_of_suffix hkind hsuffix
        rw [Path.hasSuffix_name (by decide)] at hsuffix
        rw [ofText_of_isJson hjson, ofText_of_isJson hjson, if_pos hsuffix, if_pos hsuffix, hv, hw]
        exact .ok (.json hjson hvw (Json.keysDistinct_read hw))

omit place in
theorem counterparts_reordered : Counterparts Artifact.Reordered fs other where
  places := h.samePlaces
  path_eq _ _ hab := hab.path_eq
  classifyFiles_eq _ _ hab files :=
    classifyFiles_perm files (referencedPaths_perm hab.registrations)
  loadArtifact place _ _ hkind := loadArtifact_reordered h place hkind

end Files

/-! ## Units -/

/-- Two units that are the same, except for the order of members in what they hold and the order of
their keys. -/
structure NodeUnit.Reordered (u other : NodeUnit) : Prop where
  directory : u.directory = other.directory
  stem : u.stem = other.stem
  stub : u.stub = other.stub
  device : u.device = other.device
  markup : u.markup = other.markup
  manifest : Option.Rel Artifact.Reordered u.manifest other.manifest
  locales : List.Forall₂ Artifact.Reordered u.locales other.locales
  descriptorKeys : u.descriptorKeys.Perm other.descriptorKeys

namespace NodeUnit.Reordered

variable {u other : NodeUnit} (h : u.Reordered other)
include h

theorem key_eq : u.key = other.key := by
  unfold key
  rw [h.directory, h.stem]

theorem isDual_eq : u.isDual = other.isDual := by
  unfold isDual
  rw [h.device, isSome_eq_of_rel h.manifest]

theorem manifest_isNone_eq : u.manifest.isNone = other.manifest.isNone := by
  rw [← Option.not_isSome, ← Option.not_isSome, isSome_eq_of_rel h.manifest]

theorem locales_isEmpty_eq : u.locales.isEmpty = other.locales.isEmpty := by
  rw [Bool.eq_iff_iff, List.isEmpty_iff_length_eq_zero, List.isEmpty_iff_length_eq_zero,
    h.locales.length_eq]

theorem scriptsAndMarkup_eq : u.scriptsAndMarkup = other.scriptsAndMarkup := by
  unfold scriptsAndMarkup
  rw [h.stub, h.device, h.markup]

end NodeUnit.Reordered

section Units

variable {artifacts others : List Artifact} (h : List.Forall₂ Artifact.Reordered artifacts others)
include h

theorem unitKeys_reordered : unitKeys artifacts = unitKeys others :=
  unitKeys_counterparts (fun _ _ hab => hab.kind_eq) h fun _ _ hab => hab.path_eq

theorem slot?_reordered (kind : ArtifactKind) (key : UnitKey) :
    Option.Rel Artifact.Reordered (slot? artifacts kind key) (slot? others kind key) :=
  rel_getLast? (forall₂_filter (fun a b hab => by rw [hab.kind_eq, hab.unitKey_eq]) h)

theorem slot?_eq_of_reordered {kind : ArtifactKind} (hkind : kind.isJson = false) (key : UnitKey) :
    slot? artifacts kind key = slot? others kind key := by
  have hslot := slot?_reordered h kind key
  generalize hfirst : slot? artifacts kind key = first, slot? others kind key = second at hslot
  cases hslot with
  | none => rfl
  | some hab => rw [hab.eq_of_not_json (by rw [(mem_of_slot? hfirst).2.1]; exact hkind)]

theorem unitManifest?_reordered (key : UnitKey) :
    Option.Rel Artifact.Reordered (unitManifest? artifacts key) (unitManifest? others key) := by
  unfold unitManifest?
  rw [unitKeys_reordered h, slot?_eq_of_reordered h rfl]
  dsimp only
  split
  · exact rel_getLast? (forall₂_filter (fun a b hab => by rw [hab.kind_eq, hab.directory_eq]) h)
  · exact .none

theorem registrationsAmong_reordered :
    MembersReordered (registrationsAmong artifacts) (registrationsAmong others) :=
  registrationsAmong_counterparts (fun _ _ hab => hab.kind_eq) h (.refl []) fun _ _ hab =>
    hab.registrations

theorem unitOf_reordered (key : UnitKey) :
    (unitOf artifacts key).Reordered (unitOf others key) where
  directory := rfl
  stem := rfl
  stub := slot?_eq_of_reordered h rfl key
  device := slot?_eq_of_reordered h rfl key
  markup := slot?_eq_of_reordered h rfl key
  manifest := unitManifest?_reordered h key
  locales := forall₂_filter (fun a b hab => by rw [hab.kind_eq, hab.path_eq]) h
  descriptorKeys := by
    have hperm :=
      (registrationsAmong_reordered h).map_perm (f := fun entry => (entry.1, entry.2.str?))
      (g := fun entry => (entry.1, entry.2.str?)) fun _ _ _ hvalue => by rw [hvalue.str?]
    have hkeys :=
      (hperm.filter fun entry => entry.2.any fun reference =>
        referencedUnit reference == key).map (·.1)
    rwa [List.filter_map, List.filter_map, List.map_map, List.map_map] at hkeys

theorem groupUnits_reordered : List.Forall₂ NodeUnit.Reordered (groupUnits artifacts)
    (groupUnits others) := by
  unfold groupUnits
  rw [unitKeys_reordered h, List.forall₂_map_left_iff, List.forall₂_map_right_iff,
    List.forall₂_same]
  exact fun key _ => unitOf_reordered h key

end Units

/-- Two packages that are the same, except for the order of members in what their artifacts hold.
Their artifacts have the kinds that their paths tell. -/
structure Package.Reordered (p other : Package) : Prop where
  root : p.root = other.root
  artifacts : List.Forall₂ Artifact.Reordered p.artifacts other.artifacts
  units : p.units = groupUnits p.artifacts ∧ other.units = groupUnits other.artifacts
  kinds : ∀ a ∈ p.artifacts, kindOfPath? a.path = some a.kind

theorem Package.Reordered.descriptor_iff {p other : Package} (h : p.Reordered other)
    {a : Artifact} (ha : a ∈ p.artifacts) :
    a.kind = .descriptor ↔ a.path = descriptorName := by
  rw [← kindOfPath?_descriptor, h.kinds a ha, Option.some.injEq]

/-- The same package is found, up to the order of members in JSON files, or the search fails in the
same way. -/
theorem discover_reordered {fs other : FileSystem} (h : fs.Reordered other)
    (root : Path.Location) (exclude : List String)
    (workers : Int) : EndAlike Package.Reordered (discover fs root exclude workers)
    (discover other root exclude workers) := by
  refine ((counterparts_reordered h).discover root exclude workers).imp ?_
  rintro p q hp ⟨hroot, hartifacts, hunits⟩
  refine ⟨hroot, hartifacts, hunits, fun a ha => ?_⟩
  obtain ⟨place, hplace, _⟩ := discover_eq_ok hp
  exact (classify_eq_some_iff.1 (found_of_mem_artifacts hp hplace ha).2.1).1

end TwinNode
