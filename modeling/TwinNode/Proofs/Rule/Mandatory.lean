import Mathlib.Data.List.Perm.Lattice
import TwinNode.Proofs.Rule.Presence

namespace TwinNode

open TwinNode.Rule

namespace Rule

def noDescriptor : Finding where
  path := descriptorName
  message := "Package descriptor package.json is missing"

def noScript : Finding where
  path := "."
  message := "Package contains no host stub script"

def noStubFor (device : Artifact) : Finding where
  path := Path.stubPath device.path
  message := "Host stub script is missing for device script " ++ device.path

def noDeviceFor (u : NodeUnit) : Finding where
  path := Path.child u.directory (u.stem ++ Path.deviceScriptSuffix)
  message := "Device script is missing for node " ++ u.key ++ " which has a device manifest"

def noManifestFor (u : NodeUnit) : Finding where
  path := Path.child u.directory manifestName
  message := "Device manifest is missing for node " ++ u.key ++ " which has a device script"

end Rule

namespace NodeUnit

/-- The device script of a unit without a host stub. -/
def stublessDevice? (u : NodeUnit) : Option Artifact := if u.stub.isNone then u.device else none

/-- Whether a host stub has a manifest and no device script. -/
def lacksDevice (u : NodeUnit) : Bool := u.stub.isSome && u.manifest.isSome && u.device.isNone

/-- Whether a host stub and a device script have no manifest. -/
def lacksManifest (u : NodeUnit) : Bool := u.stub.isSome && u.device.isSome && u.manifest.isNone

end NodeUnit

namespace Rule

theorem missingParts_eq (u : NodeUnit) :
    missingParts u = (u.stublessDevice?.map noStubFor).toList ++
      (((Option.guard NodeUnit.lacksDevice u).map noDeviceFor).toList ++
      ((Option.guard NodeUnit.lacksManifest u).map noManifestFor).toList) := by
  unfold missingParts NodeUnit.isDual NodeUnit.stublessDevice? Option.guard
    NodeUnit.lacksDevice NodeUnit.lacksManifest
  cases hstub : u.stub <;> cases hdevice : u.device <;> cases hmanifest : u.manifest <;> rfl

/-- What is missing from units, sorted by which part it is. -/
theorem missingParts_perm (units : List NodeUnit) : (units.flatMap missingParts).Perm
    ((units.filterMap NodeUnit.stublessDevice?).map noStubFor ++
      ((units.filter NodeUnit.lacksDevice).map noDeviceFor ++
        (units.filter NodeUnit.lacksManifest).map noManifestFor)) := by
  have hstubs : (units.filterMap NodeUnit.stublessDevice?).map noStubFor =
      units.flatMap fun u => (u.stublessDevice?.map noStubFor).toList := by
    rw [List.map_filterMap, List.filterMap_eq_flatMap_toList]
  have hparts : ∀ (lacks : NodeUnit → Bool) (f : NodeUnit → Finding), (units.filter lacks).map f =
      units.flatMap fun u => ((Option.guard lacks u).map f).toList := by
    intro lacks f
    rw [← List.filterMap_eq_filter, List.map_filterMap, List.filterMap_eq_flatMap_toList]
  rw [hstubs, hparts, hparts, funext missingParts_eq]
  refine (List.flatMap_append_perm units _ _).symm.trans (List.Perm.append_left _ ?_)
  exact (List.flatMap_append_perm units _ _).symm

/-- The findings of the rule in their order: the descriptor, the parts of each unit, the scripts of
the package. -/
theorem mandatoryArtifacts_eq {p : Package} (hunits : p.units = groupUnits p.artifacts)
    (settings : RuleSettings) :
    mandatoryArtifacts (p.context settings) =
      (if ∃ a ∈ p.artifacts, a.kind = .descriptor then [] else [noDescriptor]) ++
        p.units.flatMap missingParts ++
        if ∃ a ∈ p.artifacts, a.kind = .hostStub ∨ a.kind = .deviceScript then []
        else [noScript] := by
  have hdescriptor : p.descriptor?.isNone = true ↔ ¬∃ a ∈ p.artifacts, a.kind = .descriptor := by
    rw [Option.isNone_iff_eq_none, Package.descriptor?, List.find?_eq_none]
    simp
  have hscript := scriptless_iff hunits
  unfold mandatoryArtifacts Package.context
  dsimp only
  congr 1
  · congr 1
    split_ifs with hnone hsome hsome
    · exact absurd hsome (hdescriptor.1 hnone)
    · rfl
    · rfl
    · exact absurd (hdescriptor.2 hsome) hnone
  · split_ifs with hnone hsome hsome
    · exact absurd hsome (hscript.1 hnone)
    · rfl
    · rfl
    · exact absurd (hscript.2 hsome) hnone

end Rule

/-- What the rule about mandatory files reports on a package: nothing exactly if there is a
descriptor and a host stub, each device script has a host stub and a manifest in its unit, and each
host stub with a manifest has a device script. Otherwise there is one finding for the descriptor,
one for each unit that lacks one of these parts, and one for a package without scripts. -/
theorem mandatoryArtifacts_reported {fs : FileSystem} {root : Path.Location}
    {exclude : List String} {workers : Int} {p : Package}
    (h : discover fs root exclude workers = .ok p) (settings : RuleSettings) :
    (mandatoryArtifacts (p.context settings) = [] ↔
      (∃ a ∈ p.artifacts, a.kind = .descriptor) ∧ (∃ a ∈ p.artifacts, a.kind = .hostStub) ∧
        (∀ u ∈ p.units, u.device.isSome = true → u.stub.isSome = true ∧ u.manifest.isSome = true) ∧
          ∀ u ∈ p.units, u.stub.isSome = true → u.manifest.isSome = true → u.device.isSome = true) ∧
    (mandatoryArtifacts (p.context settings)).Perm
      ((if ∃ a ∈ p.artifacts, a.kind = .descriptor then [] else [noDescriptor]) ++
        ((p.units.filterMap NodeUnit.stublessDevice?).map noStubFor ++
          ((p.units.filter NodeUnit.lacksDevice).map noDeviceFor ++
            (p.units.filter NodeUnit.lacksManifest).map noManifestFor)) ++
        if ∃ a ∈ p.artifacts, a.kind = .hostStub ∨ a.kind = .deviceScript then []
        else [noScript]) := by
  obtain ⟨_, _, _, _, hunits⟩ := discover_eq_ok h
  refine ⟨?_, ?_⟩
  · rw [mandatoryArtifacts_eq_nil_iff hunits, isSome_descriptor?_iff]
    simp only [missingParts_eq_nil_iff]
    constructor
    · rintro ⟨hdescriptor, hparts, a, ha, hkind⟩
      refine ⟨hdescriptor, ?_, fun u hu hdevice => ?_,
        fun u hu hstub hmanifest => ((hparts u hu).2 hstub).2 hmanifest⟩
      · rcases hkind with hkind | hkind
        · exact ⟨a, ha, hkind⟩
        -- A device script has a host stub in its unit.
        · have hdevice : (unitOf p.artifacts a.unitKey).device.isSome = true :=
            slot?_isSome_iff.2 ⟨a, ha, hkind, rfl⟩
          have hstub := (hparts _ (unitOf_mem_units h ha (hkind ▸ rfl))).1 hdevice
          obtain ⟨b, hb, hkind, _⟩ := slot?_isSome_iff.1 hstub
          exact ⟨b, hb, hkind⟩
      · have hstub := (hparts u hu).1 hdevice
        exact ⟨hstub, ((hparts u hu).2 hstub).1 hdevice⟩
    · rintro ⟨hdescriptor, ⟨a, ha, hkind⟩, hdevices, hstubs⟩
      refine ⟨hdescriptor, fun u hu => ⟨fun hdevice => (hdevices u hu hdevice).1, fun hstub => ?_⟩,
        a, ha, .inl hkind⟩
      exact ⟨fun hdevice => (hdevices u hu hdevice).2, hstubs u hu hstub⟩
  · rw [mandatoryArtifacts_eq hunits]
    exact ((missingParts_perm p.units).append_left _).append_right _

/-- A page with its host stub, and a device script of another stem. -/
def strayDevice : FileSystem :=
  ⟨[(["b.js"], []), (["b.html"], []), (["a.mcu.js"], [])], [], [], usualRoom⟩

def strayDeviceArtifacts : List Artifact :=
  [emptyDevice "a.mcu.js", emptyPage "b.html", emptyStub "b.js"]

def strayDevicePackage : Package := ⟨"/", strayDeviceArtifacts, groupUnits strayDeviceArtifacts⟩

theorem discover_strayDevice : discover strayDevice (Path.Location.ofString "/")
    [] 1 = .ok strayDevicePackage := by
  have hroot : checkRoot strayDevice (Path.Location.ofString "/") = .ok [] := by rfl
  have hfound : foundFiles strayDevice [] [] = ["a.mcu.js", "b.html", "b.js"] := by
    refine sortPaths_eq ?_ (by decide)
    show ["b.js", "b.html", "a.mcu.js"].Perm ["a.mcu.js", "b.html", "b.js"]
    decide
  refine discover_of_artifacts none strayDeviceArtifacts hroot (by decide) hfound
    rfl (by rfl) ?_ (by decide)
  unfold strayDeviceArtifacts
  simp only [List.forall_mem_cons]
  exact ⟨by rfl, by rfl, by rfl, List.forall_mem_nil _⟩

theorem groupUnits_strayDevice : groupUnits strayDeviceArtifacts =
    [unitOf strayDeviceArtifacts ("", "a"), unitOf strayDeviceArtifacts ("", "b")] := by
  have hkeys : unitKeys strayDeviceArtifacts = [("", "a"), ("", "b")] := by decide
  unfold groupUnits
  rw [hkeys, List.mergeSort_of_pairwise (by decide)]
  rfl

/-- The package lacks a descriptor, and the device script a host stub. -/
theorem mandatoryArtifacts_reported_strayDevice :
    discover strayDevice (Path.Location.ofString "/") [] 1 = .ok strayDevicePackage ∧
      (mandatoryArtifacts (strayDevicePackage.context {})).Perm
        [noDescriptor, noStubFor (emptyDevice "a.mcu.js")] := by
  refine ⟨discover_strayDevice,
    (mandatoryArtifacts_reported discover_strayDevice {}).2.trans (.of_eq ?_)⟩
  unfold strayDevicePackage
  dsimp only
  rw [groupUnits_strayDevice]
  rfl

end TwinNode
