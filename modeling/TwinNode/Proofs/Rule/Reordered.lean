import TwinNode.Proofs.Declaration.Reordered
import TwinNode.Proofs.Rule.NodeMap
import TwinNode.Proofs.Validation.Contribution

namespace TwinNode

open TwinNode.Json (Value)
open TwinNode.Json.Value (MembersReordered)

namespace Package.Reordered

variable {p other : Package} (h : p.Reordered other) (settings : RuleSettings)
include h

theorem facts_context_eq :
    (p.context settings).facts.facts = (other.context settings).facts.facts := h.facts_eq settings

theorem fact?_eq (path : String) (name : FactName) :
    (p.context settings).facts.fact? path name = (other.context settings).facts.fact?
      path name := by
  unfold FactSet.fact? FactSet.factsFor
  rw [h.facts_context_eq]

theorem shape_eq (path : String) (name : FactName) :
    (p.context settings).facts.shape path name = (other.context settings).facts.shape
      path name := by
  unfold FactSet.shape
  rw [h.fact?_eq]

theorem form_eq (path : String) (name : FactName) :
    (p.context settings).facts.form path name = (other.context settings).facts.form path name := by
  unfold FactSet.form
  rw [h.fact?_eq]

theorem holds_eq (path : String) (name : FactName) :
    (p.context settings).facts.holds path name = (other.context settings).facts.holds
      path name := by
  unfold FactSet.holds
  rw [h.fact?_eq]

theorem ofKind (kind : ArtifactKind) :
    List.Forall₂ Artifact.Reordered (p.ofKind kind) (other.ofKind kind) :=
  forall₂_filter (fun a b hab => by rw [hab.kind_eq]) h.artifacts

theorem ofKind_eq {kind : ArtifactKind} (hkind : kind.isJson = false) :
    p.ofKind kind = other.ofKind kind := by
  refine filter_eq_of_forall₂ h.artifacts (fun a b hab => by rw [hab.kind_eq]) fun a b hab ha => ?_
  have hk : a.kind = kind := of_decide_eq_true ha
  exact hab.eq_of_not_json (hk ▸ hkind)

theorem descriptor? : Option.Rel Artifact.Reordered p.descriptor? other.descriptor? :=
  rel_find? (fun a b hab => by rw [hab.kind_eq]) h.artifacts

theorem get? (path : String) : Option.Rel Artifact.Reordered (p.get? path) (other.get? path) :=
  rel_find? (fun a b hab => by rw [hab.path_eq]) h.artifacts

theorem units_reordered : List.Forall₂ NodeUnit.Reordered p.units other.units := by
  rw [h.units.1, h.units.2]
  exact groupUnits_reordered h.artifacts

end Package.Reordered

namespace Rule

theorem missingParts_reordered {u w : NodeUnit} (h : u.Reordered w) :
    missingParts u = missingParts w := by
  unfold missingParts
  rw [h.stub, h.device, h.isDual_eq, h.manifest_isNone_eq, h.key_eq, h.directory, h.stem]

variable {p other : Package} (h : p.Reordered other) (settings : RuleSettings)
include h

/-! ## Rules that find the same -/

theorem malformedJson_reordered : malformedJson (p.context settings) = malformedJson
    (other.context settings) := by
  refine filterMap_eq_of_forall₂ h.artifacts fun a _ b hab => ?_
  rw [hab.syntaxError?_eq, hab.path_eq, hab.kind_eq]

theorem mandatoryArtifacts_reordered :
    mandatoryArtifacts (p.context settings) = mandatoryArtifacts (other.context settings) := by
  have hparts : p.units.flatMap missingParts = other.units.flatMap missingParts :=
    flatMap_eq_of_forall₂ h.units_reordered fun u _ w hu => missingParts_reordered hu
  have hdescriptor : p.descriptor?.isNone = other.descriptor?.isNone := by
    rw [← Option.not_isSome, ← Option.not_isSome, isSome_eq_of_rel h.descriptor?]
  have hdevices : p.units.map (·.device) = other.units.map (·.device) :=
    map_eq_of_forall₂ h.units_reordered fun u _ w hu => hu.device
  have hany : p.units.any (·.device.isSome) = other.units.any (·.device.isSome) := by
    have hsame := congrArg (List.any · Option.isSome) hdevices
    rwa [List.any_map, List.any_map] at hsame
  unfold mandatoryArtifacts Package.context
  dsimp only
  rw [hparts, hdescriptor, h.ofKind_eq rfl, hany]

theorem localeBundles_reordered : localeBundles (p.context settings) = localeBundles
    (other.context settings) := by
  unfold localeBundles
  refine congrArg (fun found => if settings.requireLocale then found else []) ?_
  refine filterMap_eq_of_forall₂ h.units_reordered fun u _ w hu => ?_
  rw [hu.stub, hu.locales_isEmpty_eq, hu.key_eq, hu.directory, hu.stem]

theorem moduleFormat_reordered : moduleFormat (p.context settings) = moduleFormat
    (other.context settings) := by
  have hparsed :=
    forall₂_filter (p := (·.isParsed)) (q := (·.isParsed)) (fun a b hab => hab.isParsed_eq)
      (h.ofKind .manifest)
  refine filterMap_eq_of_forall₂ hparsed fun a _ b hab => ?_
  rw [h.shape_eq, hab.path_eq, hab.isObject_eq]

theorem noExtension_reordered : noExtension (p.context settings) = noExtension
    (other.context settings) := by
  unfold noExtension
  rw [h.facts_context_eq]

theorem preloadIsString_reordered :
    preloadIsString (p.context settings) = preloadIsString (other.context settings) := by
  refine filterMap_eq_of_forall₂ (h.ofKind .manifest) fun a _ b hab => ?_
  rw [h.shape_eq, hab.path_eq]

theorem stubIsCommonJs_reordered : stubIsCommonJs (p.context settings) = stubIsCommonJs
    (other.context settings) := by
  have hstubs : p.ofKind .hostStub = other.ofKind .hostStub := h.ofKind_eq rfl
  unfold stubIsCommonJs
  simp only [h.fact?_eq]
  rw [Package.context, Package.context, hstubs]

theorem deviceNoDefaultExport_reordered :
    deviceNoDefaultExport (p.context settings) = deviceNoDefaultExport
      (other.context settings) := by
  have hdevices : p.ofKind .deviceScript = other.ofKind .deviceScript := h.ofKind_eq rfl
  unfold deviceNoDefaultExport
  simp only [h.fact?_eq]
  rw [Package.context, Package.context, hdevices]

theorem deviceStaticRegistration_reordered :
    deviceStaticRegistration (p.context settings) =
      deviceStaticRegistration (other.context settings) := by
  have hdevices : p.ofKind .deviceScript = other.ofKind .deviceScript := h.ofKind_eq rfl
  unfold deviceStaticRegistration
  simp only [h.holds_eq]
  rw [Package.context, Package.context, hdevices]

theorem markupIncludesManifest_reordered :
    markupIncludesManifest (p.context settings) =
      markupIncludesManifest (other.context settings) := by
  refine filterMap_eq_of_forall₂ h.units_reordered fun u _ w hu => ?_
  rw [hu.markup, hu.isDual_eq, hu.key_eq]
  cases w.markup with
  | none => rfl
  | some markup =>
    dsimp only
    rw [h.holds_eq]
    rfl

/-! ## The node map -/

section Nodes

variable {key : String} {v w : Value}

theorem kind_get? (path : String) : (p.get? path).map (·.kind) = (other.get? path).map (·.kind) :=
  map_eq_of_rel (h.get? path) fun _ _ hab => hab.kind_eq

theorem registrationFault?_reordered (descriptor : String) (hvalue : v.Reordered w) :
    registrationFault? p descriptor key v = registrationFault? other descriptor key w :=
  registrationFault?_congr (kind_get? h) (by rw [hvalue.str?]) descriptor key

theorem registeredStub?_reordered (hvalue : v.Reordered w) :
    registeredStub? p v = registeredStub? other w :=
  registeredStub?_congr (kind_get? h) (by rw [hvalue.str?])

/-- The faults of the node map, in another order, and the same stubs that are not registered. -/
theorem registrationFaults_perm (descriptor : String) {nodes others : List (String × Value)}
    (hnodes : MembersReordered nodes others) :
    (registrationFaults p descriptor nodes).Perm (registrationFaults other descriptor others) := by
  have hregistered : (nodes.filterMap fun entry => registeredStub? p entry.2).Perm
      (others.filterMap fun entry => registeredStub? other entry.2) :=
    hnodes.filterMap_perm fun _ _ _ hvalue => registeredStub?_reordered h hvalue
  have hstubs : p.ofKind .hostStub = other.ofKind .hostStub := h.ofKind_eq rfl
  refine List.Perm.append (hnodes.filterMap_perm fun _ _ _ hvalue =>
    registrationFault?_reordered h descriptor hvalue) ?_
  simp only [hregistered.contains_eq, hstubs]
  rfl

theorem descriptorPointsToStub_perm :
    (descriptorPointsToStub (p.context settings)).Perm
      (descriptorPointsToStub (other.context settings)) := by
  have hdescriptor := h.descriptor?
  unfold descriptorPointsToStub
  simp only [h.shape_eq]
  rw [Package.context, Package.context]
  dsimp only
  generalize p.descriptor? = descriptor, other.descriptor? = descriptor' at hdescriptor
  cases hdescriptor with
  | none => exact .nil
  | some hd =>
    dsimp only
    rw [hd.isParsed_eq, hd.path_eq]
    split
    · exact .nil
    · split
      · exact .refl _
      · exact registrationFaults_perm h _ hd.registrations
      · exact .refl _

end Nodes

end Rule

end TwinNode
