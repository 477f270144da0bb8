import Mathlib.Tactic.MkIffOfInductiveProp
import TwinNode.Proofs.Rule.Presence

namespace TwinNode

open TwinNode.Rule
open TwinNode.Json (Value)

/-- No rule of the catalog finds anything. -/
@[mk_iff]
structure Quiet (c : CheckContext) : Prop where
  malformedJson : malformedJson c = []
  mandatoryArtifacts : mandatoryArtifacts c = []
  localeBundles : localeBundles c = []
  moduleFormat : moduleFormat c = []
  noExtension : noExtension c = []
  preloadIsString : preloadIsString c = []
  descriptorPointsToStub : descriptorPointsToStub c = []
  stubIsCommonJs : stubIsCommonJs c = []
  deviceNoDefaultExport : deviceNoDefaultExport c = []
  deviceStaticRegistration : deviceStaticRegistration c = []
  identityConsistency : identityConsistency c = []
  markupIncludesManifest : markupIncludesManifest c = []

theorem runRules_eq_nil_iff {c : CheckContext} : runRules catalog c = [] ↔ Quiet c := by
  unfold runRules catalog run total
  simp only [List.flatMap_cons, List.flatMap_nil, List.append_nil, List.append_eq_nil_iff,
    List.map_eq_nil_iff, quiet_iff]

section Descriptor

variable {p : Package} {settings : RuleSettings} {d : Artifact} (hd : p.descriptor? = some d)
include hd

theorem registrationFaults_of_quiet (hparsed : d.isParsed = true)
    (hquiet : descriptorPointsToStub (p.context settings) = []) :
    registrationFaults p d.path d.registrations = [] := by
  unfold descriptorPointsToStub Package.context at hquiet
  simp only [hd, hparsed, Bool.not_true, Bool.false_eq_true, if_false] at hquiet
  split at hquiet
  · cases hquiet
  · exact hquiet
  · cases hquiet

end Descriptor

theorem isParsed_of_registrations {d : Artifact} (h : d.registrations ≠ []) :
    d.isParsed = true := by
  unfold Artifact.isParsed Artifact.syntaxError?
  cases hcontent : d.content with
  | malformed e =>
    unfold Artifact.registrations Artifact.json? at h
    rw [hcontent] at h
    exact absurd rfl h
  | json | scanned | present => rfl

/-- Where nothing is found about the node map, the descriptor names host stubs. -/
theorem named_stubs {p : Package} {settings : RuleSettings}
    (hpaths : ∀ b ∈ p.artifacts, ∀ c ∈ p.artifacts, b.path = c.path → b = c)
    (hquiet : descriptorPointsToStub (p.context settings) = []) :
    ∀ reference ∈ p.referenced, ∃ b ∈ p.artifacts, b.path = reference ∧ b.kind = .hostStub := by
  intro reference href
  unfold Package.referenced at href
  cases hd : p.descriptor? with
  | none =>
    rw [hd] at href
    cases href
  | some d =>
    rw [hd] at href
    obtain ⟨entry, hentry, hvalue⟩ := List.mem_filterMap.1 href
    have hentry : entry ∈ d.registrations := hentry
    have hfaults :=
      registrationFaults_of_quiet hd (isParsed_of_registrations (List.ne_nil_of_mem hentry)) hquiet
    have hfault := List.filterMap_eq_nil_iff.1 (List.append_eq_nil_iff.1 hfaults).1 entry hentry
    obtain ⟨written, hwritten, rfl⟩ := Option.map_eq_some_iff.1 hvalue
    obtain hstr : entry.2 = .str written := by
      cases hv : entry.2 with
      | str s =>
        rw [hv] at hwritten
        rw [Option.some.inj hwritten]
      | null | bool | int | real | list | object =>
        rw [hv] at hwritten
        cases hwritten
    rw [hstr, registrationFault?_str, any_get?_iff hpaths] at hfault
    exact hfault.2

/-- If nothing is missing next to a damaged file, then all that is found is the damage. -/
theorem Package.Damageable.quiet_but {p : Package} {files : List String} {x : Damage}
    (h : p.Damageable files x) {settings : RuleSettings} (hquiet : Quiet (p.context settings))
    (hmissing : Rule.mandatoryArtifacts ((p.damaged files x).context settings) = []) :
    runRules catalog.tail ((p.damaged files x).context settings) = [] := by
  have hlocale := h.localeBundles_damaged hquiet.localeBundles
  have hformat := h.moduleFormat_damaged hquiet.moduleFormat
  have hextension : Rule.noExtension ((p.damaged files x).context settings) = [] :=
    noExtension_damaged hquiet.noExtension
  have hpreload := h.preloadIsString_damaged hquiet.preloadIsString
  have hdescriptor := h.descriptorPointsToStub_damaged hquiet.descriptorPointsToStub
  have hstub := h.stubIsCommonJs_damaged hquiet.stubIsCommonJs
  have hexport := h.deviceNoDefaultExport_damaged hquiet.deviceNoDefaultExport
  have hregistration := h.deviceStaticRegistration_damaged hquiet.deviceStaticRegistration
  have hidentity := h.identityConsistency_damaged hquiet.identityConsistency
  have hmarkup := h.markupIncludesManifest_damaged hmissing hquiet.markupIncludesManifest
  unfold runRules catalog run total
  simp only [List.tail_cons, List.flatMap_cons, List.flatMap_nil, hmissing, hlocale,
    hformat, hextension, hpreload, hdescriptor, hstub, hexport, hregistration, hidentity, hmarkup,
      List.map_nil, List.append_nil]

end TwinNode
