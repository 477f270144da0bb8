import TwinNode.Proofs.Validation.Contribution

namespace TwinNode

/-- Settings by which the same declarations are found. -/
structure RuleSettings.SearchAlike (s t : RuleSettings) : Prop where
  suffixes : s.scriptSuffixes = t.scriptSuffixes
  deviceModule : s.deviceModule = t.deviceModule
  marker : s.manifestMarker = t.manifestMarker

section SearchAlike

variable {s t : RuleSettings} (h : s.SearchAlike t)
include h

theorem hasScriptSuffix_of_searchAlike : hasScriptSuffix s = hasScriptSuffix t := by
  unfold hasScriptSuffix
  rw [h.suffixes]

theorem manifestDeclarations_of_searchAlike : manifestDeclarations s = manifestDeclarations t := by
  unfold manifestDeclarations suffixedModules
  rw [hasScriptSuffix_of_searchAlike h]

theorem Artifact.declarations_of_searchAlike (a : Artifact) :
    a.declarations s = a.declarations t := by
  unfold declarations stubDeclarations markupDeclarations
  rw [h.deviceModule, h.marker, manifestDeclarations_of_searchAlike h]

theorem Package.declarations_of_searchAlike (p : Package) :
    p.declarations s = p.declarations t := by
  unfold declarations
  simp only [Artifact.declarations_of_searchAlike h]

/-- A rule of the catalog reads no more of the settings than what declarations are found by; only
the rule about locale bundles also asks whether these are wanted. -/
theorem run_of_searchAlike (p : Package) {r : Rule} (hr : r ∈ Rule.catalog)
    (hlocale : r.id ≠ "P2" ∨ s.requireLocale = t.requireLocale) :
    r.run (p.context s) = r.run (p.context t) := by
  have hfacts := p.declarations_of_searchAlike h
  unfold Package.context
  rw [hfacts]
  generalize p.declarations t = facts
  revert r
  simp only [Rule.catalog, List.forall_mem_cons, List.not_mem_nil,
    false_imp_iff, implies_true, and_true]
  refine ⟨fun _ => rfl, fun _ => rfl, fun hlocale => ?_, fun _ => rfl, fun _ => rfl,
    fun _ => rfl, fun _ => rfl, fun _ => ?_, fun _ => rfl, fun _ => rfl, fun _ => rfl, fun _ => ?_⟩
  · have hwanted := hlocale.resolve_left fun hne => hne rfl
    simp only [Rule.run, Rule.total, Rule.localeBundles, hwanted]
  · simp only [Rule.run, Rule.total, Rule.stubIsCommonJs, h.deviceModule]
  · simp only [Rule.run, Rule.total, Rule.markupIncludesManifest, h.marker]

end SearchAlike

end TwinNode
