import TwinNode.Proofs.Rule.Places
import TwinNode.Proofs.Rule.Reference
import TwinNode.Proofs.Rule.Reordered

/-! What the rules report on packages that differ in the order of members only is about the
same: messages and places in files are left out of account. Where the files of a unit
declare different names, another name may be the reference; but then both are declared
equally often, and the finding stands in the same file, whichever of them is the reference.
-/

namespace TwinNode

/-- What a diagnostic is about: how serious it is, which rule found it, what sort it is, and the
file. -/
def Diagnostic.outline (d : Diagnostic) : Severity × String × DiagnosticKind × String :=
  (d.severity, d.ruleId, d.kind, d.path)

/-- What a diagnostic is about, and whether it can be put in order. -/
def Diagnostic.sketch (d : Diagnostic) :
    (Severity × String × DiagnosticKind × String) × Except OrderError Unit :=
  (d.outline, d.key.map fun _ => ())

/-- What a finding is about, as far as it is not left to the rule, and whether its place can be put
in order. -/
def Finding.sketch (f : Finding) :
    (Option Severity × Option DiagnosticKind × String) × Except OrderError Unit :=
  ((f.severity, f.kind, f.path), (LocationKey.ofLocation f.location).map fun _ => ())

namespace Rule

theorem map_key (d : Diagnostic) : (d.key.map fun _ => ()) =
    (RuleKey.ofId d.ruleId).bind fun _ => (LocationKey.ofLocation d.location).map fun _ => () := by
  unfold Diagnostic.key
  cases RuleKey.ofId d.ruleId with
  | error e => rfl
  | ok rule => cases LocationKey.ofLocation d.location <;> rfl

/-- What the diagnostic of a finding is about, by what the finding is about. -/
def completed (r : Rule)
    (s : (Option Severity × Option DiagnosticKind × String) × Except OrderError Unit) :
    (Severity × String × DiagnosticKind × String) × Except OrderError Unit :=
  ((s.1.1.getD r.severity, r.id, s.1.2.1.getD r.kind, s.1.2.2),
    (RuleKey.ofId r.id).bind fun _ => s.2)

theorem sketch_diagnostic (r : Rule) (f : Finding) :
    (r.diagnostic f).sketch = r.completed f.sketch := by
  unfold Diagnostic.sketch
  rw [map_key]
  rfl

section Catalog

variable {findings : CheckContext → List Finding} {r : Rule} (hr : r.check = total findings)
include hr

theorem map_sketch_run (context : CheckContext) :
    (r.run context).map Diagnostic.sketch = ((findings context).map Finding.sketch).map
      r.completed := by
  have hrun : r.run context = (findings context).map r.diagnostic := by
    unfold run
    rw [hr]
    rfl
  rw [hrun, List.map_map, List.map_map]
  exact List.map_congr_left fun f _ => sketch_diagnostic r f

theorem run_perm {context context' : CheckContext}
    (hfindings : ((findings context).map Finding.sketch).Perm
      ((findings context').map Finding.sketch)) :
    ((r.run context).map Diagnostic.sketch).Perm ((r.run context').map Diagnostic.sketch) := by
  rw [map_sketch_run hr, map_sketch_run hr]
  exact hfindings.map _

theorem run_perm_of_eq {context context' : CheckContext}
    (hfindings : findings context = findings context') :
    ((r.run context).map Diagnostic.sketch).Perm ((r.run context').map Diagnostic.sketch) :=
  run_perm hr (.of_eq (congrArg (List.map Finding.sketch) hfindings))

end Catalog

/-! ## Names that may both be the reference -/

section Ties

variable {identities others : List Identity}

theorem Prevails.perm (hperm : identities.Perm others) {r : Identity} (h : Prevails identities r) :
    Prevails others r := by
  have hfrequency : ∀ name, frequency others name = frequency identities name :=
    fun name => (hperm.countP_eq _).symm
  refine ⟨hperm.mem_iff.1 h.mem, fun i hi => ?_, fun i hi heq => ?_⟩
  · rw [hfrequency, hfrequency]
    exact h.frequent i (hperm.mem_iff.2 hi)
  · rw [hfrequency, hfrequency] at heq
    exact h.least i (hperm.mem_iff.2 hi) heq

theorem TellsMismatch.perm (hperm : identities.Perm others) {f : Finding} {r : Identity}
    (h : TellsMismatch f identities r) :
    TellsMismatch f others r := by
  obtain ⟨i, hi, hstands⟩ := h.standsAt
  exact ⟨⟨i, hperm.mem_iff.1 hi, hstands⟩, fun i hi => h.least i (hperm.mem_iff.2 hi),
    h.namesReference, fun i hi => h.namesOthers i (hperm.mem_iff.2 hi), h.kind, h.severity⟩

variable {f g : Finding} {r s : Identity} (hf : TellsMismatch f identities r)
  (hg : TellsMismatch g identities s)
include hf hg

theorem TellsMismatch.path_le (h : r = s ∨ Prevails identities r ∧ Prevails identities s) :
    f.path ≤ g.path := by
  obtain ⟨i, hi, hne, hpath, _⟩ := hg.standsAt
  rw [hpath]
  by_cases hir : i.value = r.value
  · -- The declaration that differs from one reference has the name of the other one, whose path is
    -- least for this name.
    have hrs : s.value ≠ r.value := fun heq => hne (hir.trans heq.symm)
    obtain rfl | ⟨hr, hs⟩ := h
    · exact absurd rfl hrs
    · have hfrequency : frequency identities i.value = frequency identities s.value := by
        rw [hir]
        exact Nat.le_antisymm (hs.frequent r hr.mem) (hr.frequent s hs.mem)
      exact String.le_trans (hf.least s hs.mem hrs) (hs.least i hi hfrequency)
  · exact hf.least i hi hir

/-- The mismatch is reported in the same file, whichever name is the reference. -/
theorem TellsMismatch.path_eq (h : r = s ∨ Prevails identities r ∧ Prevails identities s) :
    f.path = g.path :=
  String.le_antisymm (hf.path_le hg h) (hg.path_le hf (h.imp Eq.symm And.symm))

end Ties

variable {p other : Package} (h : p.Reordered other) (settings : RuleSettings)
include h

/-! ## Type names -/

/-- The first names that the scripts and the markup of a unit declare. -/
def firstNames (facts : FactSet) (u : NodeUnit) : List Identity :=
  (declaring u).filterMap fun a => (declared facts a).head?

omit h in
theorem of_mem_firstNames {facts : FactSet} {u : NodeUnit} {i : Identity}
    (h : i ∈ firstNames facts u) :
    ∃ a ∈ u.scriptsAndMarkup, (declared facts a).head? = some i ∧ i.path = a.path := by
  obtain ⟨a, ha, hfirst⟩ := List.mem_filterMap.1 h
  have hin : i ∈ facts.identitiesFor a.path := mem_declared.1 (List.mem_of_mem_head? hfirst)
  exact ⟨a, List.mem_of_mem_filter ha, hfirst, beq_iff_eq.1 (List.mem_filter.1 hin).2⟩

section Units

variable {u w : NodeUnit} (hu : u.Reordered w) (hpart : u.PartOf p.artifacts)

/-- Scripts and markup are not where the descriptor is. -/
theorem path_ne_descriptor {a : Artifact} (hpart : u.PartOf p.artifacts)
    (ha : a ∈ u.scriptsAndMarkup) :
    a.path ≠ descriptorName := by
  intro hpath
  have hkind := (h.descriptor_iff (mem_of_part hpart ha)).2 hpath
  rcases NodeUnit.mem_scriptsAndMarkup.1 ha with ha | ha | ha
  · rw [(hpart.stub a ha).2] at hkind
    cases hkind
  · rw [(hpart.device a ha).2] at hkind
    cases hkind
  · rw [(hpart.markup a ha).2] at hkind
    cases hkind

theorem missingIdentity?_reordered (a : Artifact) :
    missingIdentity? (p.context settings).facts a =
      missingIdentity? (other.context settings).facts a := by
  unfold missingIdentity?
  simp only [h.form_eq]

theorem declared_reordered {a : Artifact} (hpath : a.path ≠ descriptorName) :
    declared (p.context settings).facts a = declared (other.context settings).facts a := by
  have hsame : (p.context settings).facts.identitiesFor a.path =
      (other.context settings).facts.identitiesFor a.path :=
    h.identitiesFor_eq settings hpath
  unfold declared
  rw [hsame]

theorem disagreement?_reordered {a : Artifact} (hpath : a.path ≠ descriptorName) :
    disagreement? (p.context settings).facts a = disagreement?
      (other.context settings).facts a := by
  unfold disagreement?
  rw [declared_reordered h settings hpath]

/-- Keys are declared in the descriptor, at places that can be ordered. -/
theorem of_mem_keyIdentities {i : Identity} (hi : i ∈ keyIdentities (p.context settings) u) :
    i.path = descriptorName ∧ LocationKey.Placed (some i.location) := by
  unfold keyIdentities Package.context at hi
  dsimp only at hi
  split at hi
  · cases hi
  · next d hd =>
    have hkind : d.kind = .descriptor := by simpa using List.find?_some hd
    split at hi
    · obtain ⟨hin, hkey⟩ := List.mem_filter.1 hi
      have hpath : i.path = d.path := beq_iff_eq.1 (List.mem_filter.1 hin).2
      refine ⟨hpath.trans ((h.descriptor_iff (List.mem_of_find?_eq_some hd)).1 hkind), ?_⟩
      obtain ⟨key, _, hlocation⟩ := List.mem_map.1 (List.contains_iff_mem.1 hkey)
      exact hlocation ▸ placed_registration key
    · cases hi

include hu

omit h in
theorem declaring_reordered : declaring u = declaring w := by
  unfold declaring
  rw [hu.scriptsAndMarkup_eq]

theorem keyIdentities_perm : (keyIdentities (p.context settings) u).Perm
    (keyIdentities (other.context settings) w) := by
  have hkeys := hu.descriptorKeys.map registrationLocation
  have hidentities := h.identitiesFor_perm settings
  have hdescriptor := h.descriptor?
  unfold keyIdentities
  rw [Package.context, Package.context]
  dsimp only
  generalize p.descriptor? = descriptor, other.descriptor? = descriptor' at hdescriptor
  cases hdescriptor with
  | none => exact .nil
  | some hd =>
    dsimp only
    simp only [hd.isParsed_eq, hd.path_eq, hkeys.contains_eq]
    split
    · exact (hidentities _).filter _
    · exact .nil

include hpart

theorem firstNames_reordered : firstNames (p.context settings).facts u = firstNames
    (other.context settings).facts w := by
  unfold firstNames
  rw [← declaring_reordered hu]
  refine List.filterMap_congr fun a ha => ?_
  rw [declared_reordered h settings (path_ne_descriptor h hpart (List.mem_of_mem_filter ha))]

theorem representatives_perm :
    (representatives (p.context settings) u).Perm (representatives (other.context settings) w) := by
  show (firstNames _ u ++ keyIdentities _ u).Perm (firstNames _ w ++ keyIdentities _ w)
  rw [firstNames_reordered h settings hu hpart]
  exact (keyIdentities_perm h settings hu).append_left _

/-- What a script or markup declares is found among what is compared. -/
theorem find?_representatives {path : String} (hpath : path ≠ descriptorName) :
    (representatives (p.context settings) u).find? (·.path == path) =
      (representatives (other.context settings) w).find? (·.path == path) := by
  have hkeys := keyIdentities_perm h settings hu
  have hne : ∀ i ∈ keyIdentities (p.context settings) u, ¬(i.path == path) = true := fun i hi =>
    mt beq_iff_eq.1 fun heq => hpath (heq.symm.trans (of_mem_keyIdentities h settings hi).1)
  have hnone : (keyIdentities (p.context settings) u).find? (·.path == path) = none :=
    List.find?_eq_none.2 hne
  have hnone' : (keyIdentities (other.context settings) w).find? (·.path == path) = none :=
    List.find?_eq_none.2 fun i hi => hne i (hkeys.mem_iff.2 hi)
  show (firstNames _ u ++ keyIdentities _ u).find? _ = (firstNames _ w ++ keyIdentities _ w).find? _
  rw [List.find?_append, List.find?_append, firstNames_reordered h settings hu hpart, hnone, hnone']

/-- The reference is the same, or there are two names that prevail. -/
theorem reference?_reordered {r s : Identity}
    (hr : reference? (p.context settings).facts u (representatives (p.context settings) u) = some r)
    (hs : reference? (other.context settings).facts w (representatives (other.context settings) w) =
      some s) :
    r = s ∨ Prevails (representatives (p.context settings) u) r ∧
      Prevails (representatives (p.context settings) u) s := by
  have hofStub :
    (u.stub.bind fun stub =>
        if (disagreement? (p.context settings).facts stub).isSome then none
        else (representatives (p.context settings) u).find? (·.path == stub.path)) =
      w.stub.bind fun stub =>
        if (disagreement? (other.context settings).facts stub).isSome then none
        else (representatives (other.context settings) w).find? (·.path == stub.path) := by
    rw [← hu.stub]
    cases hstub : u.stub with
    | none => rfl
    | some stub =>
      have hpath : stub.path ≠ descriptorName :=
        path_ne_descriptor h hpart (NodeUnit.mem_scriptsAndMarkup.2 (.inl hstub))
      rw [Option.bind_some, Option.bind_some, disagreement?_reordered h settings hpath,
        find?_representatives h settings hu hpart hpath]
  unfold reference? at hr hs
  dsimp only at hr hs
  rw [hofStub] at hr
  rcases Option.or_eq_some_iff.1 hr with hstub | ⟨hnone, hr⟩
  · rw [hstub, Option.some_or] at hs
    exact .inl (Option.some.inj hs)
  · rw [hnone, Option.none_or] at hs
    exact .inr ⟨prevails_of_head? hr, (prevails_of_head? hs).perm
      (representatives_perm h settings hu hpart).symm⟩

omit hu in
/-- Different first names are declared at different paths. -/
theorem firstNames_path_inj {i j : Identity} (hi : i ∈ firstNames (p.context settings).facts u)
    (hj : j ∈ firstNames (p.context settings).facts u) (hpath : i.path = j.path) : i = j := by
  obtain ⟨a, ha, hfirst, hia⟩ := of_mem_firstNames hi
  obtain ⟨b, hb, hfirst', hjb⟩ := of_mem_firstNames hj
  have hab : a.path = b.path := hia.symm.trans (hpath.trans hjb)
  have hkind : some a.kind = some b.kind := by
    rw [← h.kinds a (mem_of_part hpart ha), ← h.kinds b (mem_of_part hpart hb), hab]
  have hdeclared : declared (p.context settings).facts a =
      declared (p.context settings).facts b := by
    unfold declared
    rw [hab, Option.some.inj hkind]
  rw [hdeclared, hfirst'] at hfirst
  exact (Option.some.inj hfirst).symm

omit hu in
/-- Of several declarations at one path, all or none can be put in order. -/
theorem ordered_of_path {i j : Identity} (hi : i ∈ representatives (p.context settings) u)
    (hj : j ∈ representatives (p.context settings) u) (hpath : i.path = j.path) :
    (LocationKey.ofLocation (some i.location)).map (fun _ => ()) =
      (LocationKey.ofLocation (some j.location)).map fun _ => () := by
  have hne : ∀ i ∈ firstNames (p.context settings).facts u, i.path ≠ descriptorName := by
    intro i hi
    obtain ⟨a, ha, _, hia⟩ := of_mem_firstNames hi
    exact hia ▸ path_ne_descriptor h hpart ha
  rcases List.mem_append.1 hi with hi | hi <;> rcases List.mem_append.1 hj with hj | hj
  · rw [firstNames_path_inj h settings hpart hi hj hpath]
  · exact absurd (hpath.trans (of_mem_keyIdentities h settings hj).1) (hne i hi)
  · exact absurd (hpath.symm.trans (of_mem_keyIdentities h settings hi).1) (hne j hj)
  · obtain ⟨k, hk⟩ := (of_mem_keyIdentities h settings hi).2
    obtain ⟨l, hl⟩ := (of_mem_keyIdentities h settings hj).2
    rw [hk, hl]
    rfl

theorem mismatch?_reordered :
    (mismatch? (p.context settings) u).map Finding.sketch =
      (mismatch? (other.context settings) w).map Finding.sketch := by
  have hperm := representatives_perm h settings hu hpart
  have hnone : mismatch? (p.context settings) u = none ↔
      mismatch? (other.context settings) w = none := by
    rw [mismatch?_eq_none_iff, mismatch?_eq_none_iff]
    exact allSame_congr fun name => (hperm.map _).mem_iff
  cases hf : mismatch? (p.context settings) u with
  | none => rw [hnone.1 hf]
  | some f =>
    cases hg : mismatch? (other.context settings) w with
    | none => rw [hnone.2 hg] at hf; cases hf
    | some g =>
      obtain ⟨r, hr, _⟩ := Option.bind_eq_some_iff.1 hf
      obtain ⟨s, hs, _⟩ := Option.bind_eq_some_iff.1 hg
      have htells := tellsMismatch_of_mismatch? hf hr
      have htells' := (tellsMismatch_of_mismatch? hg hs).perm hperm.symm
      have hpath : f.path = g.path :=
        htells.path_eq htells' (reference?_reordered h settings hu hpart hr hs)
      obtain ⟨i, hi, _, hfi, hplace⟩ := htells.standsAt
      obtain ⟨j, hj, _, hgj, hplace'⟩ := htells'.standsAt
      have hordered := ordered_of_path h settings hpart hi hj (hfi.symm.trans (hpath.trans hgj))
      rw [Option.map_some, Option.map_some, Finding.sketch, Finding.sketch, htells.severity,
        htells'.severity, htells.kind, htells'.kind, hpath, hplace, hplace', hordered]

theorem unitIdentity_reordered :
    (unitIdentity (p.context settings) u).map Finding.sketch =
      (unitIdentity (other.context settings) w).map Finding.sketch := by
  have hparts :
    (declaring u).flatMap (fun a => (missingIdentity? (p.context settings).facts a).toList ++
        (disagreement? (p.context settings).facts a).toList) =
      (declaring w).flatMap fun a => (missingIdentity? (other.context settings).facts a).toList ++
        (disagreement? (other.context settings).facts a).toList := by
    rw [← declaring_reordered hu]
    refine List.flatMap_congr fun a ha => ?_
    rw [missingIdentity?_reordered h settings,
      disagreement?_reordered h settings (path_ne_descriptor h hpart (List.mem_of_mem_filter ha))]
  unfold unitIdentity
  rw [List.map_append, List.map_append, hparts, ← Option.toList_map, ← Option.toList_map,
    mismatch?_reordered h settings hu hpart]

end Units

/-- What is found about the type names is about the same. -/
theorem identityConsistency_reordered :
    (identityConsistency (p.context settings)).map Finding.sketch =
    (identityConsistency (other.context settings)).map Finding.sketch := by
  unfold identityConsistency
  rw [List.map_flatMap, List.map_flatMap]
  refine flatMap_eq_of_forall₂ h.units_reordered fun u hu w huw => ?_
  exact unitIdentity_reordered h settings huw (partOf_of_mem_groupUnits (h.units.1 ▸ hu))

/-! ## The catalog -/

/-- What each rule of the catalog reports is about the same. -/
theorem run_reordered : ∀ r ∈ catalog, ((r.run (p.context settings)).map Diagnostic.sketch).Perm
    ((r.run (other.context settings)).map Diagnostic.sketch) := by
  simp only [catalog, List.forall_mem_cons, List.not_mem_nil, false_imp_iff, implies_true, and_true]
  exact ⟨run_perm_of_eq rfl (malformedJson_reordered h settings),
    run_perm_of_eq rfl (mandatoryArtifacts_reordered h settings),
    run_perm_of_eq rfl (localeBundles_reordered h settings),
      run_perm_of_eq rfl (moduleFormat_reordered h settings),
    run_perm_of_eq rfl (noExtension_reordered h settings),
      run_perm_of_eq rfl (preloadIsString_reordered h settings),
    run_perm rfl ((descriptorPointsToStub_perm h settings).map _),
      run_perm_of_eq rfl (stubIsCommonJs_reordered h settings),
    run_perm_of_eq rfl (deviceNoDefaultExport_reordered h settings),
    run_perm_of_eq rfl (deviceStaticRegistration_reordered h settings),
    run_perm rfl (.of_eq (identityConsistency_reordered h settings)),
    run_perm_of_eq rfl (markupIncludesManifest_reordered h settings)⟩

end Rule

end TwinNode
