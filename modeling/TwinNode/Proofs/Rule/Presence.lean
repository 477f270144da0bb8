import TwinNode.Proofs.Rule.Damaged

/-! A package has to have a descriptor and a script, and where a unit has a device script or
a host stub next to a manifest, it has all three. When the descriptor is damaged, the host
stubs that only it names are gone: if they were all scripts that there were, or if a
manifest is now that of a host stub without a device script, then this is reported as well.
-/

namespace TwinNode

open TwinNode.Rule

/-- The finding about an artifact with a syntax error. A broken locale bundle is only a warning. -/
def syntaxFinding (e : Json.SyntaxError) (a : Artifact) : Finding where
  path := a.path
  message := "Invalid JSON: " ++ e.problem.message
  location := e.position.location
  severity := if a.kind = .localeBundle then some .warning else none

/-- There is a script, and no host stub next to a manifest lacks its device script. -/
def SelfContained (artifacts : List Artifact) : Prop :=
  (∃ a ∈ artifacts, a.kind = .hostStub ∨ a.kind = .deviceScript) ∧
    ∀ u ∈ groupUnits artifacts, u.stub.isSome = true → u.manifest.isSome = true →
      u.device.isSome = true

namespace Rule

/-- A unit with a device script has all parts, and a host stub has both others or none of them. -/
theorem missingParts_eq_nil_iff {u : NodeUnit} : missingParts u = [] ↔
    (u.device.isSome = true → u.stub.isSome = true) ∧
      (u.stub.isSome = true → (u.device.isSome = true ↔ u.manifest.isSome = true)) := by
  unfold missingParts NodeUnit.isDual
  cases hstub : u.stub <;> cases hdevice : u.device <;> cases hmanifest : u.manifest <;> simp

/-- Where units are grouped from the artifacts, the package has no script exactly if it has no host
stub and no unit has a device script. -/
theorem scriptless_iff {q : Package} (hunits : q.units = groupUnits q.artifacts) :
    ((q.ofKind .hostStub).isEmpty && !q.units.any (·.device.isSome)) = true ↔
      ¬∃ a ∈ q.artifacts, a.kind = .hostStub ∨ a.kind = .deviceScript := by
  have hdevice : q.units.any (·.device.isSome) = true ↔
      ∃ a ∈ q.artifacts, a.kind = .deviceScript := by
    rw [List.any_eq_true, hunits]
    constructor
    · rintro ⟨u, hu, hdevice⟩
      obtain ⟨key, _, rfl⟩ := mem_groupUnits.1 hu
      obtain ⟨a, ha, hkind, _⟩ := slot?_isSome_iff.1 hdevice
      exact ⟨a, ha, hkind⟩
    · rintro ⟨a, ha, hkind⟩
      refine ⟨unitOf q.artifacts a.unitKey, mem_groupUnits.2 ⟨a.unitKey, ?_, rfl⟩,
        slot?_isSome_iff.2 ⟨a, ha, hkind, rfl⟩⟩
      exact mem_unitKeys.2 ⟨a, ha, hkind ▸ rfl, rfl⟩
  have hstub : (q.ofKind .hostStub).isEmpty = true ↔ ¬∃ a ∈ q.artifacts, a.kind = .hostStub := by
    simp [Package.ofKind, List.filter_eq_nil_iff]
  rw [Bool.and_eq_true, Bool.not_eq_true', ← Bool.not_eq_true, hdevice, hstub, ← not_or]
  simp only [and_or_left, exists_or]

theorem isSome_descriptor?_iff {q : Package} : q.descriptor?.isSome = true ↔
    ∃ a ∈ q.artifacts, a.kind = .descriptor := by
  unfold Package.descriptor?
  simp

theorem mandatoryArtifacts_eq_nil_iff {q : Package} (hunits : q.units = groupUnits q.artifacts)
    (settings : RuleSettings) :
    mandatoryArtifacts (q.context settings) = [] ↔
      q.descriptor?.isSome = true ∧ (∀ u ∈ q.units, missingParts u = []) ∧
      ∃ a ∈ q.artifacts, a.kind = .hostStub ∨ a.kind = .deviceScript := by
  have hscript : ((q.ofKind .hostStub).isEmpty && !q.units.any (·.device.isSome)) = false ↔
      ∃ a ∈ q.artifacts, a.kind = .hostStub ∨ a.kind = .deviceScript := by
    rw [← Bool.not_eq_true, scriptless_iff hunits, not_not]
  rw [← hscript]
  unfold mandatoryArtifacts Package.context
  dsimp only
  rw [List.append_eq_nil_iff, List.append_eq_nil_iff, List.flatMap_eq_nil_iff, and_assoc]
  cases q.descriptor? <;>
    cases ((q.ofKind .hostStub).isEmpty && !q.units.any (·.device.isSome)) <;> simp

end Rule

/-- Where nothing is missing, the package is self-contained. -/
theorem selfContained_of_quiet {q : Package} (hunits : q.units = groupUnits q.artifacts)
    {settings : RuleSettings} (hquiet : mandatoryArtifacts (q.context settings) = []) :
    SelfContained q.artifacts := by
  obtain ⟨_, hparts, hscript⟩ := (mandatoryArtifacts_eq_nil_iff hunits settings).1 hquiet
  refine ⟨hscript, fun u hu hstub hmanifest => ?_⟩
  exact ((missingParts_eq_nil_iff.1 (hparts u (hunits ▸ hu))).2 hstub).2 hmanifest

theorem selfContained_map_on (x : Damage) (artifacts : List Artifact) :
    SelfContained (artifacts.map x.on) ↔ SelfContained artifacts := by
  unfold SelfContained
  simp only [mem_groupUnits, unitKeys_map_on, forall_exists_index, and_imp,
    forall_apply_eq_imp_iff₂, List.mem_map, exists_exists_and_eq_and, Damage.on_kind]
  have hparts : ∀ key, (unitOf (artifacts.map x.on) key).stub.isSome =
    (unitOf artifacts key).stub.isSome ∧
      (unitOf (artifacts.map x.on) key).device.isSome = (unitOf artifacts key).device.isSome ∧
      (unitOf (artifacts.map x.on) key).manifest.isSome =
        (unitOf artifacts key).manifest.isSome := by
    intro key
    simp [unitOf, slot?_map_on, unitManifest?_map_on]
  simp only [hparts]

namespace Package.Damageable

variable {p : Package} {files : List String} {x : Damage} (h : p.Damageable files x)
  {settings : RuleSettings}
include h

/-- Where nothing was missing, the same is missing from a self-contained package: nothing. -/
theorem mandatoryArtifacts_damaged_iff (hquiet : mandatoryArtifacts (p.context settings) = []) :
    mandatoryArtifacts ((p.damaged files x).context settings) = [] ↔
      SelfContained (p.artifacts.filter (Artifact.keptBy files (x.references p))) := by
  have hmap : SelfContained (p.damaged files x).artifacts ↔
      SelfContained (p.artifacts.filter (Artifact.keptBy files (x.references p))) :=
        selfContained_map_on x _
  rw [← hmap]
  refine ⟨selfContained_of_quiet rfl, fun ⟨hscript, halone⟩ => ?_⟩
  obtain ⟨hdescriptor, hparts, _⟩ := (mandatoryArtifacts_eq_nil_iff h.units settings).1 hquiet
  rw [mandatoryArtifacts_eq_nil_iff rfl]
  refine ⟨?_, fun u hu => ?_, hscript⟩
  · rw [h.descriptor?_damaged, Option.isSome_map]
    exact hdescriptor
  · have halone := halone u hu
    obtain ⟨key, rfl, hu'⟩ := h.mem_units_damaged hu
    obtain ⟨hstub, hboth⟩ := missingParts_eq_nil_iff.1 (hparts _ hu')
    -- A device script that is left was there before, with the host stub and the manifest.
    have hdevice : (unitOf (p.damaged files x).artifacts key).device.isSome = true →
        (unitOf (p.damaged files x).artifacts key).stub.isSome = true ∧
          (unitOf (p.damaged files x).artifacts key).manifest.isSome = true := by
      intro hd
      have hd' : (slot? p.artifacts .deviceScript key).isSome = true := by
        rwa [← h.slot?_damaged (by decide) rfl]
      have hstub' : (unitOf (p.damaged files x).artifacts key).stub =
          (unitOf p.artifacts key).stub :=
        h.slot?_stub_beside_device hd'
      have hmanifest' : (unitOf (p.damaged files x).artifacts key).manifest.isSome =
          (unitOf p.artifacts key).manifest.isSome := h.unitManifest?_beside_device hd'
      rw [hstub', hmanifest']
      exact ⟨hstub hd', (hboth (hstub hd')).1 hd'⟩
    exact missingParts_eq_nil_iff.2 ⟨fun hd => (hdevice hd).1,
      fun hs => ⟨fun hd => (hdevice hd).2, halone hs⟩⟩

/-- Where the descriptor is not damaged, nothing is missing that was there. -/
theorem selfContained_of_miss (hmiss : x.hits descriptorName = false)
    (hquiet : mandatoryArtifacts (p.context settings) = []) :
    SelfContained (p.artifacts.filter (Artifact.keptBy files (x.references p))) := by
  rw [List.filter_eq_self.2 fun a ha => h.kept a ha (.inr hmiss)]
  exact selfContained_of_quiet h.units hquiet

/-- Markup with a manifest is in a unit with a device script, if no host stub next to a manifest
lacks one. The device script was there before. -/
theorem isDual_of_damaged {key : UnitKey} {m : Artifact}
    (hmarkup : (unitOf (p.damaged files x).artifacts key).markup = some m)
    (hself : (unitOf (p.damaged files x).artifacts key).stub.isSome = true →
      (unitOf (p.damaged files x).artifacts key).manifest.isSome = true →
        (unitOf (p.damaged files x).artifacts key).device.isSome = true)
    (hdual : (unitOf (p.damaged files x).artifacts key).isDual = true) :
    (unitOf p.artifacts key).isDual = true := by
  have hdevice : (unitOf (p.damaged files x).artifacts key).device.isSome = true := by
    by_contra hnone
    rw [Option.not_isSome_iff_eq_none] at hnone
    unfold NodeUnit.isDual at hdual
    rw [hnone, Option.isSome_none, Bool.false_or] at hdual
    cases hstub : (unitOf (p.damaged files x).artifacts key).stub with
    | some _ =>
      have hsome := hself (hstub ▸ rfl) hdual
      rw [hnone] at hsome
      cases hsome
    | none =>
      have halone : (unitOf (p.damaged files x).artifacts key).manifest = none :=
        h.unitManifest?_markup_alone hmarkup hstub hnone
      rw [halone] at hdual
      cases hdual
  have hsame : (unitOf (p.damaged files x).artifacts key).device =
      (unitOf p.artifacts key).device :=
    h.slot?_damaged (by decide) rfl key
  rw [hsame] at hdevice
  rw [NodeUnit.isDual, hdevice, Bool.true_or]

theorem markupIncludesManifest_damaged
    (hmissing : mandatoryArtifacts ((p.damaged files x).context settings) = [])
    (hquiet : markupIncludesManifest (p.context settings) = []) :
    markupIncludesManifest ((p.damaged files x).context settings) = [] := by
  have hself := (selfContained_of_quiet rfl hmissing).2
  unfold markupIncludesManifest context at hquiet ⊢
  rw [List.filterMap_eq_nil_iff] at hquiet ⊢
  intro u hu
  have hself := hself u hu
  obtain ⟨key, rfl, hu'⟩ := h.mem_units_damaged hu
  have hbefore := hquiet _ hu'
  cases hmarkup : (unitOf (p.damaged files x).artifacts key).markup with
  | none => rfl
  | some m =>
    have hmarkup' : (unitOf p.artifacts key).markup = some m :=
      (h.slot?_damaged (by decide) rfl key).symm.trans hmarkup
    obtain ⟨hm, hkind, _⟩ := mem_of_slot? hmarkup
    have hmiss := (h.mem_of_kind hm (hkind ▸ rfl)).2
    rw [hmarkup'] at hbefore
    unfold FactSet.holds at hbefore ⊢
    dsimp only at hbefore ⊢
    rw [h.fact?_damaged hm hmiss]
    split_ifs at hbefore ⊢ with hnow hthen
    · simp only [Bool.and_eq_true] at hnow hthen
      exact absurd ⟨⟨h.isDual_of_damaged hmarkup hself hnow.1.1, hnow.1.2⟩, hnow.2⟩ hthen
    · rfl

/-- What is read from the damaged file is part of the package with and without the references. -/
theorem filter_hits_kept : (p.artifacts.filter (Artifact.keptBy files (x.references p))).filter
    (x.hits ·.path) = p.artifacts.filter (x.hits ·.path) := by
  rw [List.filter_filter]
  apply List.filter_congr
  intro a ha
  cases hhit : x.hits a.path with
  | false => rfl
  | true =>
    have hne : a.kind ≠ .hostStub := by
      intro hkind
      have hjson := h.json a ha hhit
      rw [hkind] at hjson
      cases hjson
    rw [h.kept a ha (.inl hne)]
    rfl

/-- A fault is reported for each artifact that is read from the damaged file. -/
theorem malformedJson_damaged (hquiet : malformedJson (p.context settings) = []) :
    malformedJson ((p.damaged files x).context settings) =
      (p.artifacts.filter (x.hits ·.path)).map (syntaxFinding x.error) := by
  have hclean : ∀ a ∈ p.artifacts, a.syntaxError? = none := by
    intro a ha
    have hnone := List.filterMap_eq_nil_iff.1 hquiet a ha
    rwa [Option.map_eq_none_iff] at hnone
  have hfault : ∀ a ∈ p.artifacts.filter (Artifact.keptBy files (x.references p)),
      ((x.on a).syntaxError?.map fun e => syntaxFinding e (x.on a)) =
        (Option.guard (x.hits ·.path) a).map (syntaxFinding x.error) := by
    intro a ha
    have hsame : ∀ e, syntaxFinding e (x.on a) = syntaxFinding e a := fun _ => rfl
    simp only [hsame]
    rw [x.syntaxError?_on, hclean a (List.mem_of_mem_filter ha)]
    cases hhit : x.hits a.path <;> simp [Option.guard, hhit]
  rw [← h.filter_hits_kept, ← List.filterMap_eq_filter, List.map_filterMap]
  unfold malformedJson context damaged
  dsimp only
  rw [List.filterMap_map]
  exact List.filterMap_congr hfault

end Package.Damageable

end TwinNode
