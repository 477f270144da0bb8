import TwinNode.Proofs.Package.Outline
import TwinNode.Proofs.Rule.NodeMap
import TwinNode.Proofs.Validation.Contribution

/-! No rule of the catalog looks into a text. What it finds follows from what is declared
and from the package without its texts. So two packages that differ in texts only, and in
which the same is declared, have the same report. -/

namespace TwinNode

section Maps

variable {g : α → α} (xs : List α)

theorem filterMap_map_same {f : α → Option β} (h : ∀ a, f (g a) = f a) :
    (xs.map g).filterMap f = xs.filterMap f := by
  rw [List.filterMap_map]
  exact List.filterMap_congr fun a _ => h a

theorem flatMap_map_same {f : α → List β} (h : ∀ a, f (g a) = f a) :
    (xs.map g).flatMap f = xs.flatMap f := by
  rw [List.flatMap_map]
  exact congrArg (List.flatMap · xs) (funext h)

theorem any_map_same {f : α → Bool} (h : ∀ a, f (g a) = f a) : (xs.map g).any f = xs.any f := by
  rw [List.any_map]
  exact congrArg (List.any xs) (funext h)

end Maps

namespace Rule

variable (p : Package) (facts : FactSet) (settings : RuleSettings)

theorem malformedJson_outline : malformedJson ⟨p.outline, facts, settings⟩ = malformedJson
    ⟨p, facts, settings⟩ := by
  refine filterMap_map_same p.artifacts fun a => ?_
  rw [a.outline_syntaxError?]
  rfl

theorem missingParts_outline (u : NodeUnit) : missingParts u.outline = missingParts u := by
  unfold missingParts
  rw [NodeUnit.outline_isDual, NodeUnit.outline_key]
  unfold NodeUnit.outline
  cases u.stub <;> cases u.device <;> simp

theorem mandatoryArtifacts_outline :
    mandatoryArtifacts ⟨p.outline, facts, settings⟩ = mandatoryArtifacts ⟨p, facts, settings⟩ := by
  have hparts : p.outline.units.flatMap missingParts = p.units.flatMap missingParts :=
    flatMap_map_same p.units missingParts_outline
  have hdevices : p.outline.units.any (·.device.isSome) = p.units.any (·.device.isSome) :=
    any_map_same p.units fun u => Option.isSome_map
  unfold mandatoryArtifacts
  simp only [hparts, hdevices, Package.outline_descriptor?, Package.outline_ofKind,
    Option.isNone_map, List.isEmpty_map]

theorem localeBundles_outline : localeBundles ⟨p.outline, facts, settings⟩ = localeBundles
    ⟨p, facts, settings⟩ := by
  unfold localeBundles
  refine congrArg (fun found => if settings.requireLocale then found else []) ?_
  refine filterMap_map_same p.units fun u => ?_
  rw [NodeUnit.outline_key]
  unfold NodeUnit.outline
  cases u.stub with
  | none => rfl
  | some stub => simp only [Option.map_some, List.isEmpty_map, Artifact.outline_path]

theorem moduleFormat_outline : moduleFormat ⟨p.outline, facts, settings⟩ = moduleFormat
    ⟨p, facts, settings⟩ := by
  unfold moduleFormat
  dsimp only
  rw [Package.outline_ofKind, filter_outline Artifact.outline_isParsed]
  refine filterMap_map_same _ fun a => ?_
  rw [a.outline_json?, a.outline_path]

theorem preloadIsString_outline :
    preloadIsString ⟨p.outline, facts, settings⟩ = preloadIsString ⟨p, facts, settings⟩ := by
  unfold preloadIsString
  dsimp only
  rw [Package.outline_ofKind]
  exact filterMap_map_same _ fun a => rfl

theorem stubIsCommonJs_outline : stubIsCommonJs ⟨p.outline, facts, settings⟩ = stubIsCommonJs
    ⟨p, facts, settings⟩ := by
  unfold stubIsCommonJs
  dsimp only
  rw [Package.outline_ofKind]
  exact flatMap_map_same _ fun a => rfl

theorem deviceNoDefaultExport_outline :
    deviceNoDefaultExport ⟨p.outline, facts, settings⟩ =
      deviceNoDefaultExport ⟨p, facts, settings⟩ := by
  unfold deviceNoDefaultExport
  dsimp only
  rw [Package.outline_ofKind]
  exact flatMap_map_same _ fun a => rfl

theorem deviceStaticRegistration_outline :
    deviceStaticRegistration ⟨p.outline, facts, settings⟩ =
      deviceStaticRegistration ⟨p, facts, settings⟩ := by
  unfold deviceStaticRegistration
  dsimp only
  rw [Package.outline_ofKind, filter_outline fun _ => rfl, List.map_map]
  rfl

theorem markupIncludesManifest_outline :
    markupIncludesManifest ⟨p.outline, facts, settings⟩ =
      markupIncludesManifest ⟨p, facts, settings⟩ := by
  refine filterMap_map_same p.units fun u => ?_
  rw [NodeUnit.outline_isDual, NodeUnit.outline_key]
  unfold NodeUnit.outline
  cases u.markup with
  | none => rfl
  | some markup =>
    rw [Option.map_some]
    dsimp only
    rw [markup.outline_isParsed, markup.outline_path]

/-! ## The node map -/

theorem registrationFaults_outline (descriptor : String) (nodes : List (String × Json.Value)) :
    registrationFaults p.outline descriptor nodes = registrationFaults p descriptor nodes := by
  have hkinds : ∀ path, (p.outline.get? path).map (·.kind) = (p.get? path).map (·.kind) :=
    fun path => by
    rw [Package.outline_get?, Option.map_map]
    rfl
  have hfault : ∀ key value, registrationFault? p.outline descriptor key value =
      registrationFault? p descriptor key value :=
    fun key _ => registrationFault?_congr hkinds rfl descriptor key
  have hstub : ∀ value, registeredStub? p.outline value = registeredStub? p value :=
    fun _ => registeredStub?_congr hkinds rfl
  unfold registrationFaults
  dsimp only
  simp only [hfault, hstub, Package.outline_ofKind]
  rw [filter_outline fun _ => rfl, List.map_map]
  rfl

theorem descriptorPointsToStub_outline :
    descriptorPointsToStub ⟨p.outline, facts, settings⟩ =
      descriptorPointsToStub ⟨p, facts, settings⟩ := by
  unfold descriptorPointsToStub
  dsimp only
  rw [Package.outline_descriptor?]
  cases p.descriptor? with
  | none => rfl
  | some d =>
    rw [Option.map_some]
    dsimp only
    rw [d.outline_isParsed, d.outline_path, d.outline_registrations, registrationFaults_outline]

/-! ## Type names -/

theorem declaring_outline (u : NodeUnit) :
    declaring u.outline = (declaring u).map Artifact.outline := by
  unfold declaring
  rw [NodeUnit.outline_scriptsAndMarkup, filter_outline Artifact.outline_isParsed]

theorem representatives_outline (u : NodeUnit) :
    representatives ⟨p.outline, facts, settings⟩ u.outline =
      representatives ⟨p, facts, settings⟩ u := by
  have hkeys : keyIdentities ⟨p.outline, facts, settings⟩ u.outline =
      keyIdentities ⟨p, facts, settings⟩ u := by
    unfold keyIdentities
    dsimp only
    rw [Package.outline_descriptor?]
    cases p.descriptor? with
    | none => rfl
    | some d =>
      rw [Option.map_some]
      dsimp only
      rw [d.outline_isParsed]
      rfl
  unfold representatives
  rw [declaring_outline, hkeys]
  exact congrArg (· ++ _) (filterMap_map_same _ fun _ => rfl)

theorem mismatch?_outline (u : NodeUnit) :
    mismatch? ⟨p.outline, facts, settings⟩ u.outline = mismatch? ⟨p, facts, settings⟩ u := by
  have hreference : ∀ identities, reference? facts u.outline identities =
      reference? facts u identities := by
    intro identities
    unfold reference? NodeUnit.outline
    cases u.stub <;> rfl
  unfold mismatch?
  rw [representatives_outline, NodeUnit.outline_key]
  dsimp only
  rw [hreference]

theorem unitIdentity_outline (u : NodeUnit) :
    unitIdentity ⟨p.outline, facts, settings⟩ u.outline = unitIdentity ⟨p, facts, settings⟩ u := by
  unfold unitIdentity
  rw [mismatch?_outline, declaring_outline]
  exact congrArg (· ++ _) (flatMap_map_same _ fun _ => rfl)

theorem identityConsistency_outline :
    identityConsistency ⟨p.outline, facts, settings⟩ =
      identityConsistency ⟨p, facts, settings⟩ := by
  unfold identityConsistency Package.outline
  dsimp only
  rw [List.flatMap_map]
  exact congrArg (List.flatMap · p.units) (funext fun u => unitIdentity_outline p facts settings u)

/-- A rule of the catalog finds the same without the texts. -/
theorem run_outline {r : Rule} (hr : r ∈ catalog) :
    r.run ⟨p.outline, facts, settings⟩ = r.run ⟨p, facts, settings⟩ := by
  revert r
  simp only [catalog, List.forall_mem_cons, List.not_mem_nil, false_imp_iff,
    implies_true, and_true, run, total, malformedJson_outline, mandatoryArtifacts_outline,
      localeBundles_outline, moduleFormat_outline, noExtension,
    preloadIsString_outline, descriptorPointsToStub_outline, stubIsCommonJs_outline,
      deviceNoDefaultExport_outline,
    deviceStaticRegistration_outline, identityConsistency_outline, markupIncludesManifest_outline]

end Rule

theorem packageCounters_outline (p : Package) (facts : FactSet) :
    packageCounters p.outline facts = packageCounters p facts := by
  unfold packageCounters Package.outline
  rw [List.foldl_map, List.length_map]
  rfl

/-- Two packages that differ in texts only and declare the same have the same report. -/
theorem checkPackage_of_outline {p q : Package} {settings : RuleSettings} {rules : List Rule}
    (houtline : p.outline = q.outline)
    (hdeclared : p.declarations settings = q.declarations settings)
    (hrules : rules ⊆ Rule.catalog) :
    checkPackage settings rules p = checkPackage settings rules q := by
  have hroot : p.root = q.root := by
    show p.outline.root = q.outline.root
    rw [houtline]
  have hrun : ∀ r ∈ rules, r.run (p.context settings) = r.run (q.context settings) := by
    intro r hr
    unfold Package.context
    rw [← Rule.run_outline p _ _ (hrules hr), ← Rule.run_outline q _ _ (hrules hr),
      houtline, hdeclared]
  have hcontributions : contributions settings p rules = contributions settings q rules := by
    unfold contributions runRules
    rw [List.flatMap_congr hrun]
  rw [checkPackage_eq, checkPackage_eq, hcontributions, hdeclared, hroot,
    ← packageCounters_outline p, ← packageCounters_outline q, houtline]

end TwinNode
