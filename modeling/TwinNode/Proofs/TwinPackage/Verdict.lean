import TwinNode.Proofs.Diagnostic.Order
import TwinNode.Proofs.Rule.Mismatch
import TwinNode.Proofs.TwinPackage.Rules
import TwinNode.Validation

/-! The files of the package are in order but for the type names in them. So a run with
default settings reports nothing if the four names are one, and one mismatch if they are
not. -/

namespace TwinNode

open TwinNode.Text (PlainName)

namespace TwinPackage

variable (p : TwinPackage)

/-- The files beside the stub that give the node a name, and that name. -/
def namesBeside : List (String × String) :=
  [(p.devicePath, p.deviceType), (p.markupPath, p.markupType), (descriptorName, p.key)]

/-- The files whose name for the node is not that of the stub. -/
def divergentPaths : List String := (p.namesBeside.filter (·.2 ≠ p.stubType)).map (·.1)

/-- One declaration for each file that gives the node a name. -/
def names : List Identity := [p.stubName, p.deviceName, p.markupName, p.keyName]

theorem mem_divergentPaths {path : String} :
    path ∈ p.divergentPaths ↔ ∃ i ∈ p.names, i.value ≠ p.stubType ∧ i.path = path := by
  have hnames : p.names.tail.map (fun i => (i.path, i.value)) = p.namesBeside := rfl
  unfold divergentPaths
  rw [← hnames, List.mem_map]
  simp only [List.mem_filter, List.mem_map, decide_eq_true_eq]
  constructor
  · rintro ⟨_, ⟨⟨i, hi, rfl⟩, hd⟩, rfl⟩
    exact ⟨i, List.mem_of_mem_tail hi, hd, rfl⟩
  · rintro ⟨i, hi, hd, rfl⟩
    rcases List.mem_cons.1 hi with rfl | hi
    · exact absurd rfl hd
    · exact ⟨_, ⟨⟨i, hi, rfl⟩, hd⟩, rfl⟩

theorem divergentPaths_eq_nil_iff :
    p.divergentPaths = [] ↔ p.stubType = p.deviceType ∧ p.stubType = p.markupType ∧
      p.stubType = p.key := by
  simp only [divergentPaths, namesBeside, List.map_eq_nil_iff,
    List.filter_eq_nil_iff, List.forall_mem_cons, decide_eq_true_eq, not_not,
      eq_comm (a := p.stubType), List.not_mem_nil, false_imp_iff, implies_true, and_true]

theorem ofLocation_registration (key : String) :
    LocationKey.ofLocation (some (registrationLocation key)) =
      .ok ⟨2, 0, 0, registrationLocation key⟩ := by
  obtain ⟨rest, hrest⟩ : ∃ rest, (registrationLocation key).toList = 'n' :: rest := by
    unfold registrationLocation nodeMapLocation
    rw [String.toList_append, String.toList_append]
    exact ⟨_, rfl⟩
  have hfilled : nonempty? (some (registrationLocation key)) = some (registrationLocation key) := by
    have hne : registrationLocation key ≠ "" := by
      intro he
      rw [he] at hrest
      cases hrest
    unfold nonempty?
    rw [Option.filter_some, if_pos]
    simpa using hne
  have hline : numberAfter? "line " (registrationLocation key).toList = none := by
    rw [hrest]
    rfl
  unfold LocationKey.ofLocation
  rw [hfilled]
  dsimp only
  rw [hline]

theorem locations_ordered : ∀ i ∈ p.names, ∃ key, LocationKey.ofLocation
    (some i.location) = .ok key := by
  have hlines : ∀ line ∈ ["line 5", "line 4", "line 2"], ∃ key,
      LocationKey.ofLocation (some line) = .ok key := by
    simp only [List.forall_mem_cons]
    exact ⟨⟨_, rfl⟩, ⟨_, rfl⟩, ⟨_, rfl⟩, List.forall_mem_nil _⟩
  simp only [names, List.forall_mem_cons]
  exact ⟨hlines "line 5" (by decide), hlines "line 4" (by decide), hlines "line 2" (by decide),
    ⟨_, ofLocation_registration p.key⟩, List.forall_mem_nil _⟩

section Discovered

variable {p} {q : Package} (h : p.Discovered q)
include h

theorem identitiesFor_eq {a : Artifact} (ha : a ∈ p.artifacts) :
    (q.declarations {}).identitiesFor a.path = (a.declarations {}).identities :=
  identitiesFor_declarations (discovered_nodup h) (h.artifacts.mem_iff.2 ha)

theorem form_eq {a : Artifact} (ha : a ∈ p.artifacts) {name : FactName} {f : Form}
    (hf : (a.declarations {}).facts.filter (·.name == name) = [⟨a.path, name, .form f, none⟩]) :
    (q.declarations {}).form a.path name = f :=
  form_declarations (discovered_nodup h) (h.artifacts.mem_iff.2 ha) hf

theorem declared_stub : Rule.declared (q.declarations {}) p.stub = [p.stubName] := by
  unfold Rule.declared
  dsimp only
  rw [identitiesFor_eq h p.stub_mem, stub_declared]
  rfl

theorem declared_device : Rule.declared (q.declarations {}) p.device = [p.deviceName] := by
  obtain ⟨_, hdeclared⟩ := p.device_declared
  unfold Rule.declared
  dsimp only
  rw [identitiesFor_eq h p.device_mem, hdeclared]
  rfl

theorem declared_markup : ∃ template help, Rule.declared (q.declarations {}) p.markup =
    [p.markupName, ⟨p.markupPath, .templateName, p.markupType, template⟩,
      ⟨p.markupPath, .helpName, p.markupType, help⟩] := by
  obtain ⟨template, help, _, hdeclared⟩ := p.markup_declared
  refine ⟨template, help, ?_⟩
  unfold Rule.declared
  dsimp only
  rw [identitiesFor_eq h p.markup_mem, hdeclared]
  rfl

theorem missingIdentity?_eq_none {a : Artifact} (ha : a ∈ p.unit.scriptsAndMarkup) :
    Rule.missingIdentity? (q.declarations {}) a = none := by
  obtain ⟨_, hdevice⟩ := p.device_declared
  obtain ⟨_, _, _, hmarkup⟩ := p.markup_declared
  have hstubForm : (q.declarations {}).form p.stub.path .registrationCall = .literal :=
    form_eq h p.stub_mem (by rw [stub_declared]; rfl)
  have hdeviceForm : (q.declarations {}).form p.device.path .staticTypeField = .literal :=
    form_eq h p.device_mem (by rw [hdevice]; rfl)
  have hmarkupForm : (q.declarations {}).form p.markup.path .registrationCall = .literal :=
    form_eq h p.markup_mem (by rw [hmarkup]; rfl)
  have hparts : p.unit.scriptsAndMarkup = [p.stub, p.device, p.markup] := rfl
  simp only [hparts, List.mem_cons, List.not_mem_nil, or_false] at ha
  unfold Rule.missingIdentity?
  rcases ha with rfl | rfl | rfl
  · simp [stub_kind, Rule.requiredIdentity?, hstubForm]
  · simp [device_kind, Rule.requiredIdentity?, hdeviceForm]
  · simp [markup_kind, Rule.requiredIdentity?, hmarkupForm]

theorem disagreement?_eq_none {a : Artifact} (ha : a ∈ p.unit.scriptsAndMarkup) :
    Rule.disagreement? (q.declarations {}) a = none := by
  obtain ⟨_, _, hmarkup⟩ := declared_markup h
  have hparts : p.unit.scriptsAndMarkup = [p.stub, p.device, p.markup] := rfl
  simp only [hparts, List.mem_cons, List.not_mem_nil, or_false] at ha
  rw [Rule.disagreement?_eq_none_iff]
  rcases ha with rfl | rfl | rfl
  · rw [declared_stub h]
    simp [allSame_cons_iff]
  · rw [declared_device h]
    simp [allSame_cons_iff]
  · rw [hmarkup]
    simp [allSame_cons_iff, markupName]

theorem keyIdentities_unit :
    Rule.keyIdentities ⟨q, q.declarations {}, {}⟩ p.unit = [p.keyName] := by
  unfold Rule.keyIdentities
  dsimp only
  rw [descriptor?_eq h]
  dsimp only
  rw [identitiesFor_eq h p.descriptor_mem, descriptor_declared]
  have hparsed : p.descriptor.isParsed = true := rfl
  have hown : (p.unit.descriptorKeys.map registrationLocation).contains p.keyName.location =
      true := by
    simp [unit, keyName]
  rw [if_pos hparsed, List.filter_singleton, hown]
  rfl

theorem representatives_unit :
    Rule.representatives ⟨q, q.declarations {}, {}⟩ p.unit = p.names := by
  obtain ⟨_, _, hmarkup⟩ := declared_markup h
  have hparts : Rule.declaring p.unit = [p.stub, p.device, p.markup] := rfl
  unfold Rule.representatives
  dsimp only
  rw [hparts, keyIdentities_unit h]
  simp [declared_stub h, declared_device h, hmarkup, names]

theorem reference?_unit : Rule.reference? (q.declarations {}) p.unit p.names = some p.stubName := by
  have hstub : Rule.disagreement? (q.declarations {}) p.stub = none :=
    disagreement?_eq_none h List.mem_cons_self
  have hfind : p.names.find? (·.path == p.stub.path) = some p.stubName :=
    List.find?_cons_of_pos (beq_self_eq_true _)
  have hunit : p.unit.stub = some p.stub := rfl
  unfold Rule.reference?
  dsimp only
  rw [hunit, Option.bind_some, hstub, hfind]
  rfl

/-- All that is found about the type names is the mismatch between the files. -/
theorem identityConsistency_unit : Rule.identityConsistency ⟨q, q.declarations {}, {}⟩ =
    (Rule.mismatch? ⟨q, q.declarations {}, {}⟩ p.unit).toList := by
  have hquiet :
    (Rule.declaring p.unit).flatMap
      (fun a => (Rule.missingIdentity? (q.declarations {}) a).toList ++
      (Rule.disagreement? (q.declarations {}) a).toList) = [] := by
    refine List.flatMap_eq_nil_iff.2 fun a ha => ?_
    rw [missingIdentity?_eq_none h ha, disagreement?_eq_none h ha]
    rfl
  unfold Rule.identityConsistency
  dsimp only
  rw [h.units, List.flatMap_singleton]
  unfold Rule.unitIdentity
  dsimp only
  rw [hquiet, List.nil_append]

/-- What all rules together report: the mismatch, as an error of the rule about type names. -/
theorem runRules_catalog : ∃ r : Rule, r.id = "R8" ∧ r.kind = .identityMismatch ∧
    r.severity = .error ∧
    runRules (Rule.enabled []) ⟨q, q.declarations {}, {}⟩ =
      (Rule.mismatch? ⟨q, q.declarations {}, {}⟩ p.unit).toList.map r.diagnostic := by
  have henabled : Rule.enabled [] = Rule.catalog := List.filter_eq_self.2 fun _ _ => rfl
  have hlength : 10 < Rule.catalog.length := by decide
  refine ⟨Rule.catalog[10], rfl, rfl, rfl, ?_⟩
  rw [henabled]
  unfold runRules Rule.catalog Rule.run Rule.total
  simp only [List.flatMap_cons, List.flatMap_nil, malformedJson_eq_nil h,
    mandatoryArtifacts_eq_nil h, localeBundles_eq_nil h, moduleFormat_eq_nil h,
      noExtension_eq_nil h, preloadIsString_eq_nil h,
    descriptorPointsToStub_eq_nil h, stubIsCommonJs_eq_nil h, deviceNoDefaultExport_eq_nil h,
    deviceStaticRegistration_eq_nil h, identityConsistency_unit h, markupIncludesManifest_eq_nil h,
    List.map_nil, List.nil_append, List.append_nil]
  rfl

/-- A finding about the mismatch is about the names in the four files, with that of the stub as the
reference. -/
theorem tellsMismatch_unit {f : Finding}
    (hf : Rule.mismatch? ⟨q, q.declarations {}, {}⟩ p.unit = some f) :
    Rule.TellsMismatch f p.names p.stubName := by
  have hnames := representatives_unit h
  have hreference := reference?_unit h
  rw [← hnames] at hreference ⊢
  exact Rule.tellsMismatch_of_mismatch? hf hreference

theorem mismatch?_unit_eq_none_iff :
    Rule.mismatch? ⟨q, q.declarations {}, {}⟩ p.unit = none ↔ p.divergentPaths = [] := by
  rw [Rule.mismatch?_eq_none_iff, representatives_unit h, divergentPaths_eq_nil_iff]
  have hvalues : p.names.map (·.value) = [p.stubType, p.deviceType, p.markupType, p.key] := rfl
  rw [hvalues, allSame_cons_iff]
  simp only [List.forall_mem_cons, eq_comm (a := p.stubType), List.not_mem_nil,
    false_imp_iff, implies_true, and_true]

theorem checkPackage_discovered : ∃ r : Rule, r.id = "R8" ∧ r.kind = .identityMismatch ∧
    r.severity = .error ∧
    ∃ report, checkPackage {} (Rule.enabled []) q = .ok report ∧ report.invocationError = none ∧
      report.diagnostics = (Rule.mismatch? ⟨q, q.declarations {}, {}⟩ p.unit).toList.map
        r.diagnostic := by
  obtain ⟨r, hid, hkind, hseverity, hrun⟩ := runRules_catalog h
  have hsorted :
    sortDiagnostics ((Rule.mismatch? ⟨q, q.declarations {}, {}⟩ p.unit).toList.map r.diagnostic) =
      .ok ((Rule.mismatch? ⟨q, q.declarations {}, {}⟩ p.unit).toList.map r.diagnostic) := by
    cases hf : Rule.mismatch? ⟨q, q.declarations {}, {}⟩ p.unit with
    | none => exact sortDiagnostics_nil
    | some f =>
      obtain ⟨i, hi, _, _, hlocation⟩ := (tellsMismatch_unit h hf).standsAt
      obtain ⟨place, hplace⟩ := p.locations_ordered i hi
      have hkey : (r.diagnostic f).key = .ok ⟨f.path, ⟨"R", 8, ""⟩, place, f.message⟩ := by
        have hrule : RuleKey.ofId (r.diagnostic f).ruleId = .ok ⟨"R", 8, ""⟩ := by
          show RuleKey.ofId r.id = _
          rw [hid]
          rfl
        have hwhere : LocationKey.ofLocation (r.diagnostic f).location = .ok place := by
          show LocationKey.ofLocation f.location = _
          rw [hlocation, hplace]
        unfold Diagnostic.key
        rw [hrule, hwhere]
        rfl
      exact sortDiagnostics_singleton hkey
  refine ⟨r, hid, hkind, hseverity,
    ⟨q.root, (Rule.mismatch? ⟨q, q.declarations {}, {}⟩ p.unit).toList.map r.diagnostic,
    packageCounters q (q.declarations {}), none⟩, ?_, rfl, rfl⟩
  unfold checkPackage Report.sort
  dsimp only
  rw [if_neg Bool.false_ne_true, hrun, hsorted]
  rfl

end Discovered

variable {fs : FileSystem} {root : String} {place : Place}

/-- A run with default settings over a root with the six files gives a report. It is empty if the
four names are one. Else it is one error about a mismatch of identities, at the least of the paths
whose name differs from that in the stub; its message names the stub and all these paths, and the
exit code is 1. -/
theorem verdict_of_names (hroot : checkRoot fs (Path.Location.ofString root) = .ok place)
    (h : p.StoredIn fs place) :
    ∃ report, validateRoot fs {} root = .ok report ∧
      (report.diagnostics = [] ↔
        p.stubType = p.deviceType ∧ p.stubType = p.markupType ∧ p.stubType = p.key) ∧
      (report.diagnostics ≠ [] → report.exitCode = 1 ∧ ∃ d, report.diagnostics = [d] ∧
        d.severity = .error ∧
        d.ruleId = "R8" ∧ d.kind = .identityMismatch ∧ d.path ∈ p.divergentPaths ∧
        (∀ path ∈ p.divergentPaths, d.path ≤ path) ∧ Within p.stubPath d.message ∧
        ∀ path ∈ p.divergentPaths, Within path d.message) := by
  obtain ⟨artifacts, hperm, hdiscover⟩ := p.discovered hroot h (show (1 : Int) ≤ 4 by decide)
  have hq : p.Discovered ⟨Place.text place, artifacts, groupUnits artifacts⟩ :=
    ⟨hperm, groupUnits_artifacts hperm⟩
  generalize (⟨Place.text place, artifacts, groupUnits artifacts⟩ : Package) = q at hdiscover hq
  obtain ⟨r, hid, hkind, hseverity, report, hreport, hinvocation, hdiagnostics⟩ :=
    checkPackage_discovered hq
  have hvalidate : validateRoot fs {} root = .ok { report with root := root } := by
    unfold validateRoot
    rw [hdiscover]
    dsimp only
    rw [hreport]
  refine ⟨_, hvalidate, ?_, ?_⟩
  · rw [← divergentPaths_eq_nil_iff, ← mismatch?_unit_eq_none_iff hq]
    dsimp only
    rw [hdiagnostics, List.map_eq_nil_iff, Option.toList_eq_nil_iff]
  · intro hne
    dsimp only at hne
    obtain ⟨f, hf⟩ : ∃ f, Rule.mismatch? ⟨q, q.declarations {}, {}⟩ p.unit = some f := by
      rw [hdiagnostics, ne_eq, List.map_eq_nil_iff, Option.toList_eq_nil_iff] at hne
      exact Option.ne_none_iff_exists'.1 hne
    have htells := tellsMismatch_unit hq hf
    have hone : report.diagnostics = [r.diagnostic f] := by
      rw [hdiagnostics, hf]
      rfl
    have herror : (r.diagnostic f).severity = .error := by
      show f.severity.getD r.severity = .error
      rw [htells.severity, hseverity]
      rfl
    have hidentity : (r.diagnostic f).kind = .identityMismatch := by
      show f.kind.getD r.kind = .identityMismatch
      rw [htells.kind, hkind]
      rfl
    have hexit : Report.exitCode { report with root := root } = 1 := by
      unfold Report.exitCode Report.passed
      simp [hinvocation, hone, herror]
    refine ⟨hexit, r.diagnostic f, hone, herror, hid, hidentity, ?_,
      fun path hpath => ?_, htells.namesReference, fun path hpath => ?_⟩
    · obtain ⟨i, hi, hd, hpath, _⟩ := htells.standsAt
      exact p.mem_divergentPaths.2 ⟨i, hi, hd, hpath.symm⟩
    · obtain ⟨i, hi, hd, rfl⟩ := p.mem_divergentPaths.1 hpath
      exact htells.least i hi hd
    · obtain ⟨i, hi, hd, rfl⟩ := p.mem_divergentPaths.1 hpath
      exact htells.namesOthers i hi hd

/-- The package of a node `foo` whose key in the descriptor is not its type name. -/
def misnamed : TwinPackage where
  directories := ["nodes"]
  stem := "foo"
  stubType := "foo"
  deviceType := "foo"
  markupType := "foo"
  key := "bar"
  directories_nonempty := by decide
  directories_plain := by
    intro d hd
    obtain rfl := List.mem_singleton.1 hd
    exact ⟨⟨by decide, by decide⟩, by decide⟩
  stem_plain := ⟨by decide, by decide⟩
  stubType_plain := ⟨by decide, by decide⟩
  deviceType_plain := ⟨by decide, by decide⟩
  markupType_plain := ⟨by decide, by decide⟩
  key_plain := ⟨by decide, by decide⟩

def fileSystem : FileSystem where
  files := p.files.map fun file => (file.1, Text.encode file.2)
  directories := []
  workingDirectory := []
  room := usualRoom

theorem verdict_of_misnamed :
    checkRoot misnamed.fileSystem (Path.Location.ofString "/") = .ok [] ∧
      misnamed.StoredIn misnamed.fileSystem [] ∧
      ∃ report, validateRoot misnamed.fileSystem {} "/" = .ok report ∧ report.exitCode = 1 ∧
        ∃ d, report.diagnostics = [d] ∧ d.path = "package.json" := by
  have hroot : checkRoot misnamed.fileSystem (Path.Location.ofString "/") = .ok [] := by rfl
  have hstored : misnamed.StoredIn misnamed.fileSystem [] := by
    refine ⟨.of_eq rfl, ?_, by decide⟩
    unfold fileSystem files
    simp only [List.map_cons, List.map_nil, List.forall_mem_cons]
    -- The bytes of the descriptor are not looked at, only found.
    generalize Text.encode misnamed.descriptorValue.pretty.toList = bytes
    exact ⟨rfl, rfl, rfl, rfl, rfl, rfl, List.forall_mem_nil _⟩
  have hdivergent : misnamed.divergentPaths = ["package.json"] := by decide
  obtain ⟨report, hreport, hnone, hone⟩ := verdict_of_names misnamed hroot hstored
  have hne : report.diagnostics ≠ [] := by
    rw [ne_eq, hnone]
    decide
  obtain ⟨hexit, d, hd, _, _, _, hpath, _⟩ := hone hne
  rw [hdivergent, List.mem_singleton] at hpath
  exact ⟨hroot, hstored, report, hreport, hexit, d, hd, hpath⟩

end TwinPackage

end TwinNode
