import TwinNode.Proofs.Rule.Descriptor
import TwinNode.Proofs.TwinPackage.Discovery

namespace TwinNode.TwinPackage

open TwinNode.Json (Value)

variable (p : TwinPackage)

def stubName : Identity := ⟨p.stubPath, .registrationCall, p.stubType, "line 5"⟩

def deviceName : Identity := ⟨p.devicePath, .staticField, p.deviceType, "line 4"⟩

def markupName : Identity := ⟨p.markupPath, .registrationCall, p.markupType, "line 2"⟩

def keyName : Identity := ⟨descriptorName, .descriptorKey, p.key, registrationLocation p.key⟩

theorem stub_declared : p.stub.declarations {} =
    ⟨[p.stubName], [⟨p.stubPath, .registrationCall, .form .literal, none⟩,
      ⟨p.stubPath, .usesImportStatement, .flag false, none⟩,
      ⟨p.stubPath, .referencesDeviceModule, .flag false, none⟩]⟩ :=
  stub_declarations p.stubType_plain p.stubPath

theorem device_declared : ∃ place, p.device.declarations {} =
    ⟨[p.deviceName], [⟨p.devicePath, .staticTypeField, .form .literal, none⟩,
      ⟨p.devicePath, .registrationCall, .form .dynamic, none⟩,
        ⟨p.devicePath, .usesDefaultExport, .flag false, none⟩,
      ⟨p.devicePath, .hasStaticRegistration, .flag true, some place⟩]⟩ :=
  device_declarations p.deviceType_plain p.devicePath

theorem markup_declared : ∃ template help marker, p.markup.declarations {} =
    ⟨[p.markupName, ⟨p.markupPath, .templateName, p.markupType, template⟩,
        ⟨p.markupPath, .helpName, p.markupType, help⟩],
      [⟨p.markupPath, .registrationCall, .form .literal, none⟩,
        ⟨p.markupPath, .declaresManifestInclude, .flag true, some marker⟩]⟩ :=
  markup_declarations p.markupType_plain p.markupPath

theorem manifest_declared : p.manifest.declarations {} =
    ⟨[], [⟨p.manifest.path, .manifestModulesShape, .shape .object, some "modules"⟩,
      ⟨p.manifest.path, .manifestPreloadShape, .shape .string, some "preload"⟩]⟩ := by
  have hmodules : ∀ path, suffixedModules {} path [("*", Value.str "./foo")] = [] := by
    intro path
    have hsuffix : (modulePaths (Value.str "./foo")).filter (hasScriptSuffix {}) = [] := by decide
    unfold suffixedModules
    rw [List.mergeSort_singleton, List.flatMap_singleton, hsuffix]
    rfl
  show manifestDeclarations {} p.manifest.path manifestValue = _
  have hvalue : ((manifestValue.member? "modules").bind Value.members?).getD [] =
      [("*", Value.str "./foo")] := rfl
  have hmembers : manifestValue.members? =
      some [("modules", .object [("*", .str "./foo")]), ("preload", .str "foo")] :=
    rfl
  unfold manifestDeclarations
  rw [hmembers]
  dsimp only
  rw [hvalue, hmodules]
  rfl

theorem locale_declared : p.locale.declarations {} = .empty := rfl

theorem descriptor_declared : p.descriptor.declarations {} =
    ⟨[p.keyName],
      [⟨descriptorName, .descriptorNodeMapShape, .shape .object, some nodeMapLocation⟩]⟩ := by
  have htrim : String.ofList (Text.trim p.key.toList) = p.key := by
    rw [Text.trim_of_plain p.key_plain.plain, String.ofList_toList]
  have hnodes : ((registrations? p.descriptorValue).getD []) = [(p.key, .str p.stubPath)] := rfl
  show descriptorDeclarations descriptorName p.descriptorValue = _
  unfold descriptorDeclarations
  rw [hnodes, List.map_singleton, htrim]
  rfl

/-- No fact is noted about a module path with a script suffix. -/
theorem extension_unnoted {a : Artifact} (ha : a ∈ p.artifacts) {f : Fact}
    (hf : f ∈ (a.declarations {}).facts) :
    f.name ≠ .manifestPathHasJsExtension := by
  obtain ⟨_, hdevice⟩ := p.device_declared
  obtain ⟨_, _, _, hmarkup⟩ := p.markup_declared
  have hname := List.mem_map_of_mem (f := Fact.name) hf
  rintro hext
  rw [hext] at hname
  simp only [artifacts, parts, List.cons_append, List.nil_append, List.mem_cons,
    List.not_mem_nil, or_false] at ha
  rcases ha with rfl | rfl | rfl | rfl | rfl | rfl
  · simp [stub_declared] at hname
  · simp [hdevice] at hname
  · simp [hmarkup] at hname
  · simp [manifest_declared] at hname
  · simp [locale_declared, FactSet.empty] at hname
  · simp [descriptor_declared] at hname

/-- The package as discovery gives it. -/
structure Discovered (q : Package) : Prop where
  artifacts : q.artifacts.Perm p.artifacts
  units : q.units = [p.unit]

variable {p} {q : Package} (h : p.Discovered q)
include h

theorem discovered_nodup : (q.artifacts.map (·.path)).Nodup :=
  (h.artifacts.map _).nodup_iff.2 p.paths_nodup

theorem ofKind_eq {a : Artifact} (ha : a ∈ p.artifacts) {kind : ArtifactKind} (hk : a.kind = kind) :
    q.ofKind kind = [a] := filter_kind h.artifacts ha hk

theorem descriptor?_eq : q.descriptor? = some p.descriptor := by
  unfold Package.descriptor?
  rw [← List.head?_filter, filter_kind h.artifacts p.descriptor_mem p.descriptor_kind]
  rfl

theorem fact?_eq {a : Artifact} (ha : a ∈ p.artifacts) (name : FactName) :
    (q.declarations {}).fact? a.path name =
      ((a.declarations {}).facts.filter (·.name == name)).head? := by
  unfold FactSet.fact?
  rw [factsFor_declarations (discovered_nodup h) (h.artifacts.mem_iff.2 ha)]

theorem get?_stub : q.get? p.stubPath = some p.stub :=
  Package.get?_path (path_injOn (discovered_nodup h)) (h.artifacts.mem_iff.2 p.stub_mem)

theorem malformedJson_eq_nil : Rule.malformedJson ⟨q, q.declarations {}, {}⟩ = [] := by
  refine List.filterMap_eq_nil_iff.2 fun a ha => ?_
  have hparsed : a.syntaxError? = none := by
    have ha := h.artifacts.mem_iff.1 ha
    simp only [TwinPackage.artifacts, parts, List.cons_append, List.nil_append,
      List.mem_cons, List.not_mem_nil, or_false] at ha
    rcases ha with rfl | rfl | rfl | rfl | rfl | rfl <;> rfl
  rw [hparsed]
  rfl

theorem mandatoryArtifacts_eq_nil : Rule.mandatoryArtifacts ⟨q, q.declarations {}, {}⟩ = [] := by
  unfold Rule.mandatoryArtifacts
  dsimp only
  rw [descriptor?_eq h, ofKind_eq h p.stub_mem p.stub_kind, h.units]
  rfl

theorem localeBundles_eq_nil : Rule.localeBundles ⟨q, q.declarations {}, {}⟩ = [] := by
  unfold Rule.localeBundles
  dsimp only
  rw [h.units]
  rfl

theorem moduleFormat_eq_nil : Rule.moduleFormat ⟨q, q.declarations {}, {}⟩ = [] := by
  have hshape : (q.declarations {}).shape p.manifest.path .manifestModulesShape = .object := by
    unfold FactSet.shape
    rw [fact?_eq h p.manifest_mem, manifest_declared]
    rfl
  unfold Rule.moduleFormat
  dsimp only
  rw [ofKind_eq h p.manifest_mem p.manifest_kind]
  have hparsed : [p.manifest].filter (·.isParsed) = [p.manifest] := rfl
  rw [hparsed]
  simp [hshape]

theorem noExtension_eq_nil : Rule.noExtension ⟨q, q.declarations {}, {}⟩ = [] := by
  have hother : ∀ f ∈ (q.declarations {}).facts, f.name ≠ .manifestPathHasJsExtension := by
    intro f hf
    rw [q.declarations_facts, List.mem_flatMap] at hf
    obtain ⟨a, ha, hf⟩ := hf
    exact p.extension_unnoted (h.artifacts.mem_iff.1 ha) hf
  refine List.filterMap_eq_nil_iff.2 fun f hf => ?_
  split
  · next hname _ => exact absurd hname (hother f hf)
  · rfl

theorem preloadIsString_eq_nil : Rule.preloadIsString ⟨q, q.declarations {}, {}⟩ = [] := by
  have hshape : (q.declarations {}).shape p.manifest.path .manifestPreloadShape = .string := by
    unfold FactSet.shape
    rw [fact?_eq h p.manifest_mem, manifest_declared]
    rfl
  unfold Rule.preloadIsString
  dsimp only
  rw [ofKind_eq h p.manifest_mem p.manifest_kind]
  simp [hshape]

theorem descriptorPointsToStub_eq_nil :
    Rule.descriptorPointsToStub ⟨q, q.declarations {}, {}⟩ = [] := by
  have hdevice : Path.hasSuffix Path.deviceScriptSuffix (Path.normalizeReference p.stubPath) =
      false := by
    rw [normalizeReference_stubPath, hasSuffix_stubPath]
  have hstub : (q.get? (Path.normalizeReference p.stubPath)).any (·.kind = .hostStub) = true := by
    rw [normalizeReference_stubPath, get?_stub h]
    rfl
  have hpath : Path.stubPath (Path.normalizeReference p.stubPath) = p.stub.path := by
    rw [Path.stubPath, hdevice, if_neg Bool.false_ne_true, normalizeReference_stubPath]
    rfl
  have hfault : Rule.registrationFault? q p.descriptor.path p.key (.str p.stubPath) = none :=
    Rule.registrationFault?_str.2 ⟨hdevice, hstub⟩
  have hregistered : Rule.registeredStub? q (.str p.stubPath) = some p.stub.path :=
    Rule.registeredStub?_str.2 ⟨hpath, .inr hstub⟩
  refine (Rule.descriptorPointsToStub_eq (descriptor?_eq h) rfl rfl (discovered_nodup h)).trans ?_
  unfold Rule.registrationFaults
  dsimp only
  rw [ofKind_eq h p.stub_mem p.stub_kind]
  simp [hfault, hregistered]

theorem stubIsCommonJs_eq_nil : Rule.stubIsCommonJs ⟨q, q.declarations {}, {}⟩ = [] := by
  have himport : (q.declarations {}).fact? p.stub.path .usesImportStatement =
      some ⟨p.stubPath, .usesImportStatement, .flag false, none⟩ := by
    rw [fact?_eq h p.stub_mem, stub_declared]
    rfl
  have hmodule : (q.declarations {}).fact? p.stub.path .referencesDeviceModule =
      some ⟨p.stubPath, .referencesDeviceModule, .flag false, none⟩ := by
    rw [fact?_eq h p.stub_mem, stub_declared]
    rfl
  unfold Rule.stubIsCommonJs
  dsimp only
  rw [ofKind_eq h p.stub_mem p.stub_kind, List.flatMap_singleton, himport, hmodule]
  rfl

theorem deviceNoDefaultExport_eq_nil :
    Rule.deviceNoDefaultExport ⟨q, q.declarations {}, {}⟩ = [] := by
  have hexport : (q.declarations {}).fact? p.device.path .usesDefaultExport =
      some ⟨p.devicePath, .usesDefaultExport, .flag false, none⟩ := by
    obtain ⟨_, hdeclared⟩ := p.device_declared
    rw [fact?_eq h p.device_mem, hdeclared]
    rfl
  unfold Rule.deviceNoDefaultExport
  dsimp only
  rw [ofKind_eq h p.device_mem p.device_kind, List.flatMap_singleton, hexport]
  rfl

theorem deviceStaticRegistration_eq_nil :
    Rule.deviceStaticRegistration ⟨q, q.declarations {}, {}⟩ = [] := by
  have hholds : (q.declarations {}).holds p.device.path .hasStaticRegistration = true := by
    obtain ⟨_, hdeclared⟩ := p.device_declared
    unfold FactSet.holds
    rw [fact?_eq h p.device_mem, hdeclared]
    rfl
  unfold Rule.deviceStaticRegistration
  dsimp only
  rw [ofKind_eq h p.device_mem p.device_kind, List.filter_singleton, hholds]
  rfl

theorem markupIncludesManifest_eq_nil :
    Rule.markupIncludesManifest ⟨q, q.declarations {}, {}⟩ = [] := by
  have hholds : (q.declarations {}).holds p.markup.path .declaresManifestInclude = true := by
    obtain ⟨_, _, _, hdeclared⟩ := p.markup_declared
    unfold FactSet.holds
    rw [fact?_eq h p.markup_mem, hdeclared]
    rfl
  have hunit : p.unit.markup = some p.markup := rfl
  unfold Rule.markupIncludesManifest
  dsimp only
  rw [h.units]
  simp [hunit, hholds]

end TwinNode.TwinPackage
