import TwinNode.Proofs.Json.ReadBack
import TwinNode.Proofs.Package.Loading
import TwinNode.Proofs.Rule.Presence
import TwinNode.Proofs.Rule.Reported

/-! The rules see a manifest through facts that are looked up by its path, and where a fact
is not there they go on with a default. All the same each kind of manifest has an answer of
its own: a text that is no JSON, a value that is no object, and an object, of which
`modules` and `preload` are looked at. -/

namespace TwinNode

open TwinNode.Json (Value)

namespace Rule

def manifestNoObject (path : String) : Finding where
  path := path
  message := "Device manifest must be a JSON object"

def modulesNoObject (path : String) (modules : Value) : Finding where
  path := path
  message :=
    "Device manifest 'modules' must be a JSON object, found " ++ (Shape.of (some modules)).label
  location := some "modules"

/-- The finding that a path under the name of a module has a script suffix. -/
def moduleSuffixed (path key written : String) : Finding where
  path := path
  message := "Module path \"" ++ written ++ "\" must not include a script file extension"
  location := some ("modules." ++ key)

def preloadNoString (path : String) (preload : Value) : Finding where
  path := path
  message := "Device manifest 'preload' must be a string, found " ++ (Shape.of (some preload)).label
  location := some "preload"

end Rule

/-- The strings that a value is or lists. -/
def Json.Value.strings : Value → List String
  | .str s => [s]
  | .list items => items.flatMap fun item => item.str?.toList
  | _ => []

/-- A text ends in one of the suffixes, without the blanks around it and whatever the case of its
letters. -/
def EndsInSuffix (suffixes : List String) (written : String) : Prop :=
  ∃ suffix ∈ suffixes, Text.lower suffix.toList <:+ Text.lower (Text.trim written.toList)

instance (suffixes : List String) (written : String) : Decidable (EndsInSuffix suffixes written) :=
  inferInstanceAs (Decidable (∃ suffix ∈ suffixes, _))

/-- The paths with a script suffix among the modules, each at the name of its module. -/
def suffixedPaths (suffixes : List String) (path : String) (modules : List (String × Value)) :
    List Finding :=
  modules.flatMap fun entry =>
    (entry.2.strings.filter fun written => EndsInSuffix suffixes written).map
      (Rule.moduleSuffixed path entry.1)

/-- What the rules about manifests answer to a text, by what the text holds. -/
inductive ManifestReported (room : Nat) (settings : RuleSettings) (a : Artifact)
    (reported : String → List Diagnostic) : Prop
  /-- A text that is no JSON has one fault, and nothing is said about what it holds. -/
  | malformed (e : Json.SyntaxError) (read : Json.read room a.text = .error (.malformed e))
      (syntaxFault : reported "J1" = Rule.diagnosticsOf "J1" [syntaxFinding e a])
      (format : reported "R1" = []) (suffixes : reported "R2" = []) (preload : reported "R3" = [])
  /-- A value that is no object has one fault. -/
  | noObject (v : Value) (read : Json.read room a.text = .ok v) (shape : v.isObject = false)
      (syntaxFault : reported "J1" = [])
      (format : reported "R1" = Rule.diagnosticsOf "R1" [Rule.manifestNoObject a.path])
      (suffixes : reported "R2" = []) (preload : reported "R3" = [])
  /-- Of an object, the members `modules` and `preload` are looked at, if they are there. -/
  | object (v : Value) (read : Json.read room a.text = .ok v) (shape : v.isObject = true)
      (syntaxFault : reported "J1" = [])
      (format : reported "R1" = Rule.diagnosticsOf "R1"
        (((v.member? "modules").toList.filter (!·.isObject)).map (Rule.modulesNoObject a.path)))
      (suffixes : (reported "R2").Perm (Rule.diagnosticsOf "R2"
        (suffixedPaths settings.scriptSuffixes a.path
          (((v.member? "modules").bind Value.members?).getD []))))
      (preload : reported "R3" = Rule.diagnosticsOf "R3"
        (((v.member? "preload").toList.filter (!·.str?.isSome)).map (Rule.preloadNoString a.path)))

section Reported

variable {settings : RuleSettings} {p : Package}

variable (hpaths : (p.artifacts.map (·.path)).Nodup) {a : Artifact} (ha : a ∈ p.artifacts)
include hpaths ha

theorem filterMap_path {find : Artifact → Option Finding}
    (h : ∀ b f, find b = some f → f.path = b.path) :
    (p.artifacts.filterMap find).filter (·.path == a.path) = (find a).toList := by
  rw [List.filterMap_eq_flatMap_toList]
  exact filter_flatMap_of_nodup (fun b f hf => h b f (Option.mem_toList.1 hf)) hpaths ha

theorem filterMap_filter_path {find : Artifact → Option Finding}
    (h : ∀ b f, find b = some f → f.path = b.path) (looksAt : Artifact → Bool) :
    ((p.artifacts.filter looksAt).filterMap find).filter (·.path == a.path) =
      if looksAt a then (find a).toList else [] := by
  rw [List.filterMap_filter, filterMap_path hpaths ha]
  · split <;> rfl
  · intro b f hf
    split at hf
    · exact h b f hf
    · cases hf

theorem malformedJson_at : (Rule.malformedJson (p.context settings)).filter (·.path == a.path) =
    (a.syntaxError?.map fun e => syntaxFinding e a).toList := by
  refine filterMap_path hpaths ha fun b f hf => ?_
  obtain ⟨e, _, rfl⟩ := Option.map_eq_some_iff.1 hf
  rfl

/-- What is noted about a path is what the artifact there declares. -/
theorem shape_own (name : FactName) : (p.declarations settings).shape a.path name =
    (a.declarations settings).shape a.path name := by
  have hown : (a.declarations settings).factsFor a.path name =
      (a.declarations settings).facts.filter (·.name == name) := by
    refine List.filter_congr fun f hf => ?_
    rw [a.about_declarations.facts f hf, beq_self_eq_true, Bool.true_and]
  unfold FactSet.shape FactSet.fact?
  rw [factsFor_declarations hpaths ha, hown]

theorem noExtension_own : (Rule.noExtension (p.context settings)).filter (·.path == a.path) =
    Rule.noExtension ⟨p, a.declarations settings, settings⟩ := by
  have hown : (p.declarations settings).facts.filter (·.path == a.path) =
      (a.declarations settings).facts := by
    rw [p.declarations_facts]
    exact filter_flatMap_of_nodup (fun b => b.about_declarations.facts) hpaths ha
  unfold Rule.noExtension Package.context
  dsimp only
  rw [← hown, List.filter_filterMap, List.filterMap_filter]
  refine List.filterMap_congr fun f _ => ?_
  split
  · rw [Option.filter_some]
  · rw [ite_self, Option.filter_none]

end Reported

section Declared

variable {settings : RuleSettings} {path : String} {v : Value}

/-- A value that is no object gives one fact. -/
theorem manifestDeclarations_noObject (h : v.isObject = false) :
    manifestDeclarations settings path v =
      ⟨[], [⟨path, .manifestModulesShape, .shape .invalid, none⟩]⟩ := by
  have hnone : v.members? = none := by simpa [Value.isObject] using h
  unfold manifestDeclarations
  rw [hnone]

/-- An object gives the shapes of two members, with the paths of modules between them. -/
theorem manifestDeclarations_object (h : v.isObject = true) : manifestDeclarations settings path v =
    ⟨[], [⟨path, .manifestModulesShape, .shape (Shape.of (v.member? "modules")), some "modules"⟩] ++
      suffixedModules settings path (((v.member? "modules").bind Value.members?).getD []) ++
      [⟨path, .manifestPreloadShape, .shape (Shape.of (v.member? "preload")),
        some "preload"⟩]⟩ := by
  obtain ⟨members, hmembers⟩ := Option.isSome_iff_exists.1 h
  unfold manifestDeclarations
  rw [hmembers]

theorem shape_modules : (manifestDeclarations settings path v).shape path .manifestModulesShape =
    if v.isObject then Shape.of (v.member? "modules") else .invalid := by
  unfold FactSet.shape FactSet.fact? FactSet.factsFor
  cases h : v.isObject with
  | false => simp [manifestDeclarations_noObject h]
  | true => simp [manifestDeclarations_object h]

theorem name_of_mem_suffixedModules {modules : List (String × Value)} {f : Fact}
    (h : f ∈ suffixedModules settings path modules) : f.name = .manifestPathHasJsExtension := by
  obtain ⟨entry, _, hf⟩ := List.mem_flatMap.1 h
  obtain ⟨written, _, rfl⟩ := List.mem_map.1 hf
  rfl

theorem member?_of_not_object (h : v.isObject = false) (key : String) : v.member? key = none := by
  cases v with
  | object members => cases h
  | _ => rfl

theorem shape_preload : (manifestDeclarations settings path v).shape path .manifestPreloadShape =
    Shape.of (v.member? "preload") := by
  unfold FactSet.shape FactSet.fact? FactSet.factsFor
  cases h : v.isObject with
  | false => simp [manifestDeclarations_noObject h, member?_of_not_object h, Shape.of]
  | true =>
    -- The modules are noted under another name and come before.
    have hother :
      (suffixedModules settings path (((v.member? "modules").bind Value.members?).getD [])).filter
        (fun f => f.path == path && f.name == .manifestPreloadShape) = [] := by
      refine List.filter_eq_nil_iff.2 fun f hf => ?_
      rw [name_of_mem_suffixedModules hf]
      simp
    simp [manifestDeclarations_object h, hother]

theorem modulePaths_eq (w : Value) : modulePaths w = w.strings := by
  cases w with
  | list items => exact List.filterMap_eq_flatMap_toList _ _
  | _ => rfl

theorem hasScriptSuffix_iff {written : String} :
    hasScriptSuffix settings written = true ↔ EndsInSuffix settings.scriptSuffixes written := by
  unfold hasScriptSuffix EndsInSuffix
  simp [List.any_eq_true, List.isSuffixOf_iff_suffix]

/-- The paths are found in the order of the names of their modules. -/
theorem noExtension_perm (settings : RuleSettings) (path : String) (v : Value) (p : Package) :
    (Rule.noExtension ⟨p, manifestDeclarations settings path v, settings⟩).Perm
      (suffixedPaths settings.scriptSuffixes path
        (((v.member? "modules").bind Value.members?).getD [])) := by
  cases h : v.isObject with
  | false =>
    rw [member?_of_not_object h]
    unfold Rule.noExtension
    rw [manifestDeclarations_noObject h]
    exact .refl _
  | true =>
    have hsuffix : ∀ written, hasScriptSuffix settings written =
        decide (EndsInSuffix settings.scriptSuffixes written) := by
      intro written
      rw [Bool.eq_iff_iff, decide_eq_true_iff]
      exact hasScriptSuffix_iff
    generalize hmodules : ((v.member? "modules").bind Value.members?).getD [] = modules
    have hfound : Rule.noExtension ⟨p, manifestDeclarations settings path v, settings⟩ =
        suffixedPaths settings.scriptSuffixes path (modules.mergeSort fun a b => a.1 ≤ b.1) := by
      unfold Rule.noExtension suffixedPaths
      rw [manifestDeclarations_object h, hmodules]
      simp only [List.filterMap_append, List.filterMap_cons, List.filterMap_nil,
        List.nil_append, List.append_nil]
      unfold suffixedModules
      rw [List.filterMap_flatMap]
      refine List.flatMap_congr fun entry _ => ?_
      rw [List.filterMap_map, ← modulePaths_eq, List.filter_congr fun written _ => hsuffix written]
      exact congrFun List.filterMap_eq_map _
    rw [hfound]
    exact (List.mergeSort_perm modules _).flatMap_right _

theorem declarations_of_malformed {a : Artifact} {e : Json.SyntaxError}
    (hcontent : a.content = .malformed e) :
    a.declarations settings = .empty := by
  unfold Artifact.declarations
  rw [hcontent]
  cases a.kind <;> rfl

theorem declarations_of_manifest {a : Artifact} (hkind : a.kind = .manifest)
    (hcontent : a.content = .json v) :
    a.declarations settings = manifestDeclarations settings a.path v := by
  unfold Artifact.declarations
  rw [hcontent, hkind]

end Declared

section Manifest

variable {settings : RuleSettings} {p : Package} (hpaths : (p.artifacts.map (·.path)).Nodup)
  {a : Artifact} (ha : a ∈ p.artifacts)
include hpaths ha

theorem moduleFormat_of_malformed {e : Json.SyntaxError} (hcontent : a.content = .malformed e) :
    (Rule.moduleFormat (p.context settings)).filter (·.path == a.path) = [] := by
  have hparsed : a.isParsed = false := by simp [Artifact.isParsed, Artifact.syntaxError?, hcontent]
  unfold Rule.moduleFormat Package.ofKind Package.context
  dsimp only
  rw [List.filter_filter, filterMap_filter_path hpaths ha, hparsed]
  · rfl
  · intro b f hf
    split_ifs at hf <;> cases hf <;> rfl

variable (hkind : a.kind = .manifest)
include hkind

theorem moduleFormat_of_json {v : Value} (hcontent : a.content = .json v) :
    (Rule.moduleFormat (p.context settings)).filter (·.path == a.path) =
      if v.isObject then ((v.member? "modules").toList.filter (!·.isObject)).map
        (Rule.modulesNoObject a.path)
      else [Rule.manifestNoObject a.path] := by
  have hparsed : a.isParsed = true := by simp [Artifact.isParsed, Artifact.syntaxError?, hcontent]
  have hvalue : a.json? = some v := by simp [Artifact.json?, hcontent]
  unfold Rule.moduleFormat Package.ofKind Package.context
  dsimp only
  rw [List.filter_filter, filterMap_filter_path hpaths ha, hparsed, hkind, shape_own hpaths ha,
    declarations_of_manifest hkind hcontent, shape_modules, hvalue, Option.any_some]
  · cases hobject : v.isObject with
    | false => rfl
    | true =>
      cases v.member? "modules" with
      | none => rfl
      | some w => cases w <;> rfl
  · intro b f hf
    split_ifs at hf <;> cases hf <;> rfl

theorem preloadIsString_of_malformed {e : Json.SyntaxError} (hcontent : a.content = .malformed e) :
    (Rule.preloadIsString (p.context settings)).filter (·.path == a.path) = [] := by
  unfold Rule.preloadIsString Package.ofKind Package.context
  dsimp only
  rw [filterMap_filter_path hpaths ha, hkind, shape_own hpaths ha,
    declarations_of_malformed hcontent]
  · rfl
  · intro b f hf
    split_ifs at hf
    cases hf
    rfl

theorem preloadIsString_of_json {v : Value} (hcontent : a.content = .json v) :
    (Rule.preloadIsString (p.context settings)).filter (·.path == a.path) =
      ((v.member? "preload").toList.filter (!·.str?.isSome)).map (Rule.preloadNoString a.path) := by
  unfold Rule.preloadIsString Package.ofKind Package.context
  dsimp only
  rw [filterMap_filter_path hpaths ha, hkind, shape_own hpaths ha,
    declarations_of_manifest hkind hcontent, shape_preload]
  · cases v.member? "preload" with
    | none => rfl
    | some w => cases w <;> rfl
  · intro b f hf
    split_ifs at hf
    cases hf
    rfl

end Manifest

/-- Each manifest of a package with different paths is answered by what its text holds, and each
finding of the answer is one diagnostic of its rule. -/
theorem manifest_reported {p : Package} (hpaths : (p.artifacts.map (·.path)).Nodup)
    {a : Artifact} (ha : a ∈ p.artifacts) (hkind : a.kind = .manifest) {room : Nat}
    (hloaded : a.Loaded room) (hjson : Path.hasSuffix Path.jsonSuffix a.path = true)
    (settings : RuleSettings) :
    ManifestReported room settings a (fun id => p.reportedBy settings id a.path) ∧
      ∀ id ∈ ["J1", "R1", "R2", "R3"], ∀ findings,
        List.Forall₂ (Diagnostic.States id) (Rule.diagnosticsOf id findings) findings := by
  refine ⟨?_, fun id hid findings => ?stated⟩
  case stated =>
    have hcatalog : ∀ id ∈ ["J1", "R1", "R2", "R3"], (Rule.find? id).map Rule.id = some id := by
      decide
    exact Rule.diagnosticsOf_states (hcatalog id hid) findings
  have hsyntax := reportedBy_eq settings p "J1" a.path rfl rfl rfl
  have hformat := reportedBy_eq settings p "R1" a.path rfl rfl rfl
  have hsuffixes := reportedBy_eq settings p "R2" a.path rfl rfl rfl
  have hpreload := reportedBy_eq settings p "R3" a.path rfl rfl rfl
  rw [malformedJson_at hpaths ha, Artifact.syntaxError?] at hsyntax
  rw [noExtension_own hpaths ha] at hsuffixes
  rcases hloaded.value_or_fault (hkind ▸ rfl) hjson with ⟨v, hread, hcontent⟩ | ⟨e, hread, hcontent⟩
  · rw [hcontent] at hsyntax
    rw [moduleFormat_of_json hpaths ha hkind hcontent] at hformat
    rw [preloadIsString_of_json hpaths ha hkind hcontent] at hpreload
    rw [declarations_of_manifest hkind hcontent] at hsuffixes
    cases hobject : v.isObject with
    | true =>
      rw [hobject, if_pos rfl] at hformat
      have hperm := Rule.diagnosticsOf_perm "R2" (noExtension_perm settings a.path v p)
      exact .object v hread hobject hsyntax hformat (hsuffixes ▸ hperm) hpreload
    | false =>
      rw [hobject, if_neg Bool.false_ne_true] at hformat
      rw [manifestDeclarations_noObject hobject] at hsuffixes
      rw [member?_of_not_object hobject] at hpreload
      exact .noObject v hread hobject hsyntax hformat hsuffixes hpreload
  · rw [hcontent] at hsyntax
    rw [moduleFormat_of_malformed hpaths ha hcontent] at hformat
    rw [preloadIsString_of_malformed hpaths ha hkind hcontent] at hpreload
    rw [declarations_of_malformed hcontent] at hsuffixes
    exact .malformed e hread hsyntax hformat hsuffixes hpreload

/-- A manifest with a suffix on one of two modules, and an object in place of the preloaded
module. -/
def suffixedManifest : Value :=
  .object [("modules", .object [("a", .str "./A.JS "), ("b", .str "./b")]),
    ("preload", .object [("c", .str "c")])]

theorem simple_suffixedManifest : Json.Simple 2 suffixedManifest := by
  have hmodules : Json.Simple 1 (.object [("a", .str "./A.JS "), ("b", .str "./b")]) := by
    refine .object (List.cons_ne_nil _ _) (by decide) (by decide) ?_
    simp only [List.forall_mem_cons]
    exact ⟨.str (by decide), .str (by decide), List.forall_mem_nil _⟩
  refine .object (List.cons_ne_nil _ _) (by decide) (by decide) ?_
  simp only [List.forall_mem_cons]
  exact ⟨hmodules, .entry (by decide) (.str (by decide)), List.forall_mem_nil _⟩

def suffixedManifestFile : Artifact :=
  ⟨.manifest, "manifest.json", suffixedManifest.pretty.toList, .json suffixedManifest⟩

def suffixedManifestPackage : Package := ⟨"/", [suffixedManifestFile], []⟩

theorem manifest_reported_suffixed : suffixedManifestFile.Loaded 2 ∧
    suffixedManifestPackage.reportedBy {} "J1" "manifest.json" = [] ∧
    suffixedManifestPackage.reportedBy {} "R1" "manifest.json" = [] ∧
    (suffixedManifestPackage.reportedBy {} "R2" "manifest.json").Perm
      (Rule.diagnosticsOf "R2" [Rule.moduleSuffixed "manifest.json" "a" "./A.JS "]) ∧
    suffixedManifestPackage.reportedBy {} "R3" "manifest.json" =
      Rule.diagnosticsOf "R3" [Rule.preloadNoString "manifest.json"
        (.object [("c", .str "c")])] := by
  have hread : Json.read 2 suffixedManifestFile.text = .ok suffixedManifest :=
    Json.read_pretty simple_suffixedManifest (by decide)
  have hloaded : suffixedManifestFile.Loaded 2 :=
    ofText_json rfl (by decide) simple_suffixedManifest (by decide)
  have hpaths : (suffixedManifestPackage.artifacts.map (·.path)).Nodup := List.nodup_singleton _
  refine ⟨hloaded, ?_⟩
  obtain ⟨hreported, _⟩ :=
    manifest_reported hpaths (List.mem_singleton_self _) rfl hloaded (by decide) {}
  cases hreported with
  | malformed e read =>
    rw [hread] at read
    cases read
  | noObject v read shape =>
    obtain rfl := Except.ok.inj (hread.symm.trans read)
    cases shape
  | object v read _ syntaxFault format suffixes preload =>
    obtain rfl := Except.ok.inj (hread.symm.trans read)
    exact ⟨syntaxFault, format, suffixes, preload⟩

end TwinNode
