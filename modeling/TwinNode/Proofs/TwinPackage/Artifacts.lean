import Mathlib.Data.List.Nodup
import TwinNode.Proofs.Package.Loading
import TwinNode.Proofs.TwinPackage.DeviceScript
import TwinNode.Proofs.TwinPackage.MarkupText
import TwinNode.Proofs.TwinPackage.Paths

namespace TwinNode.TwinPackage

open TwinNode.Json (Value Clean Simple)
open TwinNode.Path (FileName Dotless nodeSuffixes)
open TwinNode.Text

variable (p : TwinPackage)

def artifacts : List Artifact := p.parts ++ [p.descriptor]

theorem simple_manifestValue : Simple 2 manifestValue := by
  refine .object (List.cons_ne_nil _ _) (by decide) (by decide) ?_
  simp only [List.forall_mem_cons]
  exact ⟨.entry (by decide) (.str (by decide)), .str (by decide), List.forall_mem_nil _⟩

theorem simple_localeValue : Simple 3 localeValue :=
  .entry (by decide) (.entry (by decide) (.entry (by decide) (.str (by decide))))

theorem fileNames_names {ext : String} (he : ext ∈ nodeSuffixes) :
    ∀ n ∈ p.fileNames ext, FileName n := by
  intro n hn
  rcases List.mem_append.1 hn with hn | hn
  · exact p.fileName_directories n hn
  · rw [List.mem_singleton.1 hn]
    exact p.fileName_suffix he

theorem clean_stubPath : Clean p.stubPath := by
  intro c hc
  rcases Path.mem_join hc with rfl | ⟨n, hn, hc⟩
  · decide
  · rcases (p.fileNames_names (by decide) n hn).chars c hc with hplain | rfl
    · exact .of_plain hplain
    · decide

theorem simple_descriptorValue : Simple 3 p.descriptorValue := by
  have hkeys : ["name", "version", "node-red"].Nodup := by decide
  have hclean : ∀ key ∈ ["name", "version", "node-red"], Clean key := by decide
  refine .object (List.cons_ne_nil _ _) hkeys (by simpa using hclean) ?_
  simp only [List.forall_mem_cons]
  exact ⟨.str (by decide), .str (by decide),
    .entry (by decide) (.entry (.of_plain p.key_plain) (.str p.clean_stubPath)),
      List.forall_mem_nil _⟩

theorem hasSuffix_json {text : String} (h : Dotless text) :
    Path.hasSuffix Path.jsonSuffix (text ++ ".json") = true := by
  have hsuffix : Path.jsonSuffix.toList.isSuffixOf ".json".toList = true := by decide
  rw [Path.hasSuffix_node h (by decide) (by decide), hsuffix]

theorem dotless_below {parent name : String} (h : Dotless parent) (hn : Dotless name) :
    Dotless (parent ++ "/" ++ name) := by
  intro c hc
  rw [String.toList_append, String.toList_append, List.mem_append, List.mem_append] at hc
  rcases hc with (hc | hc) | hc
  · exact h c hc
  · obtain rfl : c = '/' := by simpa using hc
    decide
  · exact hn c hc

theorem manifestPath_eq :
    Path.join p.manifestNames = p.directory ++ "/" ++ "manifest" ++ ".json" := by
  have hname : "manifest.json" = "manifest" ++ ".json" := by decide
  unfold manifestNames
  rw [join_file, hname, ← String.append_assoc]

theorem dotless_localeDirectory : Dotless p.localeDirectory := by
  have hlocales : ∀ n ∈ ["locales", "en-US"], ∀ c ∈ n.toList, c.toNat < 128 ∧ c ≠ '.' := by decide
  intro c hc
  rcases Path.mem_join hc with rfl | ⟨n, hn, hc⟩
  · decide
  · rcases List.mem_append.1 hn with hn | hn
    · exact Dotless.of_plain (p.directories_plain n hn).1 c hc
    · exact hlocales n hn c hc

theorem loaded_json {nesting room : Nat} {kind : ArtifactKind} {path : String} {v : Value}
    (hk : kind.isJson = true) (hp : Path.hasSuffix Path.jsonSuffix path = true)
    (hv : Simple nesting v) (hroom : nesting ≤ room) :
    (Artifact.mk kind path v.pretty.toList (.json v)).Loaded room ∧ Unix v.pretty.toList :=
  ⟨ofText_json hk hp hv hroom, Json.unix_indented hv 0⟩

section Loaded

variable {room : Nat} (hroom : 3 ≤ room)
include hroom

theorem loaded_manifest : p.manifest.Loaded room ∧ Unix p.manifest.text := by
  have hp : Path.hasSuffix Path.jsonSuffix (Path.join p.manifestNames) = true := by
    rw [manifestPath_eq]
    exact hasSuffix_json (dotless_below p.dotless_directory (by unfold Dotless; decide))
  unfold manifest
  dsimp only
  exact loaded_json rfl hp simple_manifestValue (by omega)

theorem loaded_locale : p.locale.Loaded room ∧ Unix p.locale.text := by
  have hp : Path.hasSuffix Path.jsonSuffix (Path.join p.localeNames) = true := by
    rw [localePath_eq, ← String.append_assoc]
    exact hasSuffix_json (dotless_below p.dotless_localeDirectory (.of_plain p.stem_plain))
  unfold locale
  dsimp only
  exact loaded_json rfl hp simple_localeValue hroom

theorem loaded_descriptor : p.descriptor.Loaded room ∧ Unix p.descriptor.text := by
  have hp : Path.hasSuffix Path.jsonSuffix descriptorName = true := by decide
  unfold descriptor
  dsimp only
  exact loaded_json rfl hp p.simple_descriptorValue hroom

theorem loaded_artifacts : ∀ a ∈ p.artifacts, a.Loaded room ∧ Unix a.text := by
  have hstub : p.stub.Loaded room ∧ Unix p.stub.text := ⟨rfl, stubParts_unix p.stubType_plain⟩
  have hdevice : p.device.Loaded room ∧ Unix p.device.text :=
    ⟨rfl, deviceParts_unix p.deviceType_plain⟩
  have hmarkup : p.markup.Loaded room ∧ Unix p.markup.text := ⟨rfl, markup_unix p.markupType_plain⟩
  unfold artifacts parts
  simp only [List.cons_append, List.nil_append, List.forall_mem_cons]
  exact ⟨hstub, hdevice, hmarkup, p.loaded_manifest hroom, p.loaded_locale hroom,
    p.loaded_descriptor hroom, List.forall_mem_nil _⟩

end Loaded

theorem classify_artifacts {siblings : String → List String} (h : p.Siblings siblings)
    (referenced : List String) :
    ∀ a ∈ p.artifacts, classify siblings referenced a.path = some a.kind := by
  unfold artifacts parts
  simp only [List.cons_append, List.nil_append, List.forall_mem_cons]
  refine ⟨p.classify_stub h, p.classify_device, p.classify_markup h,
    p.classify_manifest, p.classify_locale, ?_, List.forall_mem_nil _⟩
  unfold descriptor classify
  exact if_pos rfl

/-- The paths of the artifacts are different, because their kinds are. -/
theorem paths_nodup : (p.artifacts.map (·.path)).Nodup := by
  obtain ⟨siblings, h⟩ : ∃ siblings, p.Siblings siblings :=
    ⟨fun _ => [Path.lowerName p.stem ++ ".js", Path.lowerName p.stem ++ ".html"], by simp, by simp⟩
  have hkinds : (p.artifacts.map fun a => some a.kind).Nodup := by
    show ([.hostStub, .deviceScript, .editorMarkup, .manifest,
      .localeBundle, .descriptor].map some :
      List (Option ArtifactKind)).Nodup
    decide
  have hclassified : (p.artifacts.map (·.path)).map (classify siblings []) =
      p.artifacts.map fun a => some a.kind := by
    rw [List.map_map]
    exact List.map_congr_left (p.classify_artifacts h [])
  exact List.Nodup.of_map (classify siblings []) (hclassified ▸ hkinds)

end TwinNode.TwinPackage
