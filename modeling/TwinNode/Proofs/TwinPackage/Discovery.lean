import TwinNode.Proofs.TwinPackage.Artifacts

namespace TwinNode.TwinPackage

open TwinNode.Path (FileName nodeSuffixes)

variable (p : TwinPackage)

theorem files_texts : (p.files.map fun file => (Path.join file.1, file.2)) =
    p.artifacts.map fun a => (a.path, a.text) := by
  simp only [files, artifacts, parts, stub, device, markup, manifest, locale,
    descriptor, stubPath, devicePath, markupPath, descriptorName, List.map_cons, List.map_nil,
      List.cons_append, List.nil_append, Path.join_singleton]

theorem parts_ne_descriptor {a : Artifact} (h : a ∈ p.parts) : a.path ≠ descriptorName := by
  have hpaths := p.paths_nodup
  unfold artifacts at hpaths
  rw [List.map_append, List.nodup_append] at hpaths
  exact hpaths.2.2 _ (List.mem_map_of_mem h) _ (List.mem_singleton_self _)

theorem descriptor_mem : p.descriptor ∈ p.artifacts :=
  List.mem_append_right _ (List.mem_singleton_self _)

theorem parts_subset {a : Artifact} (h : a ∈ p.parts) : a ∈ p.artifacts := List.mem_append_left _ h

theorem stub_mem : p.stub ∈ p.artifacts := p.parts_subset (by simp [parts])

theorem device_mem : p.device ∈ p.artifacts := p.parts_subset (by simp [parts])

theorem markup_mem : p.markup ∈ p.artifacts := p.parts_subset (by simp [parts])

theorem manifest_mem : p.manifest ∈ p.artifacts := p.parts_subset (by simp [parts])

theorem locale_mem : p.locale ∈ p.artifacts := p.parts_subset (by simp [parts])

theorem stub_kind : p.stub.kind = .hostStub := rfl

theorem device_kind : p.device.kind = .deviceScript := rfl

theorem markup_kind : p.markup.kind = .editorMarkup := rfl

theorem manifest_kind : p.manifest.kind = .manifest := rfl

theorem locale_kind : p.locale.kind = .localeBundle := rfl

theorem descriptor_kind : p.descriptor.kind = .descriptor := rfl

theorem descriptor_path : p.descriptor.path = descriptorName := rfl

section Files

variable {fs : FileSystem} {place : Place} {files : List String}

theorem loaded_artifact (h : p.StoredIn fs place) {a : Artifact} (ha : a ∈ p.artifacts) :
    loadArtifact fs place a.kind a.path = .ok a := by
  have hin : (a.path, a.text) ∈ p.files.map fun file => (Path.join file.1, file.2) := by
    rw [files_texts]
    exact List.mem_map_of_mem ha
  obtain ⟨file, hfile, heq⟩ := List.mem_map.1 hin
  obtain ⟨hpath, htext⟩ := Prod.mk.inj heq
  obtain ⟨hloaded, hunix⟩ := p.loaded_artifacts h.room a ha
  refine loadArtifact_written hloaded hunix ?_
  rw [← hpath, ← htext]
  exact h.readable file hfile

variable (h : files.Perm (p.files.map fun file => Path.join file.1))
include h

theorem sibling_found {ext : String} (he : ext ∈ nodeSuffixes)
    (hf : p.fileNames ext ∈ p.files.map (·.1)) :
    Path.lowerName p.stem ++ ext ∈ siblingsAmong files p.directory := by
  have hname : '/' ∉ (p.stem ++ ext).toList := slash_not_mem (p.fileName_suffix he)
  have hpath : Path.join (p.fileNames ext) ∈ files := by
    obtain ⟨file, hfile, hnames⟩ := List.mem_map.1 hf
    exact h.mem_iff.2 (List.mem_map.2 ⟨file, hfile, by rw [hnames]⟩)
  unfold fileNames at hpath
  rw [join_file] at hpath
  refine List.mem_map.2 ⟨_, List.mem_filter.2 ⟨hpath, ?_⟩, ?_⟩
  · rw [Path.directory_append hname, beq_self_eq_true]
  · rw [Path.name_append hname, Path.lowerName_append p.stem_plain he]

theorem siblings_found : p.Siblings (siblingsAmong files) where
  stub := p.sibling_found h (by decide) (by simp [TwinPackage.files])
  markup := p.sibling_found h (by decide) (by simp [TwinPackage.files])

theorem classifyFiles_perm (referenced : List String) :
    (classifyFiles files referenced).Perm (p.parts.map fun a => (a.path, a.kind)) := by
  have hothers : (p.files.map fun file => Path.join file.1).filter (· ≠ descriptorName) =
      p.parts.map (·.path) := by
    have hparts : ∀ path ∈ p.parts.map (·.path), decide (path ≠ descriptorName) = true := by
      intro path hpath
      obtain ⟨a, ha, rfl⟩ := List.mem_map.1 hpath
      exact decide_eq_true (p.parts_ne_descriptor ha)
    rw [files_paths, List.filter_append, List.filter_eq_self.2 hparts]
    simp
  have hkinds : ∀ a ∈ p.parts, (classify (siblingsAmong files) referenced a.path).map (a.path, ·) =
      some (a.path, a.kind) := by
    intro a ha
    rw [p.classify_artifacts (p.siblings_found h) referenced a (p.parts_subset ha), Option.map_some]
  unfold classifyFiles
  refine ((h.filter _).filterMap _).trans (.of_eq ?_)
  rw [hothers, List.filterMap_map, ← List.filterMap_eq_map]
  exact List.filterMap_congr hkinds

end Files

/-- Discovery gives the six artifacts in the order of their paths. -/
theorem discovered {fs : FileSystem} {root : Path.Location} {place : Place}
    (hroot : checkRoot fs root = .ok place) (h : p.StoredIn fs place)
    {workers : Int} (hw : 1 ≤ workers) :
    ∃ artifacts, artifacts.Perm p.artifacts ∧ discover fs root ({} : Settings).exclude workers =
      .ok ⟨Place.text place, artifacts, groupUnits artifacts⟩ := by
  have hfound := p.foundFiles_perm h
  generalize hfiles : foundFiles fs ({} : Settings).exclude place = files at hfound
  have hdescriptor : loadDescriptor fs place files = .ok (some p.descriptor) := by
    have hin : descriptorName ∈ files := by
      rw [hfound.mem_iff, files_paths]
      simp
    unfold loadDescriptor
    rw [if_pos (List.contains_iff_mem.2 hin)]
    have hload := p.loaded_artifact h p.descriptor_mem
    rw [descriptor_kind, descriptor_path] at hload
    rw [hload]
    rfl
  have hparts : (p.parts.map fun a => (a.path, a.kind)).mapM
    (fun entry => loadArtifact fs place entry.2 entry.1) =
      .ok p.parts := by
    refine mapM_map_eq_ok fun a ha => ?_
    dsimp only
    exact p.loaded_artifact h (p.parts_subset ha)
  obtain ⟨others, hothers, hperm⟩ := mapM_perm
    (p.classifyFiles_perm hfound (referencedPaths p.descriptor.registrations)) hparts
  refine ⟨(others ++ [p.descriptor]).mergeSort fun a b => a.path ≤ b.path,
    (List.mergeSort_perm _ _).trans (hperm.append_right _), ?_⟩
  have hload : loadArtifacts fs place workers files =
      .ok ((others ++ [p.descriptor]).mergeSort fun a b => a.path ≤ b.path) := by
    rw [loadArtifacts_eq hw, hdescriptor]
    show loadBeside fs place files (some p.descriptor) = _
    unfold loadBeside
    rw [Option.map_some, Option.getD_some, hothers]
    rfl
  unfold discover
  simp only [hroot, hfiles, hload, bind, Except.bind]

def unit : NodeUnit where
  directory := p.directory
  stem := p.stem
  stub := some p.stub
  device := some p.device
  markup := some p.markup
  manifest := some p.manifest
  locales := [p.locale]
  descriptorKeys := [p.key]

theorem unitKey_file {ext : String} (he : ext ∈ nodeSuffixes) {a : Artifact}
    (ha : a.path = Path.join (p.fileNames ext)) : a.unitKey = (p.directory, p.stem) := by
  have hname : '/' ∉ (p.stem ++ ext).toList := slash_not_mem (p.fileName_suffix he)
  unfold fileNames at ha
  rw [join_file] at ha
  unfold Artifact.unitKey Artifact.directory Artifact.stem
  rw [ha, Path.directory_append hname, Path.name_append hname,
    Path.stem_node (.of_plain p.stem_plain) he]

theorem unitKey_stub : p.stub.unitKey = (p.directory, p.stem) := p.unitKey_file (by decide) rfl

theorem unitKey_device : p.device.unitKey = (p.directory, p.stem) := p.unitKey_file (by decide) rfl

theorem unitKey_markup : p.markup.unitKey = (p.directory, p.stem) := p.unitKey_file (by decide) rfl

theorem directory_manifest : p.manifest.directory = p.directory := by
  have hname : '/' ∉ "manifest.json".toList := by decide
  unfold Artifact.directory manifest manifestNames
  dsimp only
  rw [join_file, Path.directory_append hname]

theorem localeOwner?_locale : localeOwner? p.locale.path = some (p.directory, p.stem) := by
  have hname : '/' ∉ (p.stem ++ ".json").toList := slash_not_mem (p.fileName_suffix (by decide))
  have hrest : ("en-US" :: "locales" :: p.directories.reverse).dropWhile (· != localesDirectory) =
      "locales" :: p.directories.reverse := rfl
  unfold localeOwner? locale
  dsimp only
  rw [localePath_eq, Path.directory_append hname,
    Path.name_append hname, segments_localeDirectory,
      Path.stem_node (.of_plain p.stem_plain) (by decide)]
  simp only [List.reverse_append, List.reverse_cons, List.reverse_nil, List.nil_append,
    List.cons_append]
  rw [hrest]
  dsimp only
  rw [List.reverse_reverse]
  rfl

theorem normalizeReference_stubPath : Path.normalizeReference p.stubPath = p.stubPath :=
  Path.normalizeReference_join (by simp [fileNames]) (p.fileNames_names (by decide))

theorem hasSuffix_stubPath : Path.hasSuffix Path.deviceScriptSuffix p.stubPath = false := by
  unfold stubPath fileNames
  rw [join_file, ← String.append_assoc, Path.hasSuffix_node
    (dotless_below p.dotless_directory (.of_plain p.stem_plain)) (by decide) (by decide)]
  decide

theorem referencedUnit_stubPath : referencedUnit p.stubPath = (p.directory, p.stem) := by
  have hstub : Path.stubPath p.stubPath = p.stubPath := by
    unfold Path.stubPath
    rw [p.hasSuffix_stubPath, if_neg Bool.false_ne_true]
  unfold referencedUnit
  dsimp only
  rw [normalizeReference_stubPath, hstub]
  exact p.unitKey_stub

theorem registrations_descriptor : p.descriptor.registrations = [(p.key, .str p.stubPath)] := rfl

section Units

variable {p} {artifacts : List Artifact} (h : artifacts.Perm p.artifacts)
include h

theorem filter_of_perm {q : Artifact → Bool} {a : Artifact} (hq : p.artifacts.filter q = [a]) :
    artifacts.filter q = [a] :=
  List.perm_singleton.1 (hq ▸ h.filter q)

/-- Of each kind there is one artifact. -/
theorem filter_kind {a : Artifact} (ha : a ∈ p.artifacts) {kind : ArtifactKind}
    (hk : a.kind = kind) :
    artifacts.filter (·.kind = kind) = [a] := by
  refine filter_of_perm h ?_
  simp only [TwinPackage.artifacts, parts, List.cons_append, List.nil_append,
    List.mem_cons, List.not_mem_nil, or_false] at ha
  rcases ha with rfl | rfl | rfl | rfl | rfl | rfl <;> subst hk <;> rfl

theorem filter_kind_and {a : Artifact} (ha : a ∈ p.artifacts)
    {kind : ArtifactKind} (hk : a.kind = kind) {q : Artifact → Bool} (hq : q a = true) :
    artifacts.filter (fun b => b.kind = kind && q b) = [a] := by
  have hcomm : ∀ b : Artifact, (decide (b.kind = kind) && q b) = (q b && decide (b.kind = kind)) :=
    fun _ => Bool.and_comm _ _
  simp only [hcomm]
  rw [← List.filter_filter, filter_kind h ha hk, List.filter_singleton, hq]
  rfl

theorem slot?_kind {a : Artifact} (ha : a ∈ p.artifacts) {kind : ArtifactKind} (hk : a.kind = kind)
    (hkey : a.unitKey = (p.directory, p.stem)) :
    slot? artifacts kind (p.directory, p.stem) = some a := by
  have hown : (a.unitKey == (p.directory, p.stem)) = true := beq_iff_eq.2 hkey
  unfold slot?
  rw [filter_kind_and h ha hk (q := (·.unitKey == (p.directory, p.stem))) hown]
  rfl

theorem unitKeys_artifacts : unitKeys artifacts = [(p.directory, p.stem)] := by
  have hall : ∀ key ∈ (artifacts.filter (·.kind.isNodePart)).map Artifact.unitKey, key =
      (p.directory, p.stem) := by
    intro key hkey
    obtain ⟨a, ha, rfl⟩ := List.mem_map.1 hkey
    obtain ⟨hin, hpart⟩ := List.mem_filter.1 ha
    have hin := h.mem_iff.1 hin
    simp only [TwinPackage.artifacts, parts, List.cons_append, List.nil_append,
      List.mem_cons, List.not_mem_nil, or_false] at hin
    rcases hin with rfl | rfl | rfl | rfl | rfl | rfl
    · exact p.unitKey_stub
    · exact p.unitKey_device
    · exact p.unitKey_markup
    all_goals cases hpart
  have hstub : p.stub.unitKey ∈ (artifacts.filter (·.kind.isNodePart)).map Artifact.unitKey :=
    List.mem_map_of_mem (List.mem_filter.2 ⟨h.mem_iff.2 p.stub_mem, rfl⟩)
  unfold unitKeys
  cases hkeys : (artifacts.filter (·.kind.isNodePart)).map Artifact.unitKey with
  | nil =>
    rw [hkeys] at hstub
    cases hstub
  | cons key keys =>
    rw [hkeys] at hall
    obtain ⟨hkey, hrest⟩ := List.forall_mem_cons.1 hall
    have hnil : keys.filter (fun other => !other == key) = [] :=
      List.filter_eq_nil_iff.2 fun other hother => by simp [hrest other hother, hkey]
    rw [List.eraseDups_cons, hnil, hkey]
    rfl

theorem unitManifest?_artifacts :
    unitManifest? artifacts (p.directory, p.stem) = some p.manifest := by
  have hdirectory : (p.manifest.directory == p.directory) = true :=
    beq_iff_eq.2 p.directory_manifest
  have hslot : slot? artifacts .deviceScript (p.directory, p.stem) = some p.device :=
    slot?_kind h p.device_mem p.device_kind p.unitKey_device
  have hfilter :=
    filter_kind_and h p.manifest_mem p.manifest_kind (q := (·.directory == p.directory)) hdirectory
  unfold unitManifest?
  dsimp only
  rw [hslot, hfilter]
  rfl

theorem locales_artifacts : artifacts.filter
    (fun a => a.kind = .localeBundle && localeOwner? a.path == some (p.directory, p.stem)) =
      [p.locale] :=
  filter_kind_and h p.locale_mem p.locale_kind
    (q := fun a => localeOwner? a.path == some (p.directory, p.stem))
    (beq_iff_eq.2 p.localeOwner?_locale)

theorem registrationsAmong_artifacts :
    registrationsAmong artifacts = [(p.key, .str p.stubPath)] := by
  unfold registrationsAmong
  rw [filter_kind h p.descriptor_mem p.descriptor_kind]
  exact p.registrations_descriptor

theorem unitOf_artifacts : unitOf artifacts (p.directory, p.stem) = p.unit := by
  have hkeys : ([(p.key, .str p.stubPath)] : List (String × Json.Value)).filter (fun entry =>
      entry.2.str?.any fun reference => referencedUnit reference == (p.directory, p.stem)) =
        [(p.key, .str p.stubPath)] := by
    rw [List.filter_singleton]
    simp [Json.Value.str?, referencedUnit_stubPath]
  unfold unitOf unit
  dsimp only
  rw [slot?_kind h p.stub_mem p.stub_kind p.unitKey_stub,
    slot?_kind h p.device_mem p.device_kind p.unitKey_device,
    slot?_kind h p.markup_mem p.markup_kind p.unitKey_markup,
    unitManifest?_artifacts h, locales_artifacts h, registrationsAmong_artifacts h, hkeys]
  rfl

/-- All artifacts belong to one unit. -/
theorem groupUnits_artifacts : groupUnits artifacts = [p.unit] := by
  unfold groupUnits
  rw [unitKeys_artifacts h, List.mergeSort_singleton, List.map_cons,
    unitOf_artifacts h, List.map_nil]

end Units

end TwinNode.TwinPackage
