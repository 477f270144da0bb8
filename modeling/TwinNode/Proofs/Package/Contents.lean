import TwinNode.Proofs.Package.Found
import TwinNode.Proofs.Package.Kind

/-! The artifacts of a discovered package are the found files that are of a kind, the
descriptor included, in the order of their paths. An artifact is what is read at its path,
so that artifacts with one path are the same. -/

namespace TwinNode

/-- The paths that the descriptor of a package names. -/
def Package.referenced (p : Package) : List String :=
  referencedPaths ((p.descriptor?.map Artifact.registrations).getD [])

theorem Package.referenced_eq {p : Package} {d : Artifact} (hd : p.descriptor? = some d) :
    p.referenced = referencedPaths d.registrations := by
  rw [referenced, hd]
  rfl

theorem entries_of_mapM {fs : FileSystem} {root : Place} {entries : List (String × ArtifactKind)}
    {artifacts : List Artifact}
    (h : entries.mapM (fun entry => loadArtifact fs root entry.2 entry.1) = .ok artifacts) :
    artifacts.map (fun a => (a.path, a.kind)) = entries := by
  have hloads := mapM_eq_ok_iff.1 h
  clear h
  induction hloads with
  | nil => rfl
  | @cons entry a entries artifacts hload _ ih =>
    obtain ⟨hkind, hpath, _⟩ := loadArtifact_eq_ok hload
    rw [List.map_cons, ih, hkind, hpath]

theorem byPath_trans (a b c : Artifact) (hab : decide (a.path ≤ b.path) = true)
    (hbc : decide (b.path ≤ c.path) = true) :
    decide (a.path ≤ c.path) = true := pathLE_trans _ _ _ hab hbc

theorem byPath_total (a b : Artifact) :
    (decide (a.path ≤ b.path) || decide (b.path ≤ a.path)) = true := pathLE_total _ _

/-- A package is found if its descriptor and the other files that have a kind can be read. -/
theorem discover_of_parts {fs : FileSystem} {root : Path.Location} {exclude : List String}
    {workers : Int} {place : Place} {files : List String} {descriptor : Option Artifact}
    {others artifacts : List Artifact} (hroot : checkRoot fs root = .ok place)
    (hworkers : 1 ≤ workers) (hfound : foundFiles fs exclude place = files)
    (hdescriptor : loadDescriptor fs place files = .ok descriptor)
    (hothers : (classifyFiles files
      (referencedPaths ((descriptor.map Artifact.registrations).getD []))).mapM
      (fun entry => loadArtifact fs place entry.2 entry.1) = .ok others)
    (hsorted : ((others ++ descriptor.toList).mergeSort fun a b => a.path ≤ b.path) = artifacts) :
    discover fs root exclude workers = .ok ⟨Place.text place, artifacts, groupUnits artifacts⟩ := by
  have hbeside : loadBeside fs place files descriptor = .ok artifacts := by
    unfold loadBeside
    rw [hothers]
    exact congrArg Except.ok hsorted
  have hload : loadArtifacts fs place workers files = .ok artifacts := by
    rw [loadArtifacts_eq hworkers, hdescriptor]
    exact hbeside
  unfold discover
  simp only [hroot, hfound, hload, bind, Except.bind]

section Discovered

variable {fs : FileSystem} {root : Path.Location} {exclude : List String} {workers : Int}
  {p : Package} {place : Place} (h : discover fs root exclude workers = .ok p)
  (hroot : checkRoot fs root = .ok place)
include h hroot

/-- The artifacts of a package are its descriptor and what is read at the other found files that
have a kind. -/
theorem parts_of_discover : ∃ others,
    loadDescriptor fs place (foundFiles fs exclude place) = .ok p.descriptor? ∧
      (classifyFiles (foundFiles fs exclude place) p.referenced).mapM
        (fun entry => loadArtifact fs place entry.2 entry.1) = .ok others ∧
      p.artifacts = (others ++ p.descriptor?.toList).mergeSort fun a b => a.path ≤ b.path := by
  obtain ⟨place', hplace, hload, _⟩ := discover_eq_ok h
  obtain rfl := Except.ok.inj (hroot.symm.trans hplace)
  obtain ⟨descriptor, hdescriptor, hbeside⟩ := loadArtifacts_eq_ok hload
  obtain ⟨others, hothers, hsorted⟩ := loadBeside_eq_ok hbeside
  have hplain : ∀ a ∈ others, a.kind ≠ .descriptor := by
    intro a ha
    have hentry : (a.path, a.kind) ∈ others.map fun a => (a.path, a.kind) := List.mem_map_of_mem ha
    rw [entries_of_mapM hothers] at hentry
    exact classifyFiles_ne_descriptor hentry
  have hd : p.descriptor? = descriptor := by
    unfold Package.descriptor?
    rw [hsorted]
    cases hfind : List.find? (·.kind = .descriptor)
      ((others ++ descriptor.toList).mergeSort fun a b => a.path ≤ b.path) with
    | none =>
      cases descriptor with
      | none => rfl
      | some d =>
        have hkind := (loadArtifact_eq_ok (loadDescriptor_eq_some hdescriptor)).1
        have hin : d ∈ (others ++ (some d).toList).mergeSort fun a b => a.path ≤ b.path := by simp
        exact absurd (decide_eq_true hkind) (List.find?_eq_none.1 hfind d hin)
    | some a =>
      have hkind : a.kind = .descriptor := by simpa using List.find?_some hfind
      rcases List.mem_append.1 (List.mem_mergeSort.1 (List.mem_of_find?_eq_some hfind)) with ha | ha
      · exact absurd hkind (hplain a ha)
      · exact (Option.mem_toList.1 ha).symm
  subst hd
  exact ⟨others, hdescriptor, hothers, hsorted⟩

theorem artifacts_sorted : p.artifacts.Pairwise fun a b => a.path ≤ b.path := by
  obtain ⟨others, _, _, hsorted⟩ := parts_of_discover h hroot
  rw [hsorted]
  exact (List.pairwise_mergeSort byPath_trans byPath_total _).imp of_decide_eq_true

theorem exists_artifact {path : String} {kind : ArtifactKind}
    (hpath : path ∈ foundFiles fs exclude place)
    (hkind : classify (siblingsAmong (foundFiles fs exclude place)) p.referenced path = some kind) :
    ∃ a ∈ p.artifacts, a.path = path ∧ a.kind = kind := by
  obtain ⟨others, hdescriptor, hothers, hsorted⟩ := parts_of_discover h hroot
  by_cases hname : path = descriptorName
  · subst hname
    obtain rfl : .descriptor = kind := by
      have heq := (classify_eq_some_iff.1 hkind).1
      rw [kindOfPath?_descriptor.2 rfl] at heq
      exact Option.some.inj heq
    cases hd : p.descriptor? with
    | none =>
      rw [hd, loadDescriptor, if_pos (List.contains_iff_mem.2 hpath)] at hdescriptor
      cases hload : loadArtifact fs place .descriptor descriptorName
        <;> rw [hload] at hdescriptor <;> cases hdescriptor
    | some d =>
      obtain ⟨hkind, hpath, _⟩ := loadArtifact_eq_ok (loadDescriptor_eq_some (hd ▸ hdescriptor))
      exact ⟨d, List.mem_of_find?_eq_some hd, hpath, hkind⟩
  · obtain ⟨a, ha, hload⟩ := mem_of_mapM hothers (mem_classifyFiles.2 ⟨hpath, hname, hkind⟩)
    obtain ⟨hkind, hpath, _⟩ := loadArtifact_eq_ok hload
    refine ⟨a, ?_, hpath, hkind⟩
    rw [hsorted, List.mem_mergeSort]
    exact List.mem_append_left _ ha

theorem found_of_mem_artifacts {a : Artifact} (ha : a ∈ p.artifacts) :
    a.path ∈ foundFiles fs exclude place ∧
    classify (siblingsAmong (foundFiles fs exclude place)) p.referenced a.path = some a.kind ∧
      loadArtifact fs place a.kind a.path = .ok a := by
  obtain ⟨others, hdescriptor, hothers, hsorted⟩ := parts_of_discover h hroot
  rw [hsorted, List.mem_mergeSort] at ha
  rcases List.mem_append.1 ha with ha | ha
  · obtain ⟨entry, hentry, hload⟩ := exists_of_mapM hothers ha
    obtain ⟨hkind, hpath, _⟩ := loadArtifact_eq_ok hload
    obtain ⟨hfound, _, hclass⟩ := mem_classifyFiles.1 hentry
    rw [hkind, hpath]
    exact ⟨hfound, hclass, hload⟩
  · obtain hd := Option.mem_toList.1 ha
    rw [hd] at hdescriptor
    have hload := loadDescriptor_eq_some hdescriptor
    obtain ⟨hkind, hpath, _⟩ := loadArtifact_eq_ok hload
    have hfound : descriptorName ∈ foundFiles fs exclude place := by
      unfold loadDescriptor at hdescriptor
      split at hdescriptor
      · next hin => exact List.contains_iff_mem.1 hin
      · cases hdescriptor
    rw [hkind, hpath]
    exact ⟨hfound, classify_eq_some_iff.2 ⟨kindOfPath?_descriptor.2 rfl, nofun⟩, hload⟩

theorem kindOfPath?_of_mem {a : Artifact} (ha : a ∈ p.artifacts) :
    kindOfPath? a.path = some a.kind :=
  (classify_eq_some_iff.1 (found_of_mem_artifacts h hroot ha).2.1).1

theorem mem_artifacts_iff {a : Artifact} : a ∈ p.artifacts ↔ a.path ∈ foundFiles fs exclude place ∧
    classify (siblingsAmong (foundFiles fs exclude place)) p.referenced a.path = some a.kind ∧
      loadArtifact fs place a.kind a.path = .ok a := by
  refine ⟨found_of_mem_artifacts h hroot, fun ⟨hfound, hclass, hload⟩ => ?_⟩
  obtain ⟨b, hb, hpath, hkind⟩ := exists_artifact h hroot hfound hclass
  have hread := (found_of_mem_artifacts h hroot hb).2.2
  rw [hpath, hkind, hload] at hread
  rwa [Except.ok.inj hread]

theorem artifact_eq_of_path {a b : Artifact} (ha : a ∈ p.artifacts) (hb : b ∈ p.artifacts)
    (heq : a.path = b.path) :
    a = b := by
  obtain ⟨_, hclass, hload⟩ := found_of_mem_artifacts h hroot ha
  obtain ⟨_, hclass', hload'⟩ := found_of_mem_artifacts h hroot hb
  rw [heq] at hclass hload
  rw [hclass] at hclass'
  rw [Option.some.inj hclass', hload'] at hload
  exact (Except.ok.inj hload).symm

/-- The paths of the artifacts are the classified paths and that of the descriptor, which is loaded
on its own. -/
theorem paths_nodup_iff : (p.artifacts.map (·.path)).Nodup ↔
    ((classifyFiles (foundFiles fs exclude place) p.referenced).map (·.1)).Nodup := by
  obtain ⟨others, hdescriptor, hothers, hsorted⟩ := parts_of_discover h hroot
  have hpaths : others.map (·.path) =
      (classifyFiles (foundFiles fs exclude place) p.referenced).map (·.1) := by
    rw [← entries_of_mapM hothers, List.map_map]
    rfl
  rw [hsorted, ((List.mergeSort_perm _ _).map _).nodup_iff, List.map_append, hpaths]
  refine ⟨fun hnodup => (List.nodup_append.1 hnodup).1,
    fun hnodup => List.nodup_append.2 ⟨hnodup, ?_, ?_⟩⟩
  · cases p.descriptor? with
    | none => exact List.nodup_nil
    | some d => exact List.nodup_singleton _
  · rintro path hin other hother rfl
    obtain ⟨entry, hentry, rfl⟩ := List.mem_map.1 hin
    obtain ⟨d, hd, hpath⟩ := List.mem_map.1 hother
    rw [Option.mem_toList.1 hd] at hdescriptor
    obtain ⟨_, hname, _⟩ := loadArtifact_eq_ok (loadDescriptor_eq_some hdescriptor)
    exact (mem_classifyFiles.1 hentry).2.1 (hpath.symm.trans hname)

theorem paths_nodup_of_discover (hsound : fs.Sound)
    (hback : ∀ names ∈ fs.filesBelow place, ∀ n ∈ names, '\\' ∉ n.toList) :
    (p.artifacts.map (·.path)).Nodup := by
  rw [paths_nodup_iff h hroot, map_fst_classifyFiles]
  exact (foundFiles_nodup hback hsound exclude).filter _

end Discovered

/-- What is discovered where the artifacts are known: the descriptor, if there is one, and the
others, in order. -/
theorem discover_of_artifacts {fs : FileSystem} {root : Path.Location} {exclude : List String}
    {workers : Int} {place : Place} {files : List String} (descriptor : Option Artifact)
    (others : List Artifact) (hroot : checkRoot fs root = .ok place) (hworkers : 1 ≤ workers)
    (hfound : foundFiles fs exclude place = files)
    (hdescriptor : loadDescriptor fs place files = .ok descriptor)
    (hclassified : classifyFiles files
      (referencedPaths ((descriptor.map Artifact.registrations).getD [])) =
      others.map fun a => (a.path, a.kind))
    (hothers : ∀ a ∈ others, loadArtifact fs place a.kind a.path = .ok a)
    (hsorted : (others ++ descriptor.toList).Pairwise fun a b => a.path ≤ b.path) :
    discover fs root exclude workers =
      .ok ⟨Place.text place, others ++ descriptor.toList,
        groupUnits (others ++ descriptor.toList)⟩ := by
  have hread :
    (classifyFiles files (referencedPaths ((descriptor.map Artifact.registrations).getD []))).mapM
      (fun entry => loadArtifact fs place entry.2 entry.1) = .ok others := by
    rw [hclassified]
    exact mapM_map_eq_ok (g := fun a : Artifact => (a.path, a.kind)) hothers
  exact discover_of_parts hroot hworkers hfound hdescriptor hread
    (List.mergeSort_of_pairwise (hsorted.imp decide_eq_true))

def emptyPage (path : String) : Artifact := ⟨.editorMarkup, path, [], .scanned (Markup.views [])⟩

def emptyStub (path : String) : Artifact := ⟨.hostStub, path, [], .scanned (Script.views [])⟩

def emptyDevice (path : String) : Artifact := ⟨.deviceScript, path, [], .scanned (Script.views [])⟩

/-- A script and two markup files with its stem. -/
def twoPages : FileSystem :=
  ⟨[(["a.html"], []), (["a.js"], []), (["a.htm"], [])], [], [], usualRoom⟩

def twoPagesPackage : Package :=
  ⟨"/", [emptyPage "a.htm", emptyPage "a.html", emptyStub "a.js"],
    groupUnits [emptyPage "a.htm", emptyPage "a.html", emptyStub "a.js"]⟩

theorem discover_twoPages : discover twoPages (Path.Location.ofString "/")
    [] 1 = .ok twoPagesPackage := by
  have hroot : checkRoot twoPages (Path.Location.ofString "/") = .ok [] := by rfl
  have hfound : foundFiles twoPages [] [] = ["a.htm", "a.html", "a.js"] := by
    refine sortPaths_eq ?_ (by decide)
    show ["a.html", "a.js", "a.htm"].Perm ["a.htm", "a.html", "a.js"]
    decide
  refine discover_of_artifacts none [emptyPage "a.htm", emptyPage "a.html", emptyStub "a.js"]
    hroot (by decide) hfound rfl (by rfl) ?_ (by decide)
  simp only [List.forall_mem_cons]
  exact ⟨by rfl, by rfl, by rfl, List.forall_mem_nil _⟩

end TwinNode
