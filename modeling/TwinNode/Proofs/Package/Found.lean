import Mathlib.Data.List.Nodup
import TwinNode.Proofs.Diagnostic.StableSort
import TwinNode.Proofs.Package.Loading
import TwinNode.Proofs.Path.Join
import TwinNode.Proofs.Path.Name

namespace TwinNode

theorem mem_sortPaths {paths : List String} {path : String} : path ∈ sortPaths paths ↔
    path ∈ paths := List.mem_mergeSort

theorem pathLE_trans (a b c : String) (hab : decide (a ≤ b) = true) (hbc : decide (b ≤ c) = true) :
    decide (a ≤ c) = true :=
  decide_eq_true (String.le_trans (of_decide_eq_true hab) (of_decide_eq_true hbc))

theorem pathLE_total (a b : String) : (decide (a ≤ b) || decide (b ≤ a)) = true := by
  simpa using String.le_total a b

theorem filter_sortPaths (keep : String → Bool) (paths : List String) :
    (sortPaths paths).filter keep = sortPaths (paths.filter keep) :=
      filter_mergeSort pathLE_trans pathLE_total keep paths

theorem sortPaths_eq {paths sorted : List String} (hperm : paths.Perm sorted)
    (h : sorted.Pairwise fun a b => decide (a ≤ b) = true) : sortPaths paths = sorted :=
  ((List.mergeSort_perm _ _).trans hperm).eq_of_pairwise
    (fun _ _ _ _ hab hba => String.le_antisymm (of_decide_eq_true hab) (of_decide_eq_true hba))
    (List.pairwise_mergeSort pathLE_trans pathLE_total paths) h

theorem mem_siblingsAmong {files : List String} {directory lowered : String} :
    lowered ∈ siblingsAmong files directory ↔
      ∃ path ∈ files, Path.directory path = directory ∧
        Path.lowerName (Path.name path) = lowered := by
  unfold siblingsAmong
  simp only [List.mem_map, List.mem_filter, beq_iff_eq, and_assoc]

/-- What holds of the files of every file system. -/
structure FileSystem.Sound (fs : FileSystem) : Prop where
  distinct : (fs.files.map (·.1)).Nodup
  slashless : ∀ file ∈ fs.files, ∀ n ∈ file.1, '/' ∉ n.toList

section Found

variable {fs : FileSystem} {root : Place}

/-- The names from a directory down to a place below it. -/
def namesBelow? (root place : Place) : Option (List String) :=
  if root.isPrefixOf place && root.length < place.length then some (place.drop root.length)
  else none

theorem namesBelow?_eq_some {place : Place} {names : List String}
    (h : namesBelow? root place = some names) :
    root ++ names = place ∧ names ≠ [] := by
  unfold namesBelow? at h
  split at h
  · next hbelow =>
    obtain rfl := Option.some.inj h
    simp only [Bool.and_eq_true, List.isPrefixOf_iff_prefix, decide_eq_true_eq] at hbelow
    obtain ⟨⟨rest, rfl⟩, hlength⟩ := hbelow
    rw [List.drop_left]
    rw [List.length_append] at hlength
    exact ⟨rfl, List.ne_nil_of_length_pos (by omega)⟩
  · cases h

theorem filesBelow_eq : fs.filesBelow root = (fs.files.map (·.1)).filterMap (namesBelow? root) := by
  rw [List.filterMap_map]
  rfl

theorem FileSystem.Sound.filesBelow_nodup (h : fs.Sound) : (fs.filesBelow root).Nodup := by
  rw [filesBelow_eq]
  refine h.distinct.filterMap fun place other names hplace hother => ?_
  rw [← (namesBelow?_eq_some hplace).1, ← (namesBelow?_eq_some hother).1]

theorem FileSystem.Sound.slashless_below (h : fs.Sound) {names : List String}
    (hn : names ∈ fs.filesBelow root) :
    names ≠ [] ∧ ∀ n ∈ names, '/' ∉ n.toList := by
  rw [filesBelow_eq] at hn
  obtain ⟨place, hplace, hnames⟩ := List.mem_filterMap.1 hn
  obtain ⟨file, hfile, rfl⟩ := List.mem_map.1 hplace
  obtain ⟨hsplit, hne⟩ := namesBelow?_eq_some hnames
  refine ⟨hne, fun n hn => h.slashless file hfile n ?_⟩
  rw [← hsplit]
  exact List.mem_append_right root hn

variable (hback : ∀ names ∈ fs.filesBelow root, ∀ n ∈ names, '\\' ∉ n.toList)
include hback

theorem normalize_below {names : List String} (hn : names ∈ fs.filesBelow root) :
    Path.normalize (Path.join names) = Path.join names := Path.normalize_join (hback names hn)

theorem foundFiles_nodup (h : fs.Sound) (exclude : List String) :
    (foundFiles fs exclude root).Nodup := by
  unfold foundFiles sortPaths
  rw [(List.mergeSort_perm _ _).nodup_iff]
  refine (h.filesBelow_nodup.filter _).map_on fun names hn others ho heq => ?_
  have hnames := List.mem_of_mem_filter hn
  have hothers := List.mem_of_mem_filter ho
  obtain ⟨hne, hslash⟩ := h.slashless_below hnames
  obtain ⟨hne', hslash'⟩ := h.slashless_below hothers
  rw [normalize_below hback hnames, normalize_below hback hothers] at heq
  rw [← Path.segments_join hne hslash, heq, Path.segments_join hne' hslash']

end Found

theorem mem_classifyFiles {files referenced : List String} {path : String} {kind : ArtifactKind} :
    (path, kind) ∈ classifyFiles files referenced ↔
      path ∈ files ∧ path ≠ descriptorName ∧ classify (siblingsAmong files) referenced path =
        some kind := by
  unfold classifyFiles
  simp only [List.mem_filterMap, List.mem_filter, decide_eq_true_eq,
    Option.map_eq_some_iff, Prod.mk.injEq]
  constructor
  · rintro ⟨_, ⟨hin, hne⟩, _, hkind, rfl, rfl⟩
    exact ⟨hin, hne, hkind⟩
  · rintro ⟨hin, hne, hkind⟩
    exact ⟨path, ⟨hin, hne⟩, kind, hkind, rfl, rfl⟩

/-- The paths that are classified, in the order of the files. -/
theorem map_fst_classifyFiles (files referenced : List String) :
    (classifyFiles files referenced).map (·.1) = files.filter fun path =>
      path ≠ descriptorName && (classify (siblingsAmong files) referenced path).isSome := by
  unfold classifyFiles
  rw [List.map_filterMap, List.filterMap_filter, ← List.filterMap_eq_filter]
  refine List.filterMap_congr fun path _ => ?_
  by_cases hname : path = descriptorName
  · simp [Option.guard, hname]
  · cases hclass : classify (siblingsAmong files) referenced path
      <;> simp [Option.guard, hname, hclass]

end TwinNode
