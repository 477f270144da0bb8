import TwinNode.Proofs.Package.Pruning
import TwinNode.Proofs.Path.Segments
import TwinNode.Proofs.Validation.Batch
import TwinNode.Proofs.Validation.LeftOut

/-! Discovery finds a new file next to files that it finds already, unless a pattern
excludes it. The new file takes no artifact away, and makes no artifact of another file
whose kind needs no node. It is an artifact itself if its kind needs no node, or if it pairs
with a file next to it. -/

namespace TwinNode

open TwinNode.Path (suffix?)

/-- The host stub of a device script is its stem with another suffix. -/
theorem stubPath_eq_child {path : String} (hnames : "" ∉ Path.segments path)
    (hdevice : Path.hasSuffix Path.deviceScriptSuffix (Path.name path) = true) :
    Path.stubPath path =
      Path.child (Path.directory path) (Path.stem (Path.name path) ++ Path.scriptSuffix) := by
  have hsuffix := Path.suffix?_device hdevice
  have hlength : (Path.ending (Path.name path)).length = Path.deviceScriptSuffix.length := by
    rw [← String.length_toList, ← String.length_toList, ← (Path.toLower_ending hsuffix).2,
      List.length_map]
  have hpath : path = Path.child (Path.directory path) (Path.stem (Path.name path)) ++
      Path.ending (Path.name path) := by
    rw [← Path.child_append, Path.stem_append_ending, Path.child_directory_name hnames]
  have hends : Path.hasSuffix Path.deviceScriptSuffix path = true := by
    rw [← Path.hasSuffix_name (by decide)]
    exact hdevice
  have hdrop : Path.dropEnd Path.deviceScriptSuffix.length path =
      Path.child (Path.directory path) (Path.stem (Path.name path)) := by
    conv_lhs => rw [hpath]
    rw [← hlength, Path.dropEnd_append]
  rw [Path.stubPath, if_pos hends, hdrop, Path.child_append]

theorem EntryName.of_suffix {stem suffix : String} (hstem : '/' ∉ stem.toList)
    (hs : suffix ∈ Path.suffixes) :
    EntryName (stem ++ suffix) := by
  have hsuffixes : ∀ suffix ∈ Path.suffixes, 2 < suffix.toList.length ∧
      '/' ∉ suffix.toList := by decide
  obtain ⟨hlength, hslash⟩ := hsuffixes suffix hs
  have hlong : ∀ other : String, other.toList.length ≤ 2 → stem ++ suffix ≠ other := by
    rintro other hother rfl
    rw [String.toList_append, List.length_append] at hother
    omega
  refine ⟨hlong "" (by decide), hlong "." (by decide), hlong ".." (by decide), ?_⟩
  rw [String.toList_append, List.mem_append]
  exact not_or.2 ⟨hstem, hslash⟩

/-- Discovery finds a file that is put below the root under this path. -/
structure Findable (exclude : List String) (path : String) : Prop where
  backslashless : '\\' ∉ path.toList
  finds : findsFile exclude (Path.segments path) = true

theorem findable_descriptor {exclude : List String}
    (h : Glob.excludesFile exclude descriptorName = false) :
    Findable exclude descriptorName := by
  have hsegments : Path.segments descriptorName = [descriptorName] := rfl
  have hnormal : Path.normalize (Path.join [descriptorName]) = descriptorName := rfl
  refine ⟨by decide, ?_⟩
  rw [hsegments, findsFile_iff_enters, hnormal]
  refine ⟨fun directory rest hnames hrest => ?_, h⟩
  -- Only the root is on the way.
  obtain ⟨rfl, -⟩ | ⟨-, rfl⟩ := List.append_eq_singleton_iff.1 hnames.symm
  · rfl
  · exact absurd rfl hrest

theorem backslashless_of_segments {path : String} (h : ∀ n ∈ Path.segments path, '\\' ∉ n.toList) :
    '\\' ∉ path.toList := by
  rw [← Path.join_segments path]
  intro hin
  rcases Path.mem_join hin with hslash | ⟨n, hn, hc⟩
  · exact absurd hslash (by decide)
  · exact h n hn hc

section Place

variable {fs : FileSystem} (hnamed : fs.Named) {place : Place}
  (hback : ∀ names ∈ fs.filesBelow place, ∀ n ∈ names, '\\' ∉ n.toList) {exclude : List String}
include hnamed hback

theorem names_of_found_path {path : String} (h : path ∈ foundFiles fs exclude place) :
    findsFile exclude (Path.segments path) = true ∧ ∀ n ∈ Path.segments path, EntryName n ∧
      '\\' ∉ n.toList := by
  obtain ⟨names, hin, hfinds, rfl, hsegments, hentry⟩ := hnamed.names_of_found hback h
  rw [hsegments]
  exact ⟨hfinds, fun n hn => ⟨hentry n hn, hback names hin n hn⟩⟩

theorem empty_not_mem_segments {path : String} (h : path ∈ foundFiles fs exclude place) :
    "" ∉ Path.segments path :=
  fun hempty => ((names_of_found_path hnamed hback h).2 "" hempty).1.nonempty rfl

/-- A file next to a found one is found, unless it is excluded. -/
theorem findable_beside {path last : String} (h : path ∈ foundFiles fs exclude place)
    (hentry : EntryName last) (hlast : '\\' ∉ last.toList)
    (hexclude : Glob.excludesFile exclude (Path.child (Path.directory path) last) = false) :
    Findable exclude (Path.child (Path.directory path) last) := by
  obtain ⟨hfinds, hnames⟩ := names_of_found_path hnamed hback h
  have hempty := empty_not_mem_segments hnamed hback h
  obtain ⟨above, hsegments, hbeside⟩ := Path.segments_child_directory hempty hentry.slashless
  have hplain : '\\' ∉ (Path.child (Path.directory path) last).toList := by
    refine backslashless_of_segments fun n hn => ?_
    rw [hbeside] at hn
    rcases List.mem_append.1 hn with hn | hn
    · exact (hnames n (hsegments ▸ List.mem_append_left _ hn)).2
    · rwa [List.mem_singleton.1 hn]
  refine ⟨hplain, ?_⟩
  rw [findsFile_iff_enters, hsegments] at hfinds
  rw [findsFile_iff_enters, Path.join_segments, Path.normalize_eq_self hplain, hbeside]
  refine ⟨fun directory rest hsplit hrest => ?_, hexclude⟩
  -- What is on the way to the one is on the way to the other.
  obtain ⟨between, hbetween⟩ : directory <+: above := by
    rcases List.prefix_concat_iff.1 ⟨rest, hsplit.symm⟩ with heq | hprefix
    · rw [heq] at hsplit
      exact absurd (List.self_eq_append_right.1 hsplit) hrest
    · exact hprefix
  refine hfinds.1 directory (between ++ [Path.name path]) ?_ (by simp)
  rw [← List.append_assoc, hbetween]

end Place

section Added

variable {fs : FileSystem} {place : Place} {exclude : List String} {path : String}
  (hnew : fs.isFile (place ++ Path.segments path) = false) (hfindable : Findable exclude path)
  (bytes : Bytes)
include hnew hfindable

theorem mem_foundFiles_added {other : String} :
    other ∈ foundFiles (fs.write (place ++ Path.segments path) bytes) exclude place ↔
      other ∈ foundFiles fs exclude place ∨ other = path := by
  obtain ⟨last, hsegments⟩ := Path.segments_eq_append_name path
  have hbelow : namesBelow? place (place ++ Path.segments path) = some (Path.segments path) := by
    have hprefix : place.isPrefixOf (place ++ Path.segments path) = true :=
      List.isPrefixOf_iff_prefix.2 (List.prefix_append _ _)
    have hlength : place.length < (place ++ Path.segments path).length := by
      rw [hsegments]
      simp
    rw [namesBelow?, hprefix, decide_eq_true hlength, List.drop_left]
    rfl
  rw [foundFiles_write hnew bytes exclude place, hbelow, Option.filter_some,
    if_pos hfindable.finds, Option.toList_some, List.map_singleton, Path.join_segments,
      Path.normalize_eq_self hfindable.backslashless, mem_sortPaths, List.mem_append,
    List.mem_singleton, foundFiles, mem_sortPaths]

variable (hnamed : fs.Named) (hback : ∀ names ∈ fs.filesBelow place, ∀ n ∈ names, '\\' ∉ n.toList)
  {root : Path.Location} (hroot : checkRoot fs root = .ok place) {workers : Int} {p : Package}
  (h : discover fs root exclude workers = .ok p)
include hnamed hback hroot h

/-- With a file that can be read and holds no long integer, a package is found, if all that is found
can be read. -/
theorem discover_added
    (hreadable : ∀ other ∈ foundFiles (fs.write (place ++ Path.segments path) bytes) exclude place,
      ∃ content, (fs.write (place ++ Path.segments path) bytes).read
        ((Path.Location.mk .top place).append other) = .ok content)
    (hshort : ¬(fs.write (place ++ Path.segments path) bytes).HoldsExcess place path) :
    ∃ p', discover (fs.write (place ++ Path.segments path) bytes) root exclude workers =
      .ok p' := by
  have hroot' := FileSystem.checkRoot_write hnew bytes hroot
  have hworkers : 1 ≤ workers := by
    obtain ⟨_, _, hload, _⟩ := discover_eq_ok h
    by_contra hless
    exact loadArtifacts_noWorker (by omega) hload
  cases hdiscover : discover (fs.write (place ++ Path.segments path) bytes)
    root exclude workers with
  | ok p' => exact ⟨p', rfl⟩
  | error e =>
    exfalso
    cases e with
    | fault f =>
      rcases discover_eq_fault hworkers hdiscover
        with hname | ⟨place', hplace, other, hother, hlong⟩
      · rw [checkRoot, hname] at hroot'
        cases hroot'
      · obtain rfl := Except.ok.inj (hroot'.symm.trans hplace)
        rcases (mem_foundFiles_added hnew hfindable bytes).1 hother with hold | rfl
        · -- Another file held the long integer before.
          obtain ⟨hjson, content, hread, hlong⟩ := hlong
          rw [read_found_write hnamed hback hnew bytes hold] at hread
          exact discover_ne_ok hroot hold ⟨hjson, content, hread, hlong⟩ p h
        · exact hshort hlong
    | invocation name problem =>
      unfold discover at hdiscover
      simp only [hroot', bind, Except.bind] at hdiscover
      cases hload : loadArtifacts (fs.write (place ++ Path.segments path) bytes) place workers
          (foundFiles (fs.write (place ++ Path.segments path) bytes) exclude place) with
      | ok artifacts =>
        rw [hload] at hdiscover
        cases hdiscover
      | error e =>
        rw [hload] at hdiscover
        obtain rfl := Except.error.inj hdiscover
        exact loadArtifacts_ne_invocation hreadable hload

variable {p' : Package}
  (h' : discover (fs.write (place ++ Path.segments path) bytes) root exclude workers = .ok p')
include h'

theorem descriptor?_added {d : Artifact} (hd : p.descriptor? = some d) :
    p'.descriptor? = some d := by
  obtain ⟨_, hdescriptor, _⟩ := parts_of_discover h' (FileSystem.checkRoot_write hnew bytes hroot)
  have hin := List.mem_of_find?_eq_some hd
  have hkind : d.kind = .descriptor := by simpa using List.find?_some hd
  obtain ⟨hfound, _, hload⟩ := found_of_mem_artifacts h hroot hin
  rw [hkind, (loaded_of_discover h hin).2 hkind] at hload
  rw [(loaded_of_discover h hin).2 hkind] at hfound
  have hfound' := (mem_foundFiles_added hnew hfindable bytes).2 (.inl hfound)
  rw [loadDescriptor, if_pos (List.contains_iff_mem.2 hfound'),
    loadArtifact_write hnamed hback hnew bytes hfound, hload]
    at hdescriptor
  exact (Except.ok.inj hdescriptor).symm

theorem artifacts_subset_added : p.artifacts ⊆ p'.artifacts := by
  intro a ha
  have hroot' := FileSystem.checkRoot_write hnew bytes hroot
  obtain ⟨hfound, hclass, hload⟩ := found_of_mem_artifacts h hroot ha
  have hfound' := (mem_foundFiles_added hnew hfindable bytes).2 (.inl hfound)
  refine (mem_artifacts_iff h' hroot').2 ⟨hfound', classify_mono ?_ ?_ hclass, ?_⟩
  · intro lowered hlowered
    obtain ⟨other, hother, hdirectory, hname⟩ := mem_siblingsAmong.1 hlowered
    exact mem_siblingsAmong.2 ⟨other, (mem_foundFiles_added hnew hfindable bytes).2 (.inl hother),
      hdirectory, hname⟩
  · cases hd : p.descriptor? with
    | none =>
      have hnone : p.referenced = [] := by rw [Package.referenced, hd]; rfl
      rw [hnone]
      exact List.nil_subset _
    | some d =>
      have hd' := descriptor?_added hnew hfindable bytes hnamed hback hroot h h' hd
      rw [Package.referenced_eq hd, Package.referenced_eq hd']
      exact List.Subset.refl _
  · rwa [loadArtifact_write hnamed hback hnew bytes hfound]

/-- Of the kinds that need no node, the new file is the only new artifact. -/
theorem mem_or_added {a : Artifact} (ha : a ∈ p'.artifacts) (hneedless : a.kind.needsNode = false) :
    a ∈ p.artifacts ∨ a.path = path := by
  obtain ⟨hfound, hclass, hload⟩ :=
    found_of_mem_artifacts h' (FileSystem.checkRoot_write hnew bytes hroot) ha
  refine ((mem_foundFiles_added hnew hfindable bytes).1 hfound).imp_left fun hold => ?_
  rw [loadArtifact_write hnamed hback hnew bytes hold] at hload
  refine (mem_artifacts_iff h hroot).2
    ⟨hold, classify_eq_some_iff.2 ⟨(classify_eq_some_iff.1 hclass).1, ?_⟩, hload⟩
  intro hneeds
  rw [hneedless] at hneeds
  cases hneeds

omit hnamed hback h in
/-- The new file is an artifact if its kind needs no node, or if it pairs with an artifact. -/
theorem exists_added {kind : ArtifactKind} (hkind : kindOfPath? path = some kind)
    (hnode : kind.needsNode = true → ∃ a ∈ p'.artifacts, Path.directory path = a.directory ∧
      PairsWith (Path.name path) (Path.lowerName (Path.name a.path))) :
    ∃ a ∈ p'.artifacts, a.path = path ∧ a.kind = kind := by
  have hroot' := FileSystem.checkRoot_write hnew bytes hroot
  refine exists_artifact h' hroot' ((mem_foundFiles_added hnew hfindable bytes).2 (.inr rfl)) ?_
  refine classify_eq_some_iff.2 ⟨hkind, fun hneeds => .inl ?_⟩
  obtain ⟨a, ha, hdirectory, hpairs⟩ := hnode hneeds
  exact ⟨_, mem_siblingsAmong.2 ⟨a.path, (found_of_mem_artifacts h' hroot' ha).1,
    hdirectory.symm, rfl⟩, hpairs⟩

end Added

end TwinNode
