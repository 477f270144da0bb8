import TwinNode.Proofs.FileSystem.Addition
import TwinNode.Proofs.Package.Kind
import TwinNode.Validation

/-! A file that discovery takes for no artifact has no effect: with or without it, the same
artifacts are found and read, and so the same is reported. Only a backslash in the name of
another file can change that, because the path of such a file is written with a slash
instead, and then names a file in a directory that may not be there. -/

namespace TwinNode

/-- Discovery takes a file below a root for no artifact: it does not find the file, or finds no kind
for it. -/
def LeftOut (fs : FileSystem) (exclude : List String) (root file : Place) : Prop :=
  ∀ names ∈ namesBelow? root file, findsFile exclude names = true →
    let files := foundFiles fs exclude root
    let path := Path.normalize (Path.join names)
    path ≠ descriptorName ∧ ∀ descriptor, loadDescriptor fs root files = .ok descriptor →
      classify (siblingsAmong files)
        (referencedPaths ((descriptor.map Artifact.registrations).getD [])) path = none

section Classified

variable {paths referenced : List String} {path : String}

/-- A file that is left out does not change what the others are. -/
theorem classify_left_out
    (hleft : classify (siblingsAmong (sortPaths (paths ++ [path]))) referenced path = none)
    {other : String} (hother : other ∈ sortPaths (paths ++ [path])) :
    classify (siblingsAmong (sortPaths (paths ++ [path]))) referenced other =
      classify (siblingsAmong (sortPaths paths)) referenced other := by
  refine classify_eq_of_left_out hleft (mem_siblingsAmong.2 ⟨other, hother, rfl, rfl⟩)
    fun directory lowered => ?_
  simp only [mem_siblingsAmong, mem_sortPaths, List.mem_append, List.mem_singleton]
  constructor
  · rintro ⟨q, hq | rfl, hdirectory, hlowered⟩
    · exact .inl ⟨q, hq, hdirectory, hlowered⟩
    · exact .inr ⟨hdirectory.symm, hlowered.symm⟩
  · rintro (⟨q, hq, hdirectory, hlowered⟩ | ⟨rfl, rfl⟩)
    · exact ⟨q, .inl hq, hdirectory, hlowered⟩
    · exact ⟨path, .inr rfl, rfl, rfl⟩

/-- What is left out can be taken away before the files are classified. -/
theorem classifyFiles_left_out
    (hleft : classify (siblingsAmong (sortPaths (paths ++ [path]))) referenced path = none) :
    classifyFiles (sortPaths (paths ++ [path])) referenced =
      classifyFiles (sortPaths paths) referenced := by
  let kindOf (p : String) := (classify (siblingsAmong (sortPaths paths)) referenced p).map (p, ·)
  let keep (p : String) : Bool := decide (p ≠ descriptorName) && (kindOf p).isSome
  have hkeep : ∀ files : List String, (files.filter (· ≠ descriptorName)).filterMap kindOf =
      (files.filter keep).filterMap kindOf := fun files => by
    rw [List.filterMap_filter, List.filterMap_filter]
    refine List.filterMap_congr fun p _ => ?_
    cases hkind : kindOf p <;> simp [keep, hkind]
  have hdropped : keep path = false := by
    have hnone :=
      classify_left_out hleft (mem_sortPaths.2 (List.mem_append_right paths List.mem_cons_self))
    rw [hleft] at hnone
    simp [keep, kindOf, ← hnone]
  have hkinds : classifyFiles (sortPaths (paths ++ [path])) referenced =
      ((sortPaths (paths ++ [path])).filter (· ≠ descriptorName)).filterMap kindOf :=
    List.filterMap_congr fun p hp => by rw [classify_left_out hleft (List.mem_filter.1 hp).1]
  calc classifyFiles (sortPaths (paths ++ [path])) referenced
      = ((sortPaths (paths ++ [path])).filter keep).filterMap kindOf := hkinds.trans (hkeep _)
    _ = (sortPaths (paths.filter keep)).filterMap kindOf := by
        rw [filter_sortPaths, List.filter_append, List.filter_cons_of_neg (by simp [hdropped]),
          List.filter_nil, List.append_nil]
    _ = ((sortPaths paths).filter (· ≠ descriptorName)).filterMap kindOf := by
      rw [← filter_sortPaths, hkeep]
    _ = classifyFiles (sortPaths paths) referenced := rfl

end Classified

section Discover

variable {fs : FileSystem} (hnamed : fs.Named) {root : Place}
  (hback : ∀ names ∈ fs.filesBelow root, ∀ n ∈ names, '\\' ∉ n.toList) {exclude : List String}

variable {file : Place} (hnew : fs.isFile file = false) (bytes : Bytes)
include hnamed hback hnew

omit hnamed hback in
theorem foundFiles_write (exclude : List String) (root : Place) :
    foundFiles (fs.write file bytes) exclude root =
      sortPaths (((fs.filesBelow root).filter (findsFile exclude)).map
        (fun names => Path.normalize (Path.join names)) ++
        ((namesBelow? root file).filter (findsFile exclude)).toList.map fun names =>
          Path.normalize (Path.join names)) := by
  unfold foundFiles
  rw [FileSystem.filesBelow_write hnew, List.filter_append, List.map_append]
  cases namesBelow? root file with
  | none => rfl
  | some names => by_cases hfinds : findsFile exclude names = true <;> simp [hfinds, Option.filter]

/-- What is opened under the path of a found file is the same as before. -/
theorem read_found_write {path : String} (h : path ∈ foundFiles fs exclude root) :
    (fs.write file bytes).read ((Path.Location.mk .top root).append path) =
      fs.read ((Path.Location.mk .top root).append path) := by
  obtain ⟨names, hin, _, rfl, _, hentry⟩ := hnamed.names_of_found hback h
  obtain ⟨hne, hfile⟩ := FileSystem.isFile_of_mem_filesBelow hin
  have hroot : ".." ∉ root := fun hdots =>
    (hnamed.entryName_of_isFile hfile _ (List.mem_append_left names hdots)).not_dots rfl
  exact FileSystem.read_write hnew bytes hentry hroot hne hfile

theorem loadArtifact_write {path : String} (h : path ∈ foundFiles fs exclude root)
    (kind : ArtifactKind) :
    loadArtifact (fs.write file bytes) root kind path = loadArtifact fs root kind path := by
  unfold loadArtifact
  dsimp only
  rw [read_found_write hnamed hback hnew bytes h, FileSystem.room_write]

/-- Where the descriptor and the classified files are the same, the same artifacts are loaded. -/
theorem loadArtifacts_write {files : List String} (workers : Int)
    (hdescriptor : files.contains descriptorName =
      (foundFiles fs exclude root).contains descriptorName)
    (hclassified : ∀ descriptor, loadDescriptor (fs.write file bytes) root files = .ok descriptor →
      let referenced := referencedPaths ((descriptor.map Artifact.registrations).getD [])
      classifyFiles files referenced = classifyFiles (foundFiles fs exclude root) referenced) :
    loadArtifacts (fs.write file bytes) root workers files =
      loadArtifacts fs root workers (foundFiles fs exclude root) := by
  have hload : loadDescriptor (fs.write file bytes) root files =
      loadDescriptor fs root (foundFiles fs exclude root) := by
    unfold loadDescriptor
    rw [hdescriptor]
    split
    · next hfound =>
      rw [loadArtifact_write hnamed hback hnew bytes (List.contains_iff_mem.1 hfound)]
    · rfl
  rw [loadArtifacts_bind, loadArtifacts_bind, hload]
  rw [hload] at hclassified
  cases hd : loadDescriptor fs root (foundFiles fs exclude root) with
  | error e =>
    -- What follows the descriptor is not looked at.
    show Except.error e = Except.error e
    rfl
  | ok descriptor =>
    have hbeside : loadBeside (fs.write file bytes) root files descriptor =
        loadBeside fs root (foundFiles fs exclude root) descriptor := by
      unfold loadBeside
      rw [hclassified descriptor hd, mapM_congr_of_mem fun entry hentry =>
        loadArtifact_write hnamed hback hnew bytes (mem_classifyFiles.1 hentry).1 entry.2]
    show (if workers < 1 then _ else loadBeside (fs.write file bytes) root files descriptor) =
      if workers < 1 then _ else loadBeside fs root (foundFiles fs exclude root) descriptor
    rw [hbeside]

/-- A file that is left out has no effect on what is loaded. -/
theorem loadArtifacts_left_out (workers : Int)
    (hleft : LeftOut (fs.write file bytes) exclude root file) :
    loadArtifacts (fs.write file bytes) root workers
      (foundFiles (fs.write file bytes) exclude root) =
        loadArtifacts fs root workers (foundFiles fs exclude root) := by
  have hfound := foundFiles_write hnew bytes exclude root
  cases hbelow : (namesBelow? root file).filter (findsFile exclude) with
  | none =>
    -- The file is not below the root or not found, and the files found are the same.
    rw [hbelow, Option.toList_none, List.map_nil, List.append_nil] at hfound
    have hsame : foundFiles (fs.write file bytes) exclude root = foundFiles fs exclude root :=
      hfound
    rw [hsame]
    exact loadArtifacts_write hnamed hback hnew bytes workers rfl fun _ _ => rfl
  | some names =>
    -- The file is found and has no kind. It is not the descriptor, so the same paths are
    -- registered.
    rw [hbelow, Option.toList_some, List.map_singleton] at hfound
    obtain ⟨hnames, hfinds⟩ := Option.mem_filter_iff.1 (Option.mem_def.2 hbelow)
    obtain ⟨hne, hkind⟩ := hleft names hnames hfinds
    refine loadArtifacts_write hnamed hback hnew bytes workers ?_ fun descriptor hd => ?_
    · rw [hfound, Bool.eq_iff_iff, List.contains_iff_mem, List.contains_iff_mem, foundFiles,
        mem_sortPaths, mem_sortPaths, List.mem_append, List.mem_singleton]
      exact or_iff_left hne.symm
    · have hnone := hkind descriptor hd
      rw [hfound] at hnone ⊢
      exact classifyFiles_left_out hnone

theorem discover_left_out {location : Path.Location} (hroot : checkRoot fs location = .ok root)
    (workers : Int) (hleft : LeftOut (fs.write file bytes) exclude root file) :
    discover (fs.write file bytes) location exclude workers =
      discover fs location exclude workers := by
  unfold discover
  rw [FileSystem.checkRoot_write hnew bytes hroot, hroot]
  simp only [bind, Except.bind]
  rw [loadArtifacts_left_out hnamed hback hnew bytes workers hleft]

end Discover

/-- A file that discovery leaves out has no effect: the same is reported with it and without it, if
no other file below the root has a backslash in its path. -/
theorem validateRoot_write {fs : FileSystem} (hnamed : fs.Named) {root : String} {place : Place}
    (hroot : checkRoot fs (Path.Location.ofString root) = .ok place)
    (hback : ∀ names ∈ fs.filesBelow place, ∀ n ∈ names, '\\' ∉ n.toList) (settings : Settings)
    {file : Place} (hnew : fs.isFile file = false) (bytes : Bytes)
    (hleft : LeftOut (fs.write file bytes) settings.exclude place file) :
    validateRoot (fs.write file bytes) settings root = validateRoot fs settings root := by
  unfold validateRoot
  rw [discover_left_out hnamed hback hnew bytes hroot settings.maxWorkers hleft]

def loneScript : FileSystem := ⟨[(["a.mcu.js"], [])], [], [], usualRoom⟩

theorem named_loneScript : loneScript.Named := by decide

theorem checkRoot_loneScript : checkRoot loneScript (Path.Location.ofString "/") = .ok [] := by rfl

theorem backslashless_loneScript :
    ∀ names ∈ loneScript.filesBelow [], ∀ n ∈ names, '\\' ∉ n.toList := by
  have hbelow : loneScript.filesBelow [] = [["a.mcu.js"]] := by rfl
  rw [hbelow]
  decide

/-- A page that no script goes with has no effect. -/
theorem validateRoot_write_page : LeftOut (loneScript.write ["b.html"] [])
    ({} : Settings).exclude [] ["b.html"] ∧
    validateRoot (loneScript.write ["b.html"] []) {} "/" = validateRoot loneScript {} "/" := by
  have hfound : foundFiles (loneScript.write ["b.html"] []) ({} : Settings).exclude [] =
      ["a.mcu.js", "b.html"] :=
    sortPaths_eq (.refl ["a.mcu.js", "b.html"]) (by decide)
  have hleft : LeftOut (loneScript.write ["b.html"] []) ({} : Settings).exclude [] ["b.html"] := by
    intro names hnames _
    obtain rfl := Option.some.inj hnames
    dsimp only
    rw [hfound]
    refine ⟨by decide, fun descriptor hd => ?_⟩
    obtain rfl := Except.ok.inj hd
    rfl
  exact ⟨hleft, validateRoot_write named_loneScript checkRoot_loneScript
    backslashless_loneScript {} rfl [] hleft⟩

theorem validateRoot_of_unreadable {fs : FileSystem} {settings : Settings}
    {root : String} {place : Place} {problem : RootProblem}
    (hroot : checkRoot fs (Path.Location.ofString root) = .ok place)
    (hload : loadArtifacts fs place settings.maxWorkers (foundFiles fs settings.exclude place) =
      .error (.invocation (Place.text place) problem)) :
    validateRoot fs settings root = .ok (invocationReport root problem.message) := by
  have hdiscover : discover fs (Path.Location.ofString root) settings.exclude settings.maxWorkers =
      .error (.invocation (Place.text place) problem) := by
    unfold discover
    rw [hroot]
    simp only [bind, Except.bind]
    rw [hload]
  unfold validateRoot
  rw [hdiscover]

def backslashedScript : FileSystem := ⟨[(["a\\b.mcu.js"], [])], [], [], usualRoom⟩

theorem named_backslashedScript : backslashedScript.Named := by decide

/-- The path of the script leads into a directory that is not there, and with a file called `a` into
a file: that file is left out, and the report is another one. -/
theorem report_changed_beside_backslash :
    backslashedScript.Named ∧ backslashedScript.isFile ["a"] = false ∧
    LeftOut (backslashedScript.write ["a"] []) ({} : Settings).exclude [] ["a"] ∧
    validateRoot (backslashedScript.write ["a"] []) {} "/" ≠
      validateRoot backslashedScript {} "/" := by
  have hroot : checkRoot backslashedScript (Path.Location.ofString "/") = .ok [] := by rfl
  have hroot' : checkRoot (backslashedScript.write ["a"] []) (Path.Location.ofString "/") =
      .ok [] := by rfl
  have hfound : foundFiles backslashedScript ({} : Settings).exclude [] = ["a/b.mcu.js"] :=
    sortPaths_eq (.refl ["a/b.mcu.js"]) (by decide)
  have hfound' : foundFiles (backslashedScript.write ["a"] []) ({} : Settings).exclude [] =
      ["a", "a/b.mcu.js"] :=
    sortPaths_eq (.swap "a" "a/b.mcu.js" []) (by decide)
  refine ⟨named_backslashedScript, by rfl, fun names hnames _ => ?_, ?_⟩
  · obtain rfl := Option.some.inj hnames
    dsimp only
    rw [hfound']
    refine ⟨by decide, fun descriptor hd => ?_⟩
    obtain rfl := Except.ok.inj hd
    rfl
  · have hreport : validateRoot backslashedScript {} "/" =
        .ok (invocationReport "/" (RootProblem.unreadable "a/b.mcu.js"
          "/a/b.mcu.js" .missing).message) :=
      validateRoot_of_unreadable hroot (by rw [hfound]; rfl)
    have hreport' : validateRoot (backslashedScript.write ["a"] []) {} "/" =
        .ok (invocationReport "/" (RootProblem.unreadable "a/b.mcu.js" "/a/b.mcu.js"
          .notDirectory).message) :=
      validateRoot_of_unreadable hroot' (by rw [hfound']; rfl)
    rw [hreport, hreport']
    intro heq
    have hmessage := Option.some.inj (congrArg Report.invocationError (Except.ok.inj heq))
    exact absurd hmessage (by decide)

end TwinNode
