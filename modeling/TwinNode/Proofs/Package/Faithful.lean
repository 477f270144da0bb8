import TwinNode.Proofs.Package.Pruning
import TwinNode.Proofs.Validation.Batch
import TwinNode.Proofs.Validation.LeftOut

/-! The path of an artifact is made of the names that lead to a file from the root, with a
slash for each backslash, and the file is then opened under that path. So an artifact is its
own file if the path leads back to the file it was made of, and if no other file has the
same path. Names without backslashes do that; a name with one may lead to nothing, or to
another file. -/

namespace TwinNode

/-- The path of the file that is reached by `names` from the root. -/
def artifactPath (names : List String) : String := Path.normalize (Path.join names)

namespace FileSystem

/-- The rows of names that lead from the root to the files that discovery finds. -/
def found (fs : FileSystem) (exclude : List String) (root : Place) : List (List String) :=
  (fs.filesBelow root).filter (findsFile exclude)

def textAt? (fs : FileSystem) (place : Place) : Option (List Char) :=
  (fs.contents? place).map Text.readText

/-- Discovery takes what is found under a path for an artifact: for the descriptor, or for what the
names around it and the descriptor make of it. -/
def TakesPath (fs : FileSystem) (exclude : List String) (root : Place) (path : String) : Prop :=
  let files := foundFiles fs exclude root
  path = descriptorName ∨ ∃ descriptor, loadDescriptor fs root files = .ok descriptor ∧
    (classify (siblingsAmong files)
      (referencedPaths ((descriptor.map Artifact.registrations).getD [])) path).isSome = true

/-- The path of a found file leads back to it: no other file has that path, what is opened under it
has the text of the file, and the text is not too much to be read. -/
structure ReadsBack (fs : FileSystem) (exclude : List String) (root : Place)
    (names : List String) : Prop where
  alone : ∀ others ∈ fs.found exclude root, artifactPath others = artifactPath names →
    others = names
  text : ∃ bytes, fs.read ((Path.Location.mk .top root).append (artifactPath names)) = .ok bytes ∧
    fs.textAt? (root ++ names) = some (Text.readText bytes)
  readable : ¬fs.HoldsExcess root (artifactPath names)

end FileSystem

/-- The artifacts of a package have different paths, and each has the text of the one found file
that its path was made of. -/
structure Package.Faithful (p : Package) (fs : FileSystem) (exclude : List String)
    (root : Place) : Prop where
  distinct : (p.artifacts.map (·.path)).Nodup
  source : ∀ a ∈ p.artifacts, ∃ names ∈ fs.found exclude root, artifactPath names = a.path ∧
    fs.textAt? (root ++ names) = some a.text ∧ ∀ others ∈ fs.found exclude root,
      artifactPath others = a.path → others = names

theorem mem_foundFiles {fs : FileSystem} {exclude : List String} {root : Place} {path : String} :
    path ∈ foundFiles fs exclude root ↔
      ∃ names ∈ fs.found exclude root, artifactPath names = path := by
  unfold foundFiles
  rw [mem_sortPaths]
  exact List.mem_map

section Discover

variable {fs : FileSystem} {root : Path.Location} {exclude : List String}
  {workers : Int} {place : Place}

/-- Where no two files that are taken have one path, the classified paths are different. -/
theorem classified_nodup (hsound : fs.Sound) {descriptor : Option Artifact}
    (hdescriptor : loadDescriptor fs place (foundFiles fs exclude place) = .ok descriptor)
    (h : ∀ names ∈ fs.found exclude place, fs.TakesPath exclude place (artifactPath names) →
      fs.ReadsBack exclude place names) :
    ((classifyFiles (foundFiles fs exclude place)
      (referencedPaths ((descriptor.map Artifact.registrations).getD []))).map (·.1)).Nodup := by
  rw [map_fst_classifyFiles, foundFiles, filter_sortPaths, sortPaths,
    (List.mergeSort_perm _ _).nodup_iff, List.filter_map]
  refine ((hsound.filesBelow_nodup.filter _).filter _).map_on
    fun names hnames others hothers heq => ?_
  obtain ⟨hnames, -⟩ := List.mem_filter.1 hnames
  obtain ⟨hothers, htaken⟩ := List.mem_filter.1 hothers
  exact (h others hothers (.inr ⟨descriptor, hdescriptor, (Bool.and_eq_true_iff.1 htaken).2⟩)).alone
    names hnames heq

/-- A file whose path leads back to it is an artifact with its text. -/
theorem FileSystem.ReadsBack.load {names : List String} (h : fs.ReadsBack exclude place names)
    {kind : ArtifactKind} (hkind : kindOfPath? (artifactPath names) = some kind) :
    ∃ a, loadArtifact fs place kind (artifactPath names) = .ok a := by
  obtain ⟨bytes, hread, -⟩ := h.text
  refine (loadArtifact_of_read hread).resolve_right fun ⟨_, hfault⟩ => ?_
  obtain ⟨hjson, hsuffix, bytes, hread, e, -, hexcess⟩ := loadArtifact_eq_fault_iff.1 hfault
  exact h.readable ⟨⟨⟨kind, hkind, hjson⟩, hsuffix⟩, bytes, hread, e, hexcess⟩

theorem exists_package (hroot : checkRoot fs root = .ok place) (hworkers : 1 ≤ workers)
    (h : ∀ names ∈ fs.found exclude place, fs.TakesPath exclude place (artifactPath names) →
      fs.ReadsBack exclude place names) :
    ∃ p, discover fs root exclude workers = .ok p := by
  obtain ⟨descriptor, hdescriptor⟩ :
      ∃ d, loadDescriptor fs place (foundFiles fs exclude place) = .ok d := by
    unfold loadDescriptor
    split
    · next hin =>
      obtain ⟨names, hnames, hpath⟩ := mem_foundFiles.1 (List.contains_iff_mem.1 hin)
      obtain ⟨a, ha⟩ := (h names hnames (.inl hpath)).load (kindOfPath?_descriptor.2 hpath)
      rw [hpath] at ha
      exact ⟨some a, by rw [ha]; rfl⟩
    · exact ⟨none, rfl⟩
  have hload : ∀ entry ∈ classifyFiles (foundFiles fs exclude place)
      (referencedPaths ((descriptor.map Artifact.registrations).getD [])),
      ∃ a, loadArtifact fs place entry.2 entry.1 = .ok a := by
    intro entry hentry
    obtain ⟨hfound, -, hclass⟩ := mem_classifyFiles.1 hentry
    obtain ⟨names, hnames, hpath⟩ := mem_foundFiles.1 hfound
    rw [← hpath] at hclass ⊢
    have htaken : fs.TakesPath exclude place (artifactPath names) :=
      .inr ⟨descriptor, hdescriptor, Option.isSome_iff_exists.2 ⟨entry.2, hclass⟩⟩
    exact (h names hnames htaken).load (classify_eq_some_iff.1 hclass).1
  obtain ⟨others, hothers⟩ := mapM_exists_ok hload
  exact ⟨_, discover_of_parts hroot hworkers rfl hdescriptor hothers rfl⟩

section Discovered

variable {p : Package} (hp : discover fs root exclude workers = .ok p)
  (hroot : checkRoot fs root = .ok place)
include hp hroot

/-- Discovery takes the paths of the artifacts, and no others that are found. -/
theorem takesPath_iff {path : String} (hfound : path ∈ foundFiles fs exclude place) :
    fs.TakesPath exclude place path ↔ ∃ a ∈ p.artifacts, a.path = path := by
  obtain ⟨others, hdescriptor, -, -⟩ := parts_of_discover hp hroot
  have hclassified : fs.TakesPath exclude place path ↔
      (classify (siblingsAmong (foundFiles fs exclude place)) p.referenced path).isSome = true := by
    constructor
    · rintro (rfl | ⟨descriptor, hload, hclass⟩)
      · rw [classify_eq_some_iff.2 ⟨kindOfPath?_descriptor.2 rfl, nofun⟩]
        rfl
      · obtain rfl := Except.ok.inj (hload.symm.trans hdescriptor)
        exact hclass
    · exact fun hclass => .inr ⟨_, hdescriptor, hclass⟩
  rw [hclassified, Option.isSome_iff_exists]
  constructor
  · rintro ⟨kind, hkind⟩
    obtain ⟨a, ha, hpath, -⟩ := exists_artifact hp hroot hfound hkind
    exact ⟨a, ha, hpath⟩
  · rintro ⟨a, ha, rfl⟩
    exact ⟨a.kind, (found_of_mem_artifacts hp hroot ha).2.1⟩

/-- The text of an artifact is what is opened under its path. -/
theorem text_of_artifact {a : Artifact} (ha : a ∈ p.artifacts) {bytes : Bytes}
    (hread : fs.read ((Path.Location.mk .top place).append a.path) = .ok bytes) :
    a.text = Text.readText bytes := by
  obtain ⟨bytes', hread', htext⟩ := read_of_loadArtifact (found_of_mem_artifacts hp hroot ha).2.2
  rw [htext, Except.ok.inj (hread'.symm.trans hread)]

theorem faithful_iff (hsound : fs.Sound) : p.Faithful fs exclude place ↔
    ∀ names ∈ fs.found exclude place, fs.TakesPath exclude place (artifactPath names) →
      fs.ReadsBack exclude place names := by
  constructor
  · intro h names hnames htaken
    have hfound : artifactPath names ∈ foundFiles fs exclude place :=
      mem_foundFiles.2 ⟨names, hnames, rfl⟩
    obtain ⟨a, ha, hpath⟩ := (takesPath_iff hp hroot hfound).1 htaken
    obtain ⟨own, hown, hownPath, htext, halone⟩ := h.source a ha
    obtain rfl : names = own := halone names hnames hpath.symm
    obtain ⟨bytes, hread, hbytes⟩ := read_of_loadArtifact (found_of_mem_artifacts hp hroot ha).2.2
    refine ⟨fun others hothers heq => halone others hothers (heq.trans hpath.symm),
      ⟨bytes, ?_, ?_⟩, fun hexcess => ?_⟩
    · rw [← hpath]
      exact hread
    · rw [htext, hbytes]
    · exact discover_ne_ok hroot hfound hexcess p hp
  · intro h
    obtain ⟨others, hdescriptor, -, -⟩ := parts_of_discover hp hroot
    refine ⟨(paths_nodup_iff hp hroot).2 (classified_nodup hsound hdescriptor h), fun a ha => ?_⟩
    have hfound := (found_of_mem_artifacts hp hroot ha).1
    obtain ⟨names, hnames, hpath⟩ := mem_foundFiles.1 hfound
    have htaken := (takesPath_iff hp hroot hfound).2 ⟨a, ha, rfl⟩
    rw [← hpath] at htaken
    obtain ⟨halone, ⟨bytes, hread, htext⟩, -⟩ := h names hnames htaken
    rw [hpath] at hread halone
    exact ⟨names, hnames, hpath, by rw [htext, text_of_artifact hp hroot ha hread], halone⟩

end Discovered

/-- The path of a file without backslashes in its names leads back to it, if no file around it has
one. -/
theorem readsBack_of_slashes (hnamed : fs.Named) {names : List String}
    (hnames : names ∈ fs.found exclude place)
    (hback : ∀ others ∈ fs.found exclude place, ∀ n ∈ others, '\\' ∉ n.toList)
    (hread : ∃ bytes, fs.read ⟨.top, place ++ names⟩ = .ok bytes)
    (hreadable : ¬fs.HoldsExcess place (artifactPath names)) :
    fs.ReadsBack exclude place names := by
  have hentries : ∀ others ∈ fs.found exclude place, others ≠ [] ∧
    fs.isFile (place ++ others) = true ∧
      ∀ n ∈ place ++ others, EntryName n := fun others hothers =>
    have hfile := FileSystem.isFile_of_mem_filesBelow (List.mem_of_mem_filter hothers)
    ⟨hfile.1, hfile.2, hnamed.entryName_of_isFile hfile.2⟩
  have hsegments : ∀ others ∈ fs.found exclude place,
      Path.segments (artifactPath others) = others := by
    intro others hothers
    obtain ⟨hne, -, hothersNames⟩ := hentries others hothers
    rw [artifactPath, Path.normalize_join (hback others hothers)]
    exact Path.segments_join hne fun n hn =>
      (hothersNames n (List.mem_append_right place hn)).slashless
  refine ⟨fun others hothers heq => ?_, ?_, hreadable⟩
  · rw [← hsegments others hothers, heq, hsegments names hnames]
  · obtain ⟨hne, hfile, hown⟩ := hentries names hnames
    obtain ⟨bytes, hbytes⟩ := hread
    refine ⟨bytes, ?_, ?_⟩
    · rwa [artifactPath, Path.normalize_join (hback names hnames),
        Path.append_join hne fun n hn => hown n (List.mem_append_right place hn)]
    · unfold FileSystem.read at hbytes
      split at hbytes
      · cases hbytes
      · next p hfind =>
        rw [FileSystem.eq_of_find (fun hin => (hown _ hin).not_dots rfl) hfile hfind] at hbytes
        unfold FileSystem.textAt?
        split at hbytes
        · next hcontents =>
          rw [hcontents, ← Except.ok.inj hbytes]
          rfl
        · cases hbytes

/-- A package whose artifacts are their files is found if and only if the paths of the files that
are taken for artifacts lead back to them. They do if no name has a backslash, all files can be
opened, and no JSON file is too much to be read, by an integer with too many digits or by more
brackets than there is room for. -/
theorem discover_faithful_iff (hsound : fs.Sound) (hroot : checkRoot fs root = .ok place)
    (hworkers : 1 ≤ workers) :
    ((∃ p, discover fs root exclude workers = .ok p ∧ p.Faithful fs exclude place) ↔
      ∀ names ∈ fs.found exclude place, fs.TakesPath exclude place (artifactPath names) →
        fs.ReadsBack exclude place names) ∧
      (fs.Named → (∀ names ∈ fs.found exclude place, (∀ n ∈ names, '\\' ∉ n.toList) ∧
          (∃ bytes, fs.read ⟨.top, place ++ names⟩ = .ok bytes) ∧
            ¬fs.HoldsExcess place (artifactPath names)) →
        ∃ p, discover fs root exclude workers = .ok p ∧ p.Faithful fs exclude place) := by
  have hiff : (∃ p, discover fs root exclude workers = .ok p ∧ p.Faithful fs exclude place) ↔
      ∀ names ∈ fs.found exclude place, fs.TakesPath exclude place (artifactPath names) →
        fs.ReadsBack exclude place names := by
    constructor
    · rintro ⟨p, hp, hfaithful⟩
      exact (faithful_iff hp hroot hsound).1 hfaithful
    · intro h
      obtain ⟨p, hp⟩ := exists_package hroot hworkers h
      exact ⟨p, hp, (faithful_iff hp hroot hsound).2 h⟩
  refine ⟨hiff, fun hnamed h => hiff.2 fun names hnames _ => ?_⟩
  obtain ⟨-, hread, hreadable⟩ := h names hnames
  exact readsBack_of_slashes hnamed hnames (fun others hothers => (h others hothers).1)
    hread hreadable

end Discover

theorem found_scriptInDirectory : scriptInDirectory.found [] [] = [["a", "b.mcu.js"]] := by rfl

theorem not_holdsExcess {path : String} (h : Path.hasSuffix Path.jsonSuffix path = false)
    (fs : FileSystem) (root : Place) : ¬fs.HoldsExcess root path := by
  rintro ⟨⟨-, hjson⟩, -⟩
  rw [h] at hjson
  cases hjson

theorem faithful_scriptInDirectory : scriptInDirectory.Sound ∧
    checkRoot scriptInDirectory (Path.Location.ofString "/") = .ok [] ∧
    ∃ p, discover scriptInDirectory (Path.Location.ofString "/") [] 1 = .ok p ∧
      p.Faithful scriptInDirectory [] [] := by
  have hnamed : scriptInDirectory.Named := by
    simp only [FileSystem.Named, scriptInDirectory, List.forall_mem_cons]
    exact ⟨⟨⟨by decide, by decide, by decide, by decide⟩,
      ⟨by decide, by decide, by decide, by decide⟩, List.forall_mem_nil _⟩, List.forall_mem_nil _⟩
  have hroot : checkRoot scriptInDirectory (Path.Location.ofString "/") = .ok [] := by rfl
  refine ⟨sound_scriptInDirectory, hroot,
    (discover_faithful_iff sound_scriptInDirectory hroot (by decide)).2 hnamed ?_⟩
  rw [found_scriptInDirectory]
  simp only [List.forall_mem_singleton]
  exact ⟨by decide, ⟨[], by rfl⟩, not_holdsExcess (by decide) _ _⟩

/-- Two device scripts whose paths are one: the first has a backslash where the second has a
directory. -/
def doubledScript : FileSystem :=
  ⟨[(["a\\b.mcu.js"], [120]), (["a", "b.mcu.js"], [])], [], [], usualRoom⟩

/-- The device script with a backslash in its name can be opened and yet keeps the package from
being found. Next to the file that its path names it is found, but both artifacts then have one path
and the text of that other file. -/
theorem unfaithful_backslash : backslashedScript.Named ∧ backslashedScript.read
    ⟨.top, ["a\\b.mcu.js"]⟩ = .ok [] ∧
    (∀ p, discover backslashedScript (Path.Location.ofString "/") [] 1 ≠ .ok p) ∧
    doubledScript.read ⟨.top, ["a\\b.mcu.js"]⟩ = .ok [120] ∧
    ∃ p, discover doubledScript (Path.Location.ofString "/") [] 1 = .ok p ∧
      p.artifacts.map (·.path) = ["a/b.mcu.js", "a/b.mcu.js"] ∧
        p.artifacts.map (·.text) = [[], []] := by
  refine ⟨named_backslashedScript, by rfl, fun p hp => ?_, by rfl, ?_⟩
  · have hroot : checkRoot backslashedScript (Path.Location.ofString "/") = .ok [] := by rfl
    have hfound : foundFiles backslashedScript [] [] = ["a/b.mcu.js"] :=
      sortPaths_eq (.refl ["a/b.mcu.js"]) (by decide)
    have hin : "a/b.mcu.js" ∈ foundFiles backslashedScript [] [] := by
      rw [hfound]
      decide
    have hclass : classify (siblingsAmong (foundFiles backslashedScript [] []))
      p.referenced "a/b.mcu.js" =
        some .deviceScript := by
      rw [hfound]
      rfl
    obtain ⟨a, ha, hpath, hkind⟩ := exists_artifact hp hroot hin hclass
    have hload := (found_of_mem_artifacts hp hroot ha).2.2
    rw [hpath, hkind] at hload
    cases hload
  · have hfound : foundFiles doubledScript [] [] = ["a/b.mcu.js", "a/b.mcu.js"] :=
      sortPaths_eq (.refl ["a/b.mcu.js", "a/b.mcu.js"]) (by decide)
    refine ⟨_, discover_of_artifacts none [emptyDevice "a/b.mcu.js", emptyDevice "a/b.mcu.js"]
      (by rfl) (by decide) hfound rfl (by rfl) ?_ (by decide), rfl, rfl⟩
    simp only [List.forall_mem_cons]
    exact ⟨by rfl, by rfl, List.forall_mem_nil _⟩

end TwinNode
