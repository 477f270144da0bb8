import TwinNode.Proofs.Package.Contents
import TwinNode.Proofs.Package.Pruning

/-! With more patterns, fewer files are found. The others are next to fewer files and named
by fewer references, since the descriptor may be among the files that are not found. But
what a file is next to and what names it only decide whether it is part of a package, not of
which kind it is. So nothing becomes an artifact that was none before. -/

namespace TwinNode

theorem filterMap_sublist_of_imp {f g : α → Option β} {xs : List α}
    (h : ∀ x ∈ xs, ∀ y, f x = some y → g x = some y) :
    (xs.filterMap f).Sublist (xs.filterMap g) := by
  induction xs with
  | nil => exact List.Sublist.refl _
  | cons x xs ih =>
    obtain ⟨hx, hxs⟩ := List.forall_mem_cons.1 h
    cases hf : f x with
    | none =>
      rw [List.filterMap_cons_none hf]
      refine (ih hxs).trans ?_
      cases hg : g x with
      | none => rw [List.filterMap_cons_none hg]
      | some y =>
        rw [List.filterMap_cons_some hg]
        exact List.sublist_cons_self _ _
    | some y =>
      rw [List.filterMap_cons_some hf, List.filterMap_cons_some (hx y hf)]
      exact (ih hxs).cons_cons y

/-- What a traversal of a list gives, one of a part of it gives in part. -/
theorem mapM_sublist {f : α → Except ε β} {xs ys : List α} {zs : List β} (h : xs.Sublist ys)
    (hy : ys.mapM f = .ok zs) :
    ∃ zs', xs.mapM f = .ok zs' ∧ zs'.Sublist zs := by
  rw [mapM_eq_ok_iff] at hy
  induction h generalizing zs with
  | slnil => exact ⟨[], rfl, List.nil_sublist _⟩
  | cons y _ ih =>
    cases hy with
    | cons _ hrest =>
      obtain ⟨zs', hf, hsub⟩ := ih hrest
      exact ⟨zs', hf, hsub.cons _⟩
  | cons_cons x _ ih =>
    cases hy with
    | @cons _ z _ zs hx hrest =>
      obtain ⟨zs', hf, hsub⟩ := ih hrest
      exact ⟨z :: zs', mapM_eq_ok_iff.2 (.cons hx (mapM_eq_ok_iff.1 hf)), hsub.cons_cons z⟩

section Exclude

variable {exclude more : List String} (hmore : exclude ⊆ more)
include hmore

theorem excludesFile_mono {path : String} (h : Glob.excludesFile more path = false) :
    Glob.excludesFile exclude path = false := by
  unfold Glob.excludesFile at h ⊢
  rw [List.any_eq_false] at h ⊢
  exact fun pattern hin => h pattern (hmore hin)

theorem entersDirectory_mono {names : List String} (h : entersDirectory more names = true) :
    entersDirectory exclude names = true := by
  unfold entersDirectory at h ⊢
  split at h
  · rfl
  · simp only [Bool.and_eq_true, Bool.not_eq_true'] at h ⊢
    exact ⟨h.1, excludesFile_mono hmore h.2⟩

theorem findsFile_mono {names : List String} (h : findsFile more names = true) :
    findsFile exclude names = true := by
  rw [findsFile_iff_enters] at h ⊢
  exact ⟨fun directory rest hnames hrest => entersDirectory_mono hmore
    (h.1 directory rest hnames hrest), excludesFile_mono hmore h.2⟩

/-- With more patterns, some of the files are found, in the same order. -/
theorem foundFiles_sublist (fs : FileSystem) (root : Place) :
    (foundFiles fs more root).Sublist (foundFiles fs exclude root) := by
  have hnames : ((fs.filesBelow root).filter (findsFile more)).Sublist
      ((fs.filesBelow root).filter (findsFile exclude)) :=
    List.monotone_filter_right _ fun _ => findsFile_mono hmore
  exact mergeSort_sublist pathLE_trans pathLE_total (hnames.map _)

end Exclude

section Classify

variable {files found referenced named : List String} (hfiles : files.Sublist found)
include hfiles

theorem siblingsAmong_subset (directory : String) :
    siblingsAmong files directory ⊆ siblingsAmong found directory :=
  ((hfiles.filter _).map _).subset

/-- Of some of the files, with some of the references, no other ones are of a kind, and none is of
another kind. -/
theorem classifyFiles_sublist (hnamed : named ⊆ referenced) :
    (classifyFiles files named).Sublist (classifyFiles found referenced) := by
  refine (filterMap_sublist_of_imp fun path _ entry hentry => ?_).trans
    ((hfiles.filter _).filterMap _)
  obtain ⟨kind, hkind, rfl⟩ := Option.map_eq_some_iff.1 hentry
  rw [classify_mono (siblingsAmong_subset hfiles _) hnamed hkind]
  rfl

end Classify

section Discover

variable {fs : FileSystem} {root : Path.Location} {exclude more : List String}
  {workers workers' : Int} {p p' : Package} (hmore : exclude ⊆ more)
  (h : discover fs root exclude workers = .ok p)
include hmore h

/-- Where discovery succeeds, it succeeds with more patterns, and finds some of the artifacts. -/
theorem discover_narrowed (hworkers : 1 ≤ workers') :
    ∃ p', discover fs root more workers' = .ok p' ∧ p'.artifacts.Sublist p.artifacts := by
  obtain ⟨place, hroot, _⟩ := discover_eq_ok h
  obtain ⟨others, hdescriptor, hothers, hsorted⟩ := parts_of_discover h hroot
  have hfiles := foundFiles_sublist hmore fs place
  -- The descriptor is the same, if it is still found.
  obtain ⟨descriptor, hdescriptor', hless⟩ :
    ∃ descriptor, loadDescriptor fs place (foundFiles fs more place) = .ok descriptor ∧
      ∀ d ∈ descriptor, d ∈ p.descriptor? := by
    by_cases hin : (foundFiles fs more place).contains descriptorName = true
    · refine ⟨p.descriptor?, ?_, fun _ hd => hd⟩
      have hin' : (foundFiles fs exclude place).contains descriptorName = true :=
        List.contains_iff_mem.2 (hfiles.subset (List.contains_iff_mem.1 hin))
      rw [← hdescriptor, loadDescriptor, loadDescriptor, if_pos hin, if_pos hin']
    · refine ⟨none, ?_, fun d hd => absurd hd (Option.not_mem_none d)⟩
      rw [loadDescriptor, if_neg hin]
  have hnamed : referencedPaths ((descriptor.map Artifact.registrations).getD []) ⊆
      p.referenced := by
    cases descriptor with
    | none => exact List.nil_subset _
    | some d =>
      rw [Package.referenced_eq (hless d rfl)]
      exact List.Subset.refl _
  obtain ⟨others', hothers', hsub⟩ := mapM_sublist (classifyFiles_sublist hfiles hnamed) hothers
  refine ⟨_, discover_of_parts hroot hworkers rfl hdescriptor' hothers' rfl, ?_⟩
  have hparts : (others' ++ descriptor.toList).Sublist (others ++ p.descriptor?.toList) := by
    refine hsub.append ?_
    cases descriptor with
    | none => exact List.nil_sublist _
    | some d => rw [hless d rfl]
  rw [hsorted]
  exact mergeSort_sublist byPath_trans byPath_total hparts

/-- Excluding more takes artifacts away and changes none: what is discovered with more patterns is
discovered with fewer as well, with the same path, kind, text and content, and in the same order. -/
theorem narrowing_invents_nothing (h' : discover fs root more workers' = .ok p') :
    p'.artifacts.Sublist p.artifacts := by
  have hworkers : 1 ≤ workers' := by
    obtain ⟨_, _, hload, _⟩ := discover_eq_ok h'
    by_contra hless
    exact loadArtifacts_noWorker (by omega) hload
  obtain ⟨narrowed, hnarrowed, hsub⟩ := discover_narrowed hmore h hworkers
  obtain rfl := Except.ok.inj (hnarrowed.symm.trans h')
  exact hsub

end Discover

theorem discover_onePage : discover twoPages (Path.Location.ofString "/") ["a.htm"] 1 =
    .ok ⟨"/", [emptyPage "a.html", emptyStub "a.js"],
      groupUnits [emptyPage "a.html", emptyStub "a.js"]⟩ := by
  have hroot : checkRoot twoPages (Path.Location.ofString "/") = .ok [] := by rfl
  have hfound : foundFiles twoPages ["a.htm"] [] = ["a.html", "a.js"] := by
    have hnames : (twoPages.filesBelow []).filter (findsFile ["a.htm"]) =
        [["a.html"], ["a.js"]] := by
      show [["a.html"], ["a.js"], ["a.htm"]].filter (findsFile ["a.htm"]) = [["a.html"], ["a.js"]]
      decide
    unfold foundFiles
    rw [hnames]
    exact sortPaths_eq (.refl ["a.html", "a.js"]) (by decide)
  refine discover_of_artifacts none [emptyPage "a.html", emptyStub "a.js"] hroot
    (by decide) hfound rfl (by rfl) ?_ (by decide)
  simp only [List.forall_mem_cons]
  exact ⟨by rfl, by rfl, List.forall_mem_nil _⟩

/-- Without one of its markup files, the script and the other one are as before. -/
theorem narrowing_invents_nothing_onePage : [] ⊆ ["a.htm"] ∧ ∃ p p',
    discover twoPages (Path.Location.ofString "/") [] 1 = .ok p ∧
      discover twoPages (Path.Location.ofString "/") ["a.htm"] 1 = .ok p' ∧
      p'.artifacts = [emptyPage "a.html", emptyStub "a.js"] ∧ p'.artifacts.Sublist p.artifacts :=
  ⟨List.nil_subset _, twoPagesPackage, _, discover_twoPages, discover_onePage, rfl,
    narrowing_invents_nothing (List.nil_subset _) discover_twoPages discover_onePage⟩

end TwinNode
