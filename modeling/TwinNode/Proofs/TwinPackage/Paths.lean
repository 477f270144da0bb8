import Mathlib.Data.List.Basic
import TwinNode.Proofs.Package.Search
import TwinNode.Proofs.Path.Suffix
import TwinNode.Proofs.TwinPackage.Files

namespace TwinNode.TwinPackage

open TwinNode.Path (FileName Dotless nodeSuffixes)
open TwinNode.Text

variable (p : TwinPackage)

theorem fileName_directories : ∀ d ∈ p.directories, FileName d := fun d hd =>
  FileName.of_plain (p.directories_plain d hd).1

theorem join_in_directory {names : List String} (h : names ≠ []) :
    Path.join (p.directories ++ names) = p.directory ++ "/" ++ Path.join names :=
  Path.join_append p.directories_nonempty h

theorem join_file (name : String) :
    Path.join (p.directories ++ [name]) = p.directory ++ "/" ++ name := by
  rw [join_in_directory p (List.cons_ne_nil name []), Path.join_singleton]

theorem fileName_suffix {ext : String} (he : ext ∈ nodeSuffixes) : FileName (p.stem ++ ext) := by
  refine FileName.append p.stem_plain ?_
  revert ext
  decide

theorem slash_not_mem {name : String} (h : FileName name) : '/' ∉ name.toList :=
  h.not_mem (by decide) (by decide)

theorem fileName_manifest : FileName "manifest.json" := by
  refine @FileName.append "manifest" ".json" ⟨by decide, ?_⟩ ?_ <;> decide

theorem dotless_directory : Dotless p.directory := by
  intro c hc
  rcases Path.mem_join hc with rfl | ⟨d, hd, hc⟩
  · decide
  · exact Dotless.of_plain (p.directories_plain d hd).1 c hc

theorem segments_directory : Path.segments p.directory = p.directories :=
  Path.segments_join p.directories_nonempty fun d hd => slash_not_mem (p.fileName_directories d hd)

/-- The names on the way to the files in or below the directory of the node. -/
theorem names_in_directory {file : List String × List Char} (h : file ∈ p.files) :
    file.1 = ["package.json"] ∨ ∃ tail, file.1 = p.directories ++ tail ∧ tail ≠ [] ∧
      ∀ n ∈ tail, FileName n ∧ n ≠ "node_modules" := by
  have hdots : ∀ ext ∈ nodeSuffixes, '.' ∈ ext.toList := by decide
  have hsuffix : ∀ {ext : String}, ext ∈ nodeSuffixes → FileName (p.stem ++ ext) ∧
      p.stem ++ ext ≠ "node_modules" := by
    refine fun he => ⟨p.fileName_suffix he, fun hn => ?_⟩
    have hdot : '.' ∈ "node_modules".toList := by
      rw [← hn, String.toList_append, List.mem_append]
      exact .inr (hdots _ he)
    exact absurd hdot (by decide)
  have hlocales : (FileName "locales" ∧ "locales" ≠ "node_modules") ∧ FileName "en-US" ∧
      "en-US" ≠ "node_modules" := by
    refine ⟨⟨.of_plain ⟨by decide, ?_⟩, by decide⟩, .of_plain ⟨by decide, ?_⟩, by decide⟩ <;> decide
  simp only [files, List.mem_cons, List.not_mem_nil, or_false] at h
  rcases h with rfl | rfl | rfl | rfl | rfl | rfl
  · exact .inr ⟨_, rfl, by simp, by simpa using hsuffix (by decide)⟩
  · exact .inr ⟨_, rfl, by simp, by simpa using hsuffix (by decide)⟩
  · exact .inr ⟨_, rfl, by simp, by simpa using hsuffix (by decide)⟩
  · exact .inr ⟨_, rfl, by simp, by simpa using fileName_manifest⟩
  · refine .inr ⟨_, rfl, by simp, ?_⟩
    simp only [List.forall_mem_cons]
    exact ⟨hlocales.1, hlocales.2, hsuffix (by decide), List.forall_mem_nil _⟩
  · exact .inl rfl

theorem findsFile_files {file : List String × List Char} (h : file ∈ p.files) :
    findsFile ({} : Settings).exclude file.1 = true ∧
      Path.normalize (Path.join file.1) = Path.join file.1 := by
  rcases p.names_in_directory h with hn | ⟨tail, hn, hne, htail⟩
  · rw [hn]
    decide
  · obtain ⟨d, ds, hd⟩ := List.exists_cons_of_ne_nil p.directories_nonempty
    have hnames : ∀ n ∈ d :: (ds ++ tail), FileName n ∧ n ≠ "node_modules" := by
      intro n hm
      rw [← List.cons_append, ← hd, List.mem_append] at hm
      rcases hm with hm | hm
      · refine ⟨p.fileName_directories n hm, fun he => ?_⟩
        exact (p.directories_plain n hm).2 (he ▸ by decide)
      · exact htail n hm
    have hexcluded : d ∉ excludedDirectories := by
      have hreserved : ∀ x ∈ excludedDirectories, x ∈ reservedDirectories := by decide
      exact fun he => (p.directories_plain d (hd ▸ List.mem_cons_self)).2 (hreserved d he)
    rw [hn, hd, List.cons_append]
    exact ⟨findsFile_names hnames hexcluded (by simp [hne]), normalize_join_names hnames⟩

/-- Discovery finds all files of the package and no others. -/
theorem foundFiles_perm {fs : FileSystem} {place : Place} (h : p.StoredIn fs place) :
    (foundFiles fs ({} : Settings).exclude place).Perm
      (p.files.map fun file => Path.join file.1) := by
  have hall : (p.files.map (·.1)).filter (findsFile ({} : Settings).exclude) =
      p.files.map (·.1) := by
    refine List.filter_eq_self.2 fun names hn => ?_
    obtain ⟨file, hf, rfl⟩ := List.mem_map.1 hn
    exact (p.findsFile_files hf).1
  have hfound := (h.below.filter (findsFile ({} : Settings).exclude)).map fun names =>
    Path.normalize (Path.join names)
  rw [hall, List.map_map] at hfound
  have hpaths : p.files.map ((fun names => Path.normalize (Path.join names)) ∘ (·.1)) =
      p.files.map fun file => Path.join file.1 :=
    List.map_congr_left fun file hf => (p.findsFile_files hf).2
  rw [hpaths] at hfound
  exact (List.mergeSort_perm _ _).trans hfound

theorem files_paths : (p.files.map fun file => Path.join file.1) = p.parts.map
    (·.path) ++ [descriptorName] := by
  simp only [files, parts, List.map_cons, List.map_nil, List.cons_append,
    List.nil_append, Path.join_singleton]
  rfl

section Kinds

variable {referenced : List String} {siblings : String → List String}

/-- The names that stand next to the scripts and the markup. -/
structure Siblings (siblings : String → List String) : Prop where
  stub : Path.lowerName p.stem ++ ".js" ∈ siblings p.directory
  markup : Path.lowerName p.stem ++ ".html" ∈ siblings p.directory

theorem path_ne_descriptor (name : String) : p.directory ++ "/" ++ name ≠ descriptorName := by
  intro he
  have hslash : '/' ∈ descriptorName.toList := by
    rw [← he]
    simp
  exact absurd hslash (by decide)

theorem no_locales : p.directories.contains localesDirectory = false := by
  rw [List.contains_eq_any_beq, List.any_eq_false]
  intro d hd he
  exact (p.directories_plain d hd).2 ((beq_iff_eq.1 he) ▸ by decide)

theorem lowerName_ne_manifest {ext : String} (he : ext ∈ nodeSuffixes)
    (hlast : ext.toList.getLast? ≠ some 'n') :
    Path.lowerName (p.stem ++ ext) ≠ manifestName := by
  intro h
  rw [Path.lowerName_append p.stem_plain he] at h
  have hsuffixes : ∀ e ∈ nodeSuffixes, e.toList ≠ [] := by decide
  have hend : (Path.lowerName p.stem ++ ext).toList.getLast? = some 'n' := by
    rw [h]
    decide
  rw [String.toList_append, List.getLast?_append_of_ne_nil _ (hsuffixes ext he)] at hend
  exact hlast hend

theorem stem_lowerName {ext : String} (he : ext ∈ nodeSuffixes) :
    Path.stem (Path.lowerName (p.stem ++ ext)) = Path.lowerName p.stem := by
  rw [Path.lowerName_append p.stem_plain he]
  exact Path.stem_node (.of_plain (Path.plain_lowerName p.stem_plain)) he

theorem hasSuffix_file {ext : String} (he : ext ∈ nodeSuffixes) {suffix : String}
    (hs : suffix ∈ Path.suffixes) :
    Path.hasSuffix suffix (p.stem ++ ext) = suffix.toList.isSuffixOf ext.toList :=
  Path.hasSuffix_node (.of_plain p.stem_plain) he hs

theorem isMarkup_file {ext : String} (he : ext ∈ nodeSuffixes) :
    Path.isMarkup (p.stem ++ ext) = Path.markupSuffixes.any fun s =>
      s.toList.isSuffixOf ext.toList := by
  have hsuffixes : ∀ s ∈ Path.markupSuffixes, s ∈ Path.suffixes := by decide
  unfold Path.isMarkup
  rw [Bool.eq_iff_iff, List.any_eq_true, List.any_eq_true]
  refine exists_congr fun s => and_congr_right fun hs => ?_
  rw [p.hasSuffix_file he (hsuffixes s hs)]

/-- The kind of a file next to the stub, as far as its suffix decides it. -/
theorem classify_file {ext : String} (he : ext ∈ nodeSuffixes) :
    classify siblings referenced (Path.join (p.fileNames ext)) =
      if Path.deviceScriptSuffix.toList.isSuffixOf ext.toList then some .deviceScript
      else if Path.lowerName (p.stem ++ ext) = manifestName then some .manifest
      else if Path.markupSuffixes.any (fun s => s.toList.isSuffixOf ext.toList) then
        if ([Path.scriptSuffix, Path.deviceScriptSuffix].any fun suffix =>
              (siblings p.directory).contains (Path.lowerName p.stem ++ suffix)) ||
            (referenced.map Path.stubPath).contains
              (Path.dropEnd (p.stem ++ ext).length (p.directory ++ "/" ++ (p.stem ++ ext)) ++
                Path.stem (p.stem ++ ext) ++ Path.scriptSuffix) then some .editorMarkup
        else none
      else if Path.scriptSuffix.toList.isSuffixOf ext.toList then
        if ((Path.markupSuffixes ++ [Path.deviceScriptSuffix]).any fun suffix =>
              (siblings p.directory).contains (Path.lowerName p.stem ++ suffix)) ||
            referenced.contains (p.directory ++ "/" ++ (p.stem ++ ext)) then some .hostStub
        else none
      else none := by
  have hname : '/' ∉ (p.stem ++ ext).toList := slash_not_mem (p.fileName_suffix he)
  unfold fileNames
  rw [join_file]
  unfold classify
  dsimp only
  rw [Path.directory_append hname, Path.name_append hname, segments_directory, no_locales,
    if_neg (p.path_ne_descriptor _), Bool.false_and, if_neg Bool.false_ne_true,
    p.hasSuffix_file he (by decide), p.hasSuffix_file he (by decide),
      p.isMarkup_file he, p.stem_lowerName he]

theorem classify_stub (h : p.Siblings siblings) :
    classify siblings referenced p.stubPath = some .hostStub := by
  have hpaired : ((Path.markupSuffixes ++ [Path.deviceScriptSuffix]).any fun suffix =>
      (siblings p.directory).contains (Path.lowerName p.stem ++ suffix)) = true :=
    List.any_eq_true.2 ⟨".html", by decide, List.contains_iff_mem.2 h.markup⟩
  have hmanifest := @lowerName_ne_manifest p ".js" (by decide) (by decide)
  unfold stubPath
  rw [p.classify_file (by decide), if_neg (by decide), if_neg hmanifest, if_neg (by decide),
    if_pos (by decide), hpaired, Bool.true_or, if_pos rfl]

theorem classify_device : classify siblings referenced p.devicePath = some .deviceScript := by
  unfold devicePath
  rw [p.classify_file (by decide), if_pos (by decide)]

theorem classify_markup (h : p.Siblings siblings) :
    classify siblings referenced p.markupPath = some .editorMarkup := by
  have hpaired : ([Path.scriptSuffix, Path.deviceScriptSuffix].any fun suffix =>
      (siblings p.directory).contains (Path.lowerName p.stem ++ suffix)) = true :=
    List.any_eq_true.2 ⟨".js", by decide, List.contains_iff_mem.2 h.stub⟩
  have hmanifest := @lowerName_ne_manifest p ".html" (by decide) (by decide)
  unfold markupPath
  rw [p.classify_file (by decide), if_neg (by decide), if_neg hmanifest, if_pos (by decide),
    hpaired, Bool.true_or, if_pos rfl]

theorem classify_manifest :
    classify siblings referenced (Path.join p.manifestNames) = some .manifest := by
  have hname : '/' ∉ "manifest.json".toList := by decide
  unfold manifestNames
  rw [join_file]
  unfold classify
  dsimp only
  rw [Path.directory_append hname, Path.name_append hname, segments_directory, no_locales,
    if_neg (p.path_ne_descriptor _), Bool.false_and, if_neg Bool.false_ne_true, if_neg (by decide),
    if_pos (by decide)]

def localeDirectory : String := Path.join (p.directories ++ ["locales", "en-US"])

theorem localePath_eq :
    Path.join p.localeNames = p.localeDirectory ++ "/" ++ (p.stem ++ ".json") := by
  have happend : p.localeNames = (p.directories ++ ["locales", "en-US"]) ++
      [p.stem ++ ".json"] := by
    simp [localeNames]
  rw [happend, Path.join_append (by simp) (List.cons_ne_nil _ []),
    Path.join_singleton, localeDirectory]

theorem segments_localeDirectory :
    Path.segments p.localeDirectory = p.directories ++ ["locales", "en-US"] := by
  have hlocales : ∀ n ∈ ["locales", "en-US"], '/' ∉ n.toList := by decide
  refine Path.segments_join (by simp) fun n hn => ?_
  rcases List.mem_append.1 hn with hn | hn
  · exact slash_not_mem (p.fileName_directories n hn)
  · exact hlocales n hn

theorem classify_locale :
    classify siblings referenced (Path.join p.localeNames) = some .localeBundle := by
  have hname : '/' ∉ (p.stem ++ ".json").toList := slash_not_mem (p.fileName_suffix (by decide))
  have hdescriptor : p.localeDirectory ++ "/" ++ (p.stem ++ ".json") ≠ descriptorName := by
    intro he
    have hslash : '/' ∈ descriptorName.toList := by
      rw [← he]
      simp
    exact absurd hslash (by decide)
  have hlocales : (p.directories ++ ["locales", "en-US"]).contains localesDirectory = true :=
    List.contains_iff_mem.2 (List.mem_append_right _ (by decide))
  have hjson : Path.jsonSuffix.toList.isSuffixOf ".json".toList = true := by decide
  rw [localePath_eq]
  unfold classify
  dsimp only
  rw [Path.directory_append hname, Path.name_append hname, if_neg hdescriptor,
    segments_localeDirectory, hlocales, p.hasSuffix_file (by decide) (by decide), hjson,
      Bool.true_or, Bool.and_self, if_pos rfl]

end Kinds

end TwinNode.TwinPackage
