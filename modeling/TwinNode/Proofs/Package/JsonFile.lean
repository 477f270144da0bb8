import TwinNode.FileSystem
import TwinNode.Proofs.Package.Kind
import TwinNode.Proofs.Path.Segments

/-! Two artifacts can be read from one file: `..` and backslashes in names lead to the same
place. But the place ends in the name of the artifact, so that all artifacts of one file
have one name. If that name is a JSON name, then all of them are JSON artifacts. -/

namespace TwinNode

namespace Path

/-- The last segment of a location below another one is the name of the path, unless that means a
directory. -/
theorem segments_append {path : String} (hne : name path ≠ "")
    (hdot : name path ≠ ".") (l : Location) :
    ∃ above, (l.append path).segments = above ++ [name path] := by
  obtain ⟨above, habove⟩ := segments_eq_append_name path
  have hbelow : (Location.ofString path).segments = above.filter (fun s => s ≠ "" ∧ s ≠ ".") ++
      [name path] := by
    simp [Location.ofString, habove, List.filter_append, hne, hdot]
  unfold Location.append
  dsimp only
  split_ifs
  · exact ⟨l.segments ++ above.filter (fun s => s ≠ "" ∧ s ≠ "."), by simp [hbelow]⟩
  · exact ⟨_, hbelow⟩

end Path

namespace FileSystem

variable {fs : FileSystem}

theorem getLast?_of_follow {names : List String} {n : String} (hn : n ≠ "..") {p q : Place}
    (h : fs.follow p (names ++ [n]) = .ok q) : q.getLast? = some n := by
  induction names generalizing p with
  | nil =>
    rw [List.nil_append, follow] at h
    split_ifs at h
    rw [follow] at h
    rw [← Except.ok.inj h, List.getLast?_concat]
  | cons name names ih =>
    rw [List.cons_append, follow] at h
    split_ifs at h
    · exact ih h
    · exact ih h

/-- The place that a location below a directory leads to ends in the name of the path. -/
theorem getLast?_of_find {place file : Place} {path : String} (hne : Path.name path ≠ "")
    (hdot : Path.name path ≠ ".") (hdots : Path.name path ≠ "..")
    (h : fs.find ((Path.Location.mk .top place).append path) = .ok file) :
    file.getLast? = some (Path.name path) := by
  obtain ⟨above, hsegments⟩ := Path.segments_append hne hdot (Path.Location.mk .top place)
  unfold find at h
  split_ifs at h
  rw [hsegments] at h
  exact getLast?_of_follow hdots h

end FileSystem

section Names

variable {path : String} {kind : ArtifactKind}

/-- What has a kind is not called like a directory. -/
theorem not_directory_of_kind (h : kindOfPath? path = some kind) :
    Path.name path ≠ "" ∧ Path.name path ≠ "." ∧ Path.name path ≠ ".." := by
  have hdescriptor : Path.name descriptorName = descriptorName := by decide
  have hnone : ∀ name ∈ ["", ".", ".."], name ≠ descriptorName ∧
    Path.hasSuffix Path.jsonSuffix name = false ∧
      Path.isMarkup name = false ∧ Path.hasSuffix Path.deviceScriptSuffix name = false ∧
      Path.lowerName name ≠ manifestName ∧ Path.hasSuffix Path.scriptSuffix name = false := by
        decide
  have hnot : Path.name path ∉ ["", ".", ".."] := by
    intro hin
    obtain ⟨hname, hjson, hmarkup, hdevice, hmanifest, hscript⟩ := hnone _ hin
    have hpath : path ≠ descriptorName := by
      rintro rfl
      exact hname hdescriptor
    unfold kindOfPath? at h
    simp [hpath, hjson, hmarkup, hdevice, hmanifest, hscript] at h
  simpa using hnot

/-- No file with a JSON name is a script or markup of a node. -/
theorem isJson_of_suffix (h : kindOfPath? path = some kind)
    (hjson : Path.hasSuffix Path.jsonSuffix (Path.name path) = true) : kind.isJson = true := by
  have hscript : Path.hasSuffix Path.scriptSuffix (Path.name path) = false := by
    cases hs : Path.hasSuffix Path.scriptSuffix (Path.name path) with
    | false => rfl
    | true => rw [Path.hasSuffix_script hs (by decide) (by decide)] at hjson; cases hjson
  have hmarkup : ¬Path.isMarkup (Path.name path) = true := by
    intro hm
    obtain ⟨suffix, hin, hends⟩ := List.any_eq_true.1 hm
    have hlast : ∀ s ∈ Path.markupSuffixes, s.toList ≠ [] ∧ s.toList.getLast? ≠
        Path.jsonSuffix.toList.getLast? := by decide
    apply (hlast suffix hin).2
    rw [← Path.getLast?_of_hasSuffix (hlast suffix hin).1 hends,
      Path.getLast?_of_hasSuffix (by decide) hjson]
  cases kind with
  | descriptor | manifest | localeBundle => rfl
  | deviceScript =>
    rw [Path.hasSuffix_script_of_device (kindOfPath?_device.1 h)] at hscript
    cases hscript
  | hostStub =>
    rw [(kindOfPath?_hostStub.1 h).1] at hscript
    cases hscript
  | editorMarkup => exact absurd (kindOfPath?_markup.1 h).1 hmarkup

/-- What has the name of a JSON file is a JSON file if it has a kind at all. -/
theorem JsonFile.of_name {other : String} (h : JsonFile other)
    (hkind : kindOfPath? path = some kind) (hname : Path.name path = Path.name other) :
    JsonFile path := by
  have hslash : '/' ∉ Path.jsonSuffix.toList := by decide
  have hjson : Path.hasSuffix Path.jsonSuffix (Path.name path) = true := by
    rw [hname, Path.hasSuffix_name hslash]
    exact h.2
  exact ⟨⟨kind, hkind, isJson_of_suffix hkind hjson⟩, by rwa [Path.hasSuffix_name hslash] at hjson⟩

/-- Of the files that lead to one place all are JSON files if one is. -/
theorem JsonFile.of_find {fs : FileSystem} {place file : Place}
    {other : String} (h : JsonFile other)
    (hother : fs.find ((Path.Location.mk .top place).append other) = .ok file)
    (hkind : kindOfPath? path = some kind)
    (hpath : fs.find ((Path.Location.mk .top place).append path) = .ok file) : JsonFile path := by
  obtain ⟨_, hkind', _⟩ := h.1
  obtain ⟨hne, hdot, hdots⟩ := not_directory_of_kind hkind
  obtain ⟨hne', hdot', hdots'⟩ := not_directory_of_kind hkind'
  have hlast := FileSystem.getLast?_of_find hne hdot hdots hpath
  rw [FileSystem.getLast?_of_find hne' hdot' hdots' hother] at hlast
  exact h.of_name hkind (Option.some.inj hlast).symm

end Names

end TwinNode
