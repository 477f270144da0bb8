import TwinNode.Proofs.Package.Found

namespace TwinNode

namespace FileSystem

/-- Two file systems with the same directories and with files at the same places. -/
structure SamePlaces (fs other : FileSystem) : Prop where
  files : (fs.files.map (·.1)).Perm (other.files.map (·.1))
  directories : fs.directories = other.directories
  workingDirectory : fs.workingDirectory = other.workingDirectory

namespace SamePlaces

variable {fs other : FileSystem} (h : fs.SamePlaces other)
include h

theorem any_eq (q : Place → Bool) :
    (fs.files.any fun entry => q entry.1) = other.files.any fun entry => q entry.1 := by
  have hany := h.files.any_eq (f := q)
  rwa [List.any_map, List.any_map] at hany

theorem isFile_eq (p : Place) : fs.isFile p = other.isFile p := h.any_eq (· == p)

theorem isDirectory_eq (p : Place) : fs.isDirectory p = other.isDirectory p := by
  unfold isDirectory
  rw [h.any_eq fun place => p.isPrefixOf place.dropLast, h.directories, h.workingDirectory]

theorem follow_eq (p : Place) (names : List String) : fs.follow p names = other.follow p names := by
  induction names generalizing p with
  | nil => rfl
  | cons name names ih =>
    rw [follow, follow, ih, ih]
    simp only [h.isDirectory_eq, h.isFile_eq]

theorem origin_eq (l : Path.Location) : fs.origin l = other.origin l := by
  unfold origin
  rw [h.workingDirectory]

theorem find_eq (l : Path.Location) : fs.find l = other.find l := by
  unfold find
  rw [h.follow_eq, h.origin_eq]

theorem checkRoot_eq (root : Path.Location) : checkRoot fs root = checkRoot other root := by
  unfold checkRoot find? resolve
  simp only [h.find_eq, h.isDirectory_eq, h.origin_eq]

theorem foundFiles_eq (exclude : List String) (root : Place) :
    foundFiles fs exclude root = foundFiles other exclude root := by
  have hbelow : (fs.filesBelow root).Perm (other.filesBelow root) := by
    rw [filesBelow_eq, filesBelow_eq]
    exact h.files.filterMap _
  apply sortPaths_eq
  · exact ((hbelow.filter _).map _).trans (List.mergeSort_perm _ _).symm
  · exact List.pairwise_mergeSort pathLE_trans pathLE_total _

end SamePlaces

end FileSystem

end TwinNode
