import TwinNode.Proofs.FileSystem.Places
import TwinNode.Proofs.Json.Reordered

namespace TwinNode

/-- The contents of two files that are JSON, with values that differ in the order of members
only. -/
def JsonReordered (room : Nat) (bytes others : Bytes) : Prop :=
  ∃ v w, Json.read room (Text.readText bytes) = .ok v ∧
    Json.read room (Text.readText others) = .ok w ∧ v.Reordered w

/-- The place of a file that is called like a JSON file. -/
def JsonPlace (place : Place) : Prop :=
  ∃ name ∈ place.getLast?, Path.hasSuffix Path.jsonSuffix name = true

/-- Two contents of the file at a place that are the same, except for the order of members in
JSON. -/
def ContentsReordered (room : Nat) (place : Place) (bytes others : Bytes) : Prop :=
  bytes = others ∨ JsonPlace place ∧ JsonReordered room bytes others

namespace FileSystem

/-- Two file systems that are the same, except for the order of the members of objects in JSON
files. -/
structure Reordered (fs other : FileSystem) : Prop where
  files : List.Forall₂ (fun file file' => file.1 = file'.1 ∧
    ContentsReordered fs.room file.1 file.2 file'.2) fs.files other.files
  directories : fs.directories = other.directories
  workingDirectory : fs.workingDirectory = other.workingDirectory
  room : fs.room = other.room

namespace Reordered

variable {fs other : FileSystem} (h : fs.Reordered other)
include h

theorem samePlaces : fs.SamePlaces other where
  files := by rw [map_eq_of_forall₂ h.files fun file _ file' hfile => hfile.1]
  directories := h.directories
  workingDirectory := h.workingDirectory

theorem contents? (place : Place) :
    Option.Rel (ContentsReordered fs.room place) (fs.contents? place) (other.contents? place) := by
  have hfind :=
    rel_find? (p := (·.1 == place)) (q := (·.1 == place))
      (fun file file' hfile => by rw [hfile.1]) h.files
  unfold FileSystem.contents?
  generalize hfile : fs.files.find? (·.1 == place) = file, other.files.find? (·.1 == place) =
    file' at hfind ⊢
  cases hfind with
  | none => exact .none
  | @some file _ hsame =>
    obtain rfl : file.1 = place := by simpa using List.find?_some hfile
    exact .some hsame.2

end Reordered

end FileSystem

end TwinNode
