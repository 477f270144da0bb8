import Mathlib.Data.List.Nodup
import Mathlib.Data.List.Perm.Lattice
import TwinNode.Proofs.FileSystem.Places

namespace TwinNode

namespace FileSystem

variable {fs : FileSystem} {file : Place} (hsound : fs.Sound) (hfile : fs.isFile file = true)
  (bytes : Bytes)
include hsound hfile

theorem samePlaces_write : (fs.write file bytes).SamePlaces fs := by
  refine ⟨?_, rfl, rfl⟩
  have hin : file ∈ fs.files.map (·.1) := by
    obtain ⟨entry, hentry, heq⟩ := List.any_eq_true.1 hfile
    exact List.mem_map.2 ⟨entry, hentry, beq_iff_eq.1 heq⟩
  have hothers : (fs.files.filter (·.1 != file)).map (·.1) = (fs.files.map (·.1)).erase file := by
    rw [hsound.distinct.erase_eq_filter, List.filter_map]
    rfl
  unfold write
  rw [List.map_append, hothers]
  exact (List.perm_append_singleton file _).trans (List.perm_cons_erase hin).symm

omit hsound hfile in
theorem contents?_replaced (p : Place) :
    (fs.write file bytes).contents? p = if p = file then some bytes else fs.contents? p := by
  unfold contents? write
  rw [List.find?_append, List.find?_filter]
  split_ifs with h
  · subst h
    have hnone :
        fs.files.find? (fun entry => decide ((entry.1 != p) = true ∧ (entry.1 == p) = true)) =
          none := by
      apply List.find?_eq_none.2
      simp
    rw [hnone, Option.none_or]
    simp
  · have hother :
      (fun entry : Place × Bytes => decide ((entry.1 != file) = true ∧ (entry.1 == p) = true)) =
        fun entry => entry.1 == p := by
      funext entry
      by_cases hp : entry.1 = p <;> simp [hp, h]
    have hlast : [(file, bytes)].find? (·.1 == p) = none := by simp [Ne.symm h]
    rw [hother, hlast, Option.or_none]

/-- From the file the new content is read, and from the others what was read before. -/
theorem read_replaced (l : Path.Location) :
    (fs.write file bytes).read l = if fs.find l = .ok file then .ok bytes else fs.read l := by
  unfold read
  rw [(samePlaces_write hsound hfile bytes).find_eq]
  cases fs.find l with
  | error e => rfl
  | ok p =>
    dsimp only
    rw [contents?_replaced]
    by_cases h : p = file <;> simp [h]

end FileSystem

end TwinNode
