import TwinNode.Proofs.Path.Join
import TwinNode.Proofs.Path.Name

namespace TwinNode.Path

theorem splitSlashes_slash (cs rest : List Char) :
    splitSlashes (cs ++ '/' :: rest) = splitSlashes cs ++ splitSlashes rest := by
  induction cs with
  | nil => simp [splitSlashes]
  | cons c cs ih =>
    by_cases h : c = '/'
    · simp [splitSlashes, h, ih]
    · obtain ⟨first, others, hsplit⟩ := List.exists_cons_of_ne_nil (splitSlashes_ne_nil cs)
      simp [splitSlashes, h, ih, hsplit]

theorem slash_not_mem_splitSlashes {cs part : List Char} (h : part ∈ splitSlashes cs) :
    '/' ∉ part := by
  fun_induction splitSlashes cs generalizing part with
  | case1 => simp_all
  | case2 cs ih =>
    rcases List.mem_cons.1 h with rfl | h
    · exact List.not_mem_nil
    · exact ih h
  | case3 c cs hc s ss hsplit ih =>
    rcases List.mem_cons.1 h with rfl | h
    · have hs := ih (hsplit ▸ List.mem_cons_self)
      simp [hs, Ne.symm hc]
    · exact ih (hsplit ▸ List.mem_cons_of_mem s h)
  | case4 c cs hc hsplit => exact absurd hsplit (splitSlashes_ne_nil cs)

theorem slash_not_mem_segments {path segment : String} (h : segment ∈ segments path) :
    '/' ∉ segment.toList := by
  obtain ⟨part, hpart, rfl⟩ := List.mem_map.1 h
  rw [String.toList_ofList]
  exact slash_not_mem_splitSlashes hpart

theorem join_segments (path : String) : join (segments path) = path := by
  have hid : String.toList ∘ String.ofList = id := funext fun _ => String.toList_ofList
  rw [← String.toList_inj, toList_join, segments, List.map_map, hid, List.map_id,
    intercalate_splitSlashes]

theorem segments_empty : segments "" = [""] := rfl

/-- The segments of a path in a directory are those of the directory and the name. -/
theorem segments_of_slash {path : String} (h : '/' ∈ path.toList) :
    segments path = segments (directory path) ++ [name path] := by
  have hsplit := congrArg splitSlashes (directoryChars_append_nameChars h)
  rw [splitSlashes_slash, splitSlashes_of_not_mem (slash_not_mem_nameChars _)] at hsplit
  unfold segments directory name
  rw [String.toList_ofList, ← hsplit, List.map_append, List.map_singleton]

theorem segments_slashless {path : String} (h : '/' ∉ path.toList) : segments path = [path] := by
  rw [segments, splitSlashes_of_not_mem h, List.map_singleton, String.ofList_toList]

theorem name_slashless {path : String} (h : '/' ∉ path.toList) : name path = path := by
  rw [name, nameChars_eq_self h, String.ofList_toList]

theorem directory_slashless {path : String} (h : '/' ∉ path.toList) : directory path = "" := by
  rw [directory, directoryChars_eq_nil h, String.ofList_nil]

theorem segments_eq_append_name (path : String) :
    ∃ above, segments path = above ++ [name path] := by
  by_cases h : '/' ∈ path.toList
  · exact ⟨_, segments_of_slash h⟩
  · exact ⟨[], by rw [segments_slashless h, name_slashless h]; rfl⟩

/-- A path with segments before the last one is in their directory. -/
theorem directory_of_segments {path last : String} {above : List String}
    (h : segments path = above ++ [last]) (hne : above ≠ []) :
    '/' ∈ path.toList ∧ segments (directory path) = above ∧ name path = last := by
  have hslash : '/' ∈ path.toList := by
    by_contra hnone
    rw [segments_slashless hnone] at h
    have hlength := congrArg List.length h
    rw [List.length_append, List.length_singleton, List.length_singleton] at hlength
    exact hne (List.eq_nil_of_length_eq_zero (by omega))
  rw [segments_of_slash hslash] at h
  obtain ⟨hdirectory, hname⟩ := List.append_inj' h rfl
  exact ⟨hslash, hdirectory, List.singleton_inj.1 hname⟩

/-- The segments of a path below a directory; the root has none. -/
theorem segments_child (directory rest : String) :
    segments (child directory rest) = (if directory = "" then [] else segments directory) ++
      segments rest := by
  unfold child
  by_cases h : directory = ""
  · simp [h]
  · have hempty : directory.isEmpty = false := by simpa using h
    have hslash : "/".toList = ['/'] := rfl
    rw [hempty, if_neg Bool.false_ne_true, if_neg h]
    unfold segments
    rw [String.toList_append, String.toList_append, hslash, List.append_assoc,
      List.singleton_append, splitSlashes_slash, List.map_append]

theorem child_append (directory last more : String) :
    child directory (last ++ more) = child directory last ++ more := by
  unfold child
  split
  · rfl
  · exact String.append_assoc.symm

theorem directory_child {last : String} (hlast : '/' ∉ last.toList) (above : String) :
    directory (child above last) = above ∧ name (child above last) = last := by
  unfold child
  split
  · next hempty =>
    rw [directory_slashless hlast, name_slashless hlast, String.isEmpty_iff.1 hempty]
    exact ⟨rfl, rfl⟩
  · exact ⟨directory_append hlast above, name_append hlast above⟩

/-- A path without empty segments is its name below its directory, and so is another name in its
place. -/
theorem segments_child_directory {path last : String} (hnames : "" ∉ segments path)
    (hlast : '/' ∉ last.toList) :
    ∃ above, segments path = above ++ [name path] ∧
      segments (child (directory path) last) = above ++ [last] := by
  rw [segments_child, segments_slashless hlast]
  by_cases hslash : '/' ∈ path.toList
  · have hne : directory path ≠ "" := by
      intro hempty
      rw [segments_of_slash hslash, hempty, segments_empty] at hnames
      exact hnames (.head _)
    exact ⟨_, segments_of_slash hslash, by rw [if_neg hne]⟩
  · refine ⟨[], ?_, by rw [if_pos (directory_slashless hslash)]⟩
    rw [segments_slashless hslash, name_slashless hslash]
    rfl

theorem child_directory_name {path : String} (hnames : "" ∉ segments path) :
    child (directory path) (name path) = path := by
  obtain ⟨above, hpath, hchild⟩ := segments_child_directory hnames (slash_not_mem_name path)
  rw [← join_segments (child (directory path) (name path)), hchild, ← hpath, join_segments]

/-- What stands before the name of a path is its directory and a slash, if there is a slash in the
path. -/
theorem dropEnd_name {path : String} (h : '/' ∈ path.toList) :
    dropEnd (name path).length path = directory path ++ "/" := by
  have hsplit : directoryChars path.toList ++ ['/'] ++ nameChars path.toList = path.toList := by
    rw [List.append_assoc, List.singleton_append, directoryChars_append_nameChars h]
  have hlength : path.toList.length - (name path).length =
      (directoryChars path.toList ++ ['/']).length := by
    rw [← String.length_toList, name, String.toList_ofList, ← congrArg List.length hsplit,
      List.length_append, Nat.add_sub_cancel]
  have hslash : "/".toList = ['/'] := rfl
  rw [← String.toList_inj, dropEnd, String.toList_ofList, hlength,
    ← List.prefix_iff_eq_take.1 ⟨_, hsplit⟩, String.toList_append, directory,
      String.toList_ofList, hslash]

theorem dropEnd_eq_empty {path : String} (h : '/' ∉ path.toList) :
    dropEnd (name path).length path = "" := by
  unfold dropEnd
  rw [name_slashless h, String.length_toList, Nat.sub_self]
  rfl

/-- A name with another last part has the directory of the path. -/
theorem directory_dropEnd {path last : String} (hlast : '/' ∉ last.toList) :
    directory (dropEnd (name path).length path ++ last) = directory path ∧
      name (dropEnd (name path).length path ++ last) = last := by
  by_cases h : '/' ∈ path.toList
  · rw [dropEnd_name h]
    exact ⟨directory_append hlast _, name_append hlast _⟩
  · rw [dropEnd_eq_empty h, String.empty_append, directory_slashless h,
      directory_slashless hlast, name_slashless hlast]
    exact ⟨rfl, rfl⟩

end TwinNode.Path
