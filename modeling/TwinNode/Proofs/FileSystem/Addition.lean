import TwinNode.Package.Discovery
import TwinNode.Proofs.Package.Found
import TwinNode.Proofs.Path.Join

namespace TwinNode

/-- A name that a file can have. -/
structure EntryName (name : String) : Prop where
  nonempty : name ≠ ""
  not_dot : name ≠ "."
  not_dots : name ≠ ".."
  slashless : '/' ∉ name.toList

instance (name : String) : Decidable (EntryName name) :=
  decidable_of_iff (name ≠ "" ∧ name ≠ "." ∧ name ≠ ".." ∧ '/' ∉ name.toList)
    ⟨fun ⟨hne, hdot, hdots, hslash⟩ => ⟨hne, hdot, hdots, hslash⟩,
      fun h => ⟨h.nonempty, h.not_dot, h.not_dots, h.slashless⟩⟩

/-- A file system whose files have names that files can have. -/
def FileSystem.Named (fs : FileSystem) : Prop := ∀ file ∈ fs.files, ∀ n ∈ file.1, EntryName n

instance (fs : FileSystem) : Decidable fs.Named :=
  inferInstanceAs (Decidable (∀ file ∈ fs.files, ∀ n ∈ file.1, EntryName n))

namespace Path

theorem append_join {root : Place} {names : List String} (hne : names ≠ [])
    (h : ∀ n ∈ names, EntryName n) :
    (Location.mk .top root).append (join names) = ⟨.top, root ++ names⟩ := by
  have hsegments : segments (join names) = names := segments_join hne fun n hn => (h n hn).slashless
  have hfilter : names.filter (fun s => decide (s ≠ "" ∧ s ≠ ".")) = names :=
    List.filter_eq_self.2 fun n hn => by simpa using ⟨(h n hn).nonempty, (h n hn).not_dot⟩
  have hrelative := takeWhile_slash_join fun n hn =>
    ⟨fun hnil => (h n hn).nonempty (String.toList_eq_nil_iff.1 hnil), (h n hn).slashless⟩
  unfold Location.append Location.ofString
  dsimp only
  rw [hsegments, hfilter, hrelative]
  rfl

end Path

namespace FileSystem

variable {fs : FileSystem}

/-- Every proper part of the way to a file is a directory. -/
theorem isDirectory_of_isFile {place rest : Place} (hne : rest ≠ [])
    (h : fs.isFile (place ++ rest) = true) :
    fs.isDirectory place = true := by
  obtain ⟨file, hfile, heq⟩ := List.any_eq_true.1 h
  have hplace : file.1 = place ++ rest := by simpa using heq
  have hin : (fs.files.any fun file => place.isPrefixOf file.1.dropLast) = true := by
    refine List.any_eq_true.2 ⟨file, hfile, ?_⟩
    rw [hplace, List.dropLast_append_of_ne_nil hne, List.isPrefixOf_iff_prefix]
    exact List.prefix_append _ _
  unfold isDirectory
  rw [hin, Bool.or_true]

/-- The way down to a file can be followed unless a name on it is too long. -/
theorem follow_of_isFile {place names : Place} (hdots : ".." ∉ names)
    (h : fs.isFile (place ++ names) = true) :
    fs.follow place names =
      if names.any fun n => decide (maxNameBytes < n.utf8ByteSize) then .error .nameTooLong
      else .ok (place ++ names) := by
  induction names generalizing place with
  | nil =>
    rw [List.append_nil]
    rfl
  | cons n names ih =>
    have hdirectory : fs.isDirectory place = true :=
      isDirectory_of_isFile (List.cons_ne_nil n names) h
    have hn : n ≠ ".." := fun heq => hdots (heq ▸ List.mem_cons_self)
    have hnext : fs.isFile ((place ++ [n]) ++ names) = true := by
      rw [List.append_assoc]
      exact h
    -- What is next on the way is a directory, or the file at the end of it.
    have hthere : (fs.isDirectory (place ++ [n]) || fs.isFile (place ++ [n])) = true := by
      by_cases hnil : names = []
      · rw [hnil, List.append_nil] at hnext
        rw [hnext, Bool.or_true]
      · rw [isDirectory_of_isFile hnil hnext, Bool.true_or]
    have hrest := ih (fun hin => hdots (List.mem_cons_of_mem n hin)) hnext
    rw [follow, hdirectory, if_neg (by simp), if_neg hn, hthere, hrest, List.any_cons,
      List.append_assoc, List.singleton_append]
    by_cases hlong : maxNameBytes < n.utf8ByteSize <;> simp [hlong]

theorem follow_of_find {l : Path.Location} {p : Place} (h : fs.find l = .ok p) :
    fs.follow (fs.origin l) l.segments = .ok p := by
  unfold find at h
  split_ifs at h
  exact h

theorem eq_of_find {place p : Place} (hdots : ".." ∉ place) (hfile : fs.isFile place = true)
    (h : fs.find ⟨.top, place⟩ = .ok p) : p = place := by
  have hfollow : fs.follow [] place = .ok p := follow_of_find h
  rw [follow_of_isFile hdots hfile] at hfollow
  split_ifs at hfollow
  exact (Except.ok.inj hfollow).symm

theorem isFile_of_mem_filesBelow {root : Place} {names : List String}
    (h : names ∈ fs.filesBelow root) :
    names ≠ [] ∧ fs.isFile (root ++ names) = true := by
  rw [filesBelow_eq] at h
  obtain ⟨place, hplace, hnames⟩ := List.mem_filterMap.1 h
  obtain ⟨file, hfile, rfl⟩ := List.mem_map.1 hplace
  obtain ⟨hsplit, hne⟩ := namesBelow?_eq_some hnames
  exact ⟨hne, List.any_eq_true.2 ⟨file, hfile, by simp [hsplit]⟩⟩

theorem Named.entryName_of_isFile (hnamed : fs.Named) {place : Place} (h : fs.isFile place = true) :
    ∀ n ∈ place, EntryName n := by
  obtain ⟨file, hfile, heq⟩ := List.any_eq_true.1 h
  obtain rfl : file.1 = place := by simpa using heq
  exact hnamed file hfile

/-- Without backslashes, a found path is the names on the way to a file below the root. -/
theorem Named.names_of_found (hnamed : fs.Named) {exclude : List String} {root : Place}
    (hback : ∀ names ∈ fs.filesBelow root, ∀ n ∈ names, '\\' ∉ n.toList) {path : String}
    (h : path ∈ foundFiles fs exclude root) :
    ∃ names ∈ fs.filesBelow root, findsFile exclude names = true ∧
      Path.join names = path ∧ Path.segments path = names ∧ ∀ n ∈ names, EntryName n := by
  obtain ⟨names, hfound, rfl⟩ := List.mem_map.1 (mem_sortPaths.1 h)
  obtain ⟨hin, hfinds⟩ := List.mem_filter.1 hfound
  obtain ⟨hne, hfile⟩ := isFile_of_mem_filesBelow hin
  have hentry : ∀ n ∈ names, EntryName n :=
    fun n hn => hnamed.entryName_of_isFile hfile n (List.mem_append_right root hn)
  rw [normalize_below hback hin]
  exact ⟨names, hin, hfinds, rfl, Path.segments_join hne fun n hn =>
    (hentry n hn).slashless, hentry⟩

section Write

variable {place : Place} (hnew : fs.isFile place = false) (bytes : Bytes)
include hnew

theorem files_write : (fs.write place bytes).files = fs.files ++ [(place, bytes)] := by
  have hother : fs.files.filter (·.1 != place) = fs.files := by
    refine List.filter_eq_self.2 fun file hfile => ?_
    have hne := List.any_eq_false.1 hnew file hfile
    simpa using hne
  unfold write
  rw [hother]

theorem isFile_write {p : Place} (h : fs.isFile p = true) :
    (fs.write place bytes).isFile p = true := by
  unfold isFile at h ⊢
  rw [files_write hnew, List.any_append, h, Bool.true_or]

theorem isDirectory_write {p : Place} (h : fs.isDirectory p = true) :
    (fs.write place bytes).isDirectory p = true := by
  unfold isDirectory at h ⊢
  rw [files_write hnew, List.any_append]
  have hsame : (fs.write place bytes).workingDirectory = fs.workingDirectory ∧
      (fs.write place bytes).directories = fs.directories := ⟨rfl, rfl⟩
  rw [hsame.1, hsame.2, ← Bool.or_assoc, h, Bool.true_or]

theorem contents?_write {p : Place} (h : fs.isFile p = true) :
    (fs.write place bytes).contents? p = fs.contents? p := by
  unfold contents?
  rw [files_write hnew, List.find?_append, Option.or_of_isSome]
  exact List.find?_isSome.2 (List.any_eq_true.1 h)

theorem follow_write {p q : Place} {names : List String} (h : fs.follow p names = .ok q) :
    (fs.write place bytes).follow p names = .ok q := by
  induction names generalizing p with
  | nil => exact h
  | cons n names ih =>
    rw [follow] at h ⊢
    cases hdirectory : fs.isDirectory p with
    | false =>
      rw [hdirectory] at h
      cases h
    | true =>
      rw [hdirectory, if_neg (by simp)] at h
      rw [isDirectory_write hnew bytes hdirectory, if_neg (by simp)]
      split_ifs at h with hup hlong hthere
      · rw [if_pos hup]
        exact ih h
      · have hstill : ((fs.write place bytes).isDirectory (p ++ [n]) ||
          (fs.write place bytes).isFile (p ++ [n])) = true := by
          rw [Bool.or_eq_true] at hthere ⊢
          exact hthere.imp (isDirectory_write hnew bytes) (isFile_write hnew bytes)
        rw [if_neg hup, if_neg hlong, if_pos hstill]
        exact ih h

theorem find_write {l : Path.Location} {p : Place} (h : fs.find l = .ok p) :
    (fs.write place bytes).find l = .ok p := by
  have hfollow : (fs.write place bytes).follow ((fs.write place bytes).origin l) l.segments =
      .ok p :=
    follow_write hnew bytes (follow_of_find h)
  unfold find at h ⊢
  split_ifs at h ⊢
  exact hfollow

theorem checkRoot_write {root : Path.Location} {q : Place} (h : checkRoot fs root = .ok q) :
    checkRoot (fs.write place bytes) root = .ok q := by
  unfold checkRoot find? at h ⊢
  cases hfind : fs.find root with
  | error e =>
    rw [hfind] at h
    cases e <;> cases h
  | ok p =>
    rw [hfind] at h
    rw [find_write hnew bytes hfind]
    dsimp only at h ⊢
    cases hdirectory : fs.isDirectory p with
    | false =>
      rw [hdirectory] at h
      cases h
    | true =>
      rw [hdirectory] at h
      rw [isDirectory_write hnew bytes hdirectory]
      exact h

theorem read_write {root : Place} {names : List String} (hnames : ∀ n ∈ names, EntryName n)
    (hroot : ".." ∉ root) (hne : names ≠ []) (h : fs.isFile (root ++ names) = true) :
    (fs.write place bytes).read ((Path.Location.mk .top root).append (Path.join names)) =
      fs.read ((Path.Location.mk .top root).append (Path.join names)) := by
  have hdots : ".." ∉ root ++ names := by
    rw [List.mem_append]
    exact fun hin => hin.elim hroot fun hin => (hnames _ hin).not_dots rfl
  have hfollow : (fs.write place bytes).follow [] (root ++ names) =
      fs.follow [] (root ++ names) := by
    rw [follow_of_isFile hdots (isFile_write hnew bytes h), follow_of_isFile hdots h]
  rw [Path.append_join hne hnames]
  have hfind : (fs.write place bytes).find ⟨.top, root ++ names⟩ =
      fs.find ⟨.top, root ++ names⟩ := by
    unfold find origin
    dsimp only
    rw [hfollow]
  unfold read
  rw [hfind]
  cases hplace : fs.find ⟨.top, root ++ names⟩ with
  | error e => rfl
  | ok p =>
    dsimp only
    rw [eq_of_find hdots h hplace, contents?_write hnew bytes h]

theorem Named.of_write (h : (fs.write place bytes).Named) : fs.Named := fun file hfile =>
  h file (by rw [files_write hnew]; exact List.mem_append_left _ hfile)

theorem contents?_written : (fs.write place bytes).contents? place = some bytes := by
  have hnone : fs.files.find? (·.1 == place) = none := List.find?_eq_none.2 fun file hfile => by
    simpa using List.any_eq_false.1 hnew file hfile
  unfold contents?
  rw [files_write hnew, List.find?_append, hnone]
  simp

theorem filesBelow_write (root : Place) :
    (fs.write place bytes).filesBelow root = fs.filesBelow root ++
      (namesBelow? root place).toList := by
  rw [filesBelow_eq, filesBelow_eq, files_write hnew, List.map_append, List.filterMap_append]
  cases h : namesBelow? root place <;> simp [h]

end Write

/-- What is opened under the path of the new file is its content. -/
theorem eq_of_read_written {root : Place} {names : List String} {path : String}
    {bytes content : Bytes} (hne : names ≠ []) (hpath : Path.join names = path)
    (hnew : fs.isFile (root ++ names) = false) (hnamed : (fs.write (root ++ names) bytes).Named)
    (hread :
      (fs.write (root ++ names) bytes).read ((Path.Location.mk .top root).append path) =
        .ok content) :
    content = bytes := by
  have hfile : (fs.write (root ++ names) bytes).isFile (root ++ names) = true := by
    unfold isFile
    rw [files_write hnew, List.any_append]
    simp
  have hentry := hnamed.entryName_of_isFile hfile
  rw [← hpath, Path.append_join hne fun n hn => hentry n (List.mem_append_right root hn)] at hread
  unfold read at hread
  cases hfind : (fs.write (root ++ names) bytes).find ⟨.top, root ++ names⟩ with
  | error e =>
    rw [hfind] at hread
    cases hread
  | ok p =>
    obtain rfl := eq_of_find (fun hdots => (hentry _ hdots).not_dots rfl) hfile hfind
    rw [hfind] at hread
    dsimp only at hread
    rw [contents?_written hnew] at hread
    exact (Except.ok.inj hread).symm

end FileSystem

end TwinNode
