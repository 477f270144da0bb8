import TwinNode.Package.NodeUnit
import TwinNode.Proofs.Package.Kind
import TwinNode.Proofs.Path.Segments

/-! A locale bundle stands below a directory `locales`, with any directories between them.
Of several such directories the last one counts: what is above it is the directory of the
unit, and the name of the bundle without its ending is the stem. -/

namespace TwinNode

namespace Path

open TwinNode.Text

/-- The endings of the names of locale bundles. -/
def bundleEndings : List String := ["json", "html", "htm"]

theorem bundleEndings_suffixes : ∀ ending ∈ bundleEndings, "." ++ ending ∈ suffixes ∧
    ∀ other ∈ suffixes, other.toList.getLast? = ("." ++ ending).toList.getLast? →
      other = "." ++ ending := by decide

theorem bundleEndings_unshared :
    ∀ ending ∈ bundleEndings, ∀ a ∈ ending.toList, Unshared a := by decide

variable {name stem : String}

theorem hasBundleSuffix_iff : hasSuffix jsonSuffix name = true ∨ isMarkup name = true ↔
    ∃ ending ∈ bundleEndings, suffix? name = some ("." ++ ending) := by
  have hsuffix : (hasSuffix jsonSuffix name = true ∨ isMarkup name = true) ↔
      ∃ ending ∈ bundleEndings, hasSuffix ("." ++ ending) name = true := by
    have hsuffixes : jsonSuffix = "." ++ "json" ∧ markupSuffixes =
        ["." ++ "html", "." ++ "htm"] := by decide
    simp [bundleEndings, isMarkup, hsuffixes]
  rw [hsuffix]
  refine exists_congr fun ending => and_congr_right fun hin => ?_
  obtain ⟨hs, hlast⟩ := bundleEndings_suffixes ending hin
  exact ⟨fun h => suffix?_of_last hs h hlast, hasSuffix_of_suffix?⟩

/-- An ending that is a word in small letters consists of the same letters, small or capital. -/
theorem map_toLower_of_lowerName {ending word : String} (hword : ∀ a ∈ word.toList, Unshared a)
    (h : lowerName ending = word) :
    (∀ c ∈ ending.toList, c.toNat < 0x80) ∧ ending.toList.map Char.toLower = word.toList := by
  have hlower : lower ending.toList = word.toList := by rw [← h, toList_lowerName]
  have hsmall : ∀ a ∈ lowerAfter [] ending.toList, Unshared a := by
    rw [show lowerAfter [] ending.toList = word.toList from hlower]
    exact hword
  have hascii := ascii_of_lowerAfter hsmall
  exact ⟨hascii, by rw [← hlower, lower_ascii _ hascii]⟩

/-- The names that a bundle can have are a stem, a dot and an ending, whatever the case of its
letters. -/
theorem bundleName_iff : (hasSuffix jsonSuffix name = true ∨ isMarkup name = true) ∧
    Path.stem name = stem ↔
    ∃ ending, lowerName ending ∈ bundleEndings ∧ name = stem ++ "." ++ ending := by
  rw [hasBundleSuffix_iff]
  constructor
  · rintro ⟨⟨word, hword, hsuffix⟩, rfl⟩
    obtain ⟨written, hsplit, hascii, hlower⟩ := exists_split hsuffix
    have hdotted : ("." ++ word).toList = '.' :: word.toList := by simp
    rw [hdotted] at hlower
    obtain ⟨dot, ending, rfl, hdot, hending⟩ := List.map_eq_cons_iff.1 hlower
    obtain rfl := eq_dot_of_toLower (hascii dot (.head _)) hdot
    refine ⟨String.ofList ending, ?_, ?_⟩
    · have hsmall : lower ending = word.toList := by
        rw [lower_ascii _ fun c hc => hascii c (.tail _ hc), hending]
      rwa [lowerName, String.toList_ofList, hsmall, String.ofList_toList]
    · rw [← String.toList_inj, ← hsplit]
      simp
  · rintro ⟨ending, hword, rfl⟩
    obtain ⟨hascii, hlower⟩ := map_toLower_of_lowerName (bundleEndings_unshared _ hword) rfl
    have hdot : ∀ c ∈ '.' :: ending.toList, c.toNat < 0x80 :=
      List.forall_mem_cons.2 ⟨by decide, hascii⟩
    have hlist : (stem ++ "." ++ ending).toList = stem.toList ++ '.' :: ending.toList := by simp
    have hhas : hasSuffix ("." ++ lowerName ending) (stem ++ "." ++ ending) = true := by
      obtain ⟨front, hfront⟩ := exists_lowerAfter_append [] stem.toList ('.' :: ending.toList)
      rw [lowerAfter_ascii _ _ hdot, List.map_cons, hlower] at hfront
      unfold hasSuffix lower
      rw [hlist, hfront, List.isSuffixOf_iff_suffix, String.toList_append]
      exact List.suffix_append _ _
    obtain ⟨hs, hlast⟩ := bundleEndings_suffixes _ hword
    have hsuffix := suffix?_of_last hs hhas hlast
    refine ⟨⟨_, hword, hsuffix⟩, ?_⟩
    obtain ⟨written, hsplit, _, hmap⟩ := exists_split hsuffix
    have hlength : written.length = ('.' :: ending.toList).length := by
      have hmap := congrArg List.length hmap
      rw [List.length_map, String.toList_append, ← hlower] at hmap
      rw [hmap]
      simp
    rw [hlist] at hsplit
    exact String.toList_inj.1 (List.append_inj' hsplit hlength).1

end Path

theorem dropWhile_reverse_eq_cons_iff [BEq α] [LawfulBEq α] {xs above : List α} {x : α} :
    xs.reverse.dropWhile (· != x) = x :: above ↔ ∃ below, xs = above.reverse ++ x :: below ∧
      x ∉ below := by
  constructor
  · intro h
    refine ⟨(xs.reverse.takeWhile (· != x)).reverse, ?_, fun hin => ?_⟩
    · have hsplit :=
        congrArg List.reverse (List.takeWhile_append_dropWhile (p := (· != x)) (l := xs.reverse))
      rw [h] at hsplit
      simpa using hsplit.symm
    · have hall := List.mem_takeWhile_imp (List.mem_reverse.1 hin)
      simp at hall
  · rintro ⟨below, rfl, hbelow⟩
    have hskip : ∀ y ∈ below.reverse, (y != x) = true := by
      intro y hy
      rw [bne_iff_ne]
      rintro rfl
      exact hbelow (List.mem_reverse.1 hy)
    rw [List.reverse_append, List.reverse_cons, List.append_assoc,
      List.dropWhile_append_of_pos hskip, List.singleton_append,
        List.dropWhile_cons_of_neg (by simp), List.reverse_reverse]

/-- The owner of a locale bundle stands above the last directory `locales` and has the stem of the
bundle. -/
theorem localeOwner?_eq_some_iff {path directory stem : String} :
    localeOwner? path = some (directory, stem) ↔
      ∃ above below, Path.segments (Path.directory path) = above ++ localesDirectory :: below ∧
        localesDirectory ∉ below ∧
        Path.join above = directory ∧ Path.stem (Path.name path) = stem := by
  unfold localeOwner?
  dsimp only
  generalize Path.segments (Path.directory path) = segments
  generalize Path.stem (Path.name path) = written
  constructor
  · intro h
    cases hdrop : segments.reverse.dropWhile (· != localesDirectory) with
    | nil =>
      rw [hdrop] at h
      cases h
    | cons first above =>
      have hfirst : first = localesDirectory := by
        have hnot := List.head?_dropWhile_not (· != localesDirectory) segments.reverse
        rw [hdrop] at hnot
        simpa using hnot
      rw [hdrop] at h
      obtain ⟨rfl, rfl⟩ := Prod.mk.inj (Option.some.inj h)
      rw [hfirst, dropWhile_reverse_eq_cons_iff] at hdrop
      obtain ⟨below, hsegments, hbelow⟩ := hdrop
      exact ⟨above.reverse, below, hsegments, hbelow, rfl, rfl⟩
  · rintro ⟨above, below, rfl, hbelow, rfl, rfl⟩
    have hdrop : (above ++ localesDirectory :: below).reverse.dropWhile (· != localesDirectory) =
        localesDirectory :: above.reverse :=
      dropWhile_reverse_eq_cons_iff.2 ⟨below, by rw [List.reverse_reverse], hbelow⟩
    rw [hdrop]
    dsimp only
    rw [List.reverse_reverse]

theorem kindOfPath?_localeBundle {path : String} : kindOfPath? path = some .localeBundle ↔
    path ≠ descriptorName ∧ localesDirectory ∈ Path.segments (Path.directory path) ∧
      (Path.hasSuffix Path.jsonSuffix (Path.name path) = true ∨
        Path.isMarkup (Path.name path) = true) := by
  unfold kindOfPath?
  dsimp only
  split_ifs <;> simp_all

/-- A path below the directory `locales` of a unit, with no other directory of this name after it,
whose name is the stem of the unit with an ending of a bundle. -/
def BundlePath (directory stem path : String) : Prop :=
  ∃ (below : List String) (ending : String), (∀ d ∈ below, '/' ∉ d.toList) ∧
    localesDirectory ∉ below ∧
    Path.lowerName ending ∈ Path.bundleEndings ∧
      path = Path.child directory
        (Path.join (localesDirectory :: (below ++ [stem ++ "." ++ ending])))

theorem slash_of_localesDirectory {path : String}
    (h : localesDirectory ∈ Path.segments (Path.directory path)) :
    '/' ∈ path.toList := by
  by_contra hnone
  rw [Path.directory, Path.directoryChars_eq_nil hnone, String.ofList_nil, Path.segments_empty] at h
  exact absurd h (by decide)

/-- A directory that is not empty is the names on the way to it, and the root has none. -/
theorem child_join {above rest : List String} (hnames : "" ∉ above)
    (hslash : ∀ n ∈ above, '/' ∉ n.toList) (hrest : rest ≠ []) :
    Path.child (Path.join above) (Path.join rest) = Path.join (above ++ rest) := by
  cases above with
  | nil => rfl
  | cons n above =>
    have hjoin : Path.join (n :: above) ≠ "" := by
      intro hempty
      have hsegments := Path.segments_join (List.cons_ne_nil n above) hslash
      rw [hempty, Path.segments_empty] at hsegments
      exact hnames (hsegments ▸ List.mem_singleton_self "")
    have hnonempty : (Path.join (n :: above)).isEmpty = false := by simpa using hjoin
    rw [Path.child, hnonempty, if_neg Bool.false_ne_true,
      Path.join_append (List.cons_ne_nil n above) hrest]

section Bundle

variable {path directory stem : String}

theorem BundlePath.of_owner (hnames : "" ∉ Path.segments path)
    (hkind : kindOfPath? path = some .localeBundle)
    (howner : localeOwner? path = some (directory, stem)) : BundlePath directory stem path := by
  obtain ⟨_, hin, hname⟩ := kindOfPath?_localeBundle.1 hkind
  obtain ⟨above, below, hdirectory, hbelow, rfl, hstem⟩ := localeOwner?_eq_some_iff.1 howner
  obtain ⟨ending, hending, hwritten⟩ := Path.bundleName_iff.1 ⟨hname, hstem⟩
  have hsegments := Path.segments_of_slash (slash_of_localesDirectory hin)
  rw [hdirectory, hwritten, List.append_assoc, List.cons_append] at hsegments
  have habove : ∀ n ∈ above, n ∈ Path.segments path :=
    fun n hn => hsegments ▸ List.mem_append_left _ hn
  have hbetween : ∀ d ∈ below, d ∈ Path.segments path := fun d hd => by
    rw [hsegments]
    exact List.mem_append_right _ (List.mem_cons_of_mem _ (List.mem_append_left _ hd))
  refine ⟨below, ending, fun d hd => Path.slash_not_mem_segments (hbetween d hd),
    hbelow, hending, ?_⟩
  rw [child_join (fun h => hnames (habove "" h)) (fun n hn =>
    Path.slash_not_mem_segments (habove n hn)) (List.cons_ne_nil _ _),
    ← hsegments, Path.join_segments]

theorem BundlePath.owner (hstem : '/' ∉ stem.toList) (h : BundlePath directory stem path) :
    kindOfPath? path = some .localeBundle ∧ localeOwner? path = some (directory, stem) := by
  obtain ⟨below, ending, hslash, hbelow, hending, hpath⟩ := h
  have hnot : '/' ∉ ending.toList := by
    intro hin
    have hascii := (Path.map_toLower_of_lowerName (Path.bundleEndings_unshared _ hending) rfl).2
    have hslash : '/'.toLower ∈ (Path.lowerName ending).toList := hascii ▸ List.mem_map_of_mem hin
    revert hslash
    have hall : ∀ word ∈ Path.bundleEndings, '/'.toLower ∉ word.toList := by decide
    exact hall _ hending
  have hlast : '/' ∉ (stem ++ "." ++ ending).toList := by simp [hstem, hnot]
  have hnames : ∀ n ∈ localesDirectory :: (below ++ [stem ++ "." ++ ending]), '/' ∉ n.toList := by
    simp only [List.forall_mem_cons, List.forall_mem_append]
    exact ⟨by decide, hslash, hlast, List.forall_mem_nil _⟩
  have hsegments :=
    Path.segments_child directory
      (Path.join (localesDirectory :: (below ++ [stem ++ "." ++ ending])))
  rw [← hpath, Path.segments_join (List.cons_ne_nil _ _) hnames, ← List.cons_append,
    ← List.append_assoc] at hsegments
  obtain ⟨hin, hdirectory, hname⟩ := Path.directory_of_segments hsegments (by simp)
  obtain ⟨hsuffix, hwritten⟩ := Path.bundleName_iff.2 ⟨ending, hending, hname⟩
  refine ⟨kindOfPath?_localeBundle.2 ⟨?_, ?_, hsuffix⟩,
    localeOwner?_eq_some_iff.2 ⟨_, below, hdirectory, hbelow, ?_, hwritten⟩⟩
  · rintro rfl
    exact absurd hin (by decide)
  · rw [hdirectory]
    simp
  · split_ifs with hroot
    · exact hroot.symm
    · exact Path.join_segments directory

/-- The bundles of a unit are the files whose paths lead there. -/
theorem bundle_iff (hnames : "" ∉ Path.segments path) (hstem : '/' ∉ stem.toList) :
    kindOfPath? path = some .localeBundle ∧ localeOwner? path = some (directory, stem) ↔
      BundlePath directory stem path :=
  ⟨fun ⟨hkind, howner⟩ => .of_owner hnames hkind howner, fun h => h.owner hstem⟩

end Bundle

end TwinNode
