import TwinNode.Proofs.Package.Found
import TwinNode.Proofs.Package.Search

/-! Discovery does not enter a directory if a pattern matches its path with `/**` behind it.
The two stars are there to stand for anything below the directory, and the stretches of a
pattern take them so. But other tokens take a star as well: `?` and brackets that a star is
in. Where the last token of a pattern, its stretches apart, is none of these, the pattern
matches all that is below a directory it leaves out. -/

namespace TwinNode

namespace Glob

/-- Whether the last token of a pattern, its stretches apart, takes a star for the character it
stands for. -/
def endsLikeStar (ts : List Token) : Bool :=
  ((ts.filter (· ≠ .stretch)).getLast?).any (·.acceptsChar '*')

theorem acceptsChar_ne_stretch {t : Token} {c : Char} (h : t.acceptsChar c = true) :
    t ≠ .stretch := by
  rintro rfl
  cases h

theorem endsLikeStar_of_cons {t : Token} {ts : List Token} (h : endsLikeStar (t :: ts) = false) :
    endsLikeStar ts = false := by
  unfold endsLikeStar at h ⊢
  by_cases ht : t = .stretch
  · rwa [List.filter_cons_of_neg (by simpa using ht)] at h
  · rw [List.filter_cons_of_pos (by simpa using ht)] at h
    cases hrest : ts.filter (· ≠ .stretch) with
    | nil => rfl
    | cons u us => rwa [hrest, List.getLast?_cons_cons] at h

/-- Where tokens match nothing but stars, all of them take a star. -/
theorem acceptsChar_of_stars {ts : List Token} {text : List Char} (h : Matches ts text)
    (hstars : ∀ c ∈ text, c = '*') :
    ∀ t ∈ ts, t ≠ .stretch → t.acceptsChar '*' = true := by
  induction h with
  | nil => exact List.forall_mem_nil _
  | stretchEnd _ ih => exact List.forall_mem_cons.2 ⟨fun hne => absurd rfl hne, ih hstars⟩
  | stretchMore _ ih => exact ih fun c hc => hstars c (List.mem_cons_of_mem _ hc)
  | @char t ts c text hc _ ih =>
    obtain rfl := hstars c List.mem_cons_self
    exact List.forall_mem_cons.2 ⟨fun _ => hc, ih fun d hd => hstars d (List.mem_cons_of_mem _ hd)⟩

theorem endsLikeStar_of_stars {t : Token} {ts : List Token} {text : List Char}
    (h : Matches (t :: ts) text) (hstars : ∀ c ∈ text, c = '*') (ht : t ≠ .stretch) :
    endsLikeStar (t :: ts) = true := by
  unfold endsLikeStar
  have hne : (t :: ts).filter (· ≠ .stretch) ≠ [] := by
    rw [List.filter_cons_of_pos (by simpa using ht)]
    exact List.cons_ne_nil _ _
  rw [List.getLast?_eq_some_getLast hne, Option.any_some]
  have hlast := List.mem_filter.1 (List.getLast_mem hne)
  exact acceptsChar_of_stars h hstars _ hlast.1 (by simpa using hlast.2)

theorem Matches.stretch_of_nil {ts : List Token} (h : Matches (.stretch :: ts) [])
    (text : List Char) :
    Matches (.stretch :: ts) text := by
  induction text with
  | nil => exact h
  | cons c text ih => exact .stretchMore ih

/-- Tokens that do not end like a star match anything in the place of stars at the end of a text. -/
theorem Matches.of_stars {ts : List Token} {text : List Char} (h : Matches ts text)
    (hends : endsLikeStar ts = false) {front stars : List Char} (htext : text = front ++ stars)
    (hne : stars ≠ []) (hstars : ∀ c ∈ stars, c = '*') (more : List Char) :
    Matches ts (front ++ more) := by
  -- On the match, with the text before the stars left open: it gets shorter with each character
  -- that is taken.
  induction h generalizing front stars with
  | nil => exact absurd (List.append_eq_nil_iff.1 htext.symm).2 hne
  | stretchEnd _ ih => exact .stretchEnd (ih hends htext hne hstars)
  | @stretchMore ts c text h ih =>
    cases front with
    | nil =>
      -- The stretch is among the stars, and what comes after it matches the rest of them, unless
      -- this is the last.
      obtain rfl : c :: text = stars := htext
      by_cases hnil : text = []
      · exact stretch_of_nil (hnil ▸ h) more
      · exact ih hends rfl hnil fun d hd => hstars d (List.mem_cons_of_mem c hd)
    | cons d front => exact .stretchMore (ih hends (List.cons.inj htext).2 hne hstars)
  | @char t ts c text hc h ih =>
    cases front with
    | nil =>
      obtain rfl : c :: text = stars := htext
      rw [endsLikeStar_of_stars (.char hc h) hstars (acceptsChar_ne_stretch hc)] at hends
      cases hends
    | cons d front =>
      obtain ⟨rfl, hrest⟩ := List.cons.inj htext
      exact .char hc (ih (endsLikeStar_of_cons hends) hrest hne hstars)

/-- A pattern that leaves out a directory and does not end like a star matches all that is below the
directory. -/
theorem isMatch_below {pattern directory : String} (h : isMatch pattern (directory ++ "/**") = true)
    (hends : endsLikeStar (tokens pattern) = false) {path : String} {below : List Char}
    (hpath : path.toList = directory.toList ++ '/' :: below) : isMatch pattern path = true := by
  unfold isMatch at h ⊢
  have hprobe : (directory ++ "/**").toList = (directory.toList ++ ['/']) ++ ['*', '*'] := by
    rw [String.toList_append, List.append_assoc]
    rfl
  rw [hprobe, accepts_iff] at h
  have hbelow := h.of_stars hends rfl (by simp) (by simp) below
  rw [hpath, accepts_iff]
  rwa [List.append_assoc] at hbelow

end Glob

/-- A directory on the way to a file is left out by a pattern that ends like a star. -/
def LeftOutOnTheWay (exclude names : List String) : Prop :=
  ∃ directory rest, names = directory ++ rest ∧ directory ≠ [] ∧ rest ≠ [] ∧ ∃ pattern ∈ exclude,
    Glob.endsLikeStar (Glob.tokens pattern) = true ∧
      Glob.isMatch pattern (Path.join directory ++ "/**") = true

/-- A directory that is entered unless it is excluded: it is not hidden and not one that is always
skipped. -/
def EnteredUnlessExcluded (name : String) : Prop :=
  name.toList.head? ≠ some '.' ∧ name ≠ "node_modules"

section Names

variable {exclude names : List String}

theorem findsFile_iff_enters : findsFile exclude names = true ↔
    (∀ directory rest, names = directory ++ rest → rest ≠ [] →
      entersDirectory exclude directory = true) ∧
      Glob.excludesFile exclude (Path.normalize (Path.join names)) = false := by
  unfold findsFile
  rw [Bool.and_eq_true, List.all_eq_true, Bool.not_eq_true']
  refine and_congr_left fun _ => ⟨?_, ?_⟩
  · rintro h directory rest rfl hrest
    have hdepth : directory.length < (directory ++ rest).length := by
      rw [List.length_append]
      exact Nat.lt_add_of_pos_right (List.length_pos_of_ne_nil hrest)
    have henters := h directory.length (List.mem_range.2 hdepth)
    rwa [List.take_left] at henters
  · intro h depth hdepth
    refine h _ (names.drop depth) (List.take_append_drop depth names).symm fun hnil => ?_
    have hlength := List.drop_eq_nil_iff.1 hnil
    exact absurd (List.mem_range.1 hdepth) (Nat.not_lt.2 hlength)

theorem entersDirectory_iff {directory : List String}
    (hdirectory : ∀ n ∈ directory, '\\' ∉ n.toList) :
    entersDirectory exclude directory = true ↔ ∀ name ∈ directory.getLast?,
      EnteredUnlessExcluded name ∧
        Glob.excludesDirectory exclude (Path.join directory) = false := by
  unfold entersDirectory EnteredUnlessExcluded
  rw [Path.normalize_join hdirectory]
  cases directory.getLast? with
  | none => simp
  | some name => simp [skippedDirectories]

/-- The names before the last one are those that end a directory on the way. -/
theorem mem_dropLast_iff {name : String} : name ∈ names.dropLast ↔
    ∃ directory rest, names = directory ++ rest ∧ rest ≠ [] ∧ directory.getLast? = some name := by
  constructor
  · intro h
    obtain ⟨before, after, hsplit⟩ := List.append_of_mem h
    have hne : names ≠ [] := by
      rintro rfl
      cases h
    have hlast := List.dropLast_append_getLast hne
    rw [hsplit] at hlast
    exact ⟨before ++ [name], after ++ [names.getLast hne], by simpa using hlast.symm,
      by simp, List.getLast?_concat⟩
  · rintro ⟨directory, rest, rfl, hrest, hname⟩
    rw [List.dropLast_append_of_ne_nil hrest]
    exact List.mem_append_left _ (List.mem_of_getLast? hname)

theorem excludesDirectory_eq_false_iff {directory : String} :
    Glob.excludesDirectory exclude directory = false ↔
    ∀ pattern ∈ exclude, ¬Glob.isMatch pattern (directory ++ "/**") = true := List.any_eq_false

/-- All directories on the way are entered if none of their names keeps one from being entered, and
none of them is excluded. -/
theorem enters_iff (hback : ∀ n ∈ names, '\\' ∉ n.toList) :
    (∀ directory rest, names = directory ++ rest → rest ≠ [] →
      entersDirectory exclude directory = true) ↔
      (∀ name ∈ names.dropLast, EnteredUnlessExcluded name) ∧
        ∀ directory rest, names = directory ++ rest → directory ≠ [] → rest ≠ [] →
          Glob.excludesDirectory exclude (Path.join directory) = false := by
  have hiff : ∀ {directory rest : List String}, names = directory ++ rest →
    (entersDirectory exclude directory = true ↔
      ∀ name ∈ directory.getLast?, EnteredUnlessExcluded name ∧
        Glob.excludesDirectory exclude (Path.join directory) = false) := fun hnames =>
    entersDirectory_iff fun n hn => hback n (hnames ▸ List.mem_append_left _ hn)
  constructor
  · refine fun h => ⟨fun name hname => ?_, fun directory rest hnames hdirectory hrest => ?_⟩
    · obtain ⟨directory, rest, hnames, hrest, hlast⟩ := mem_dropLast_iff.1 hname
      exact ((hiff hnames).1 (h directory rest hnames hrest) name hlast).1
    · exact ((hiff hnames).1 (h directory rest hnames hrest) _
        (List.getLast?_eq_some_getLast hdirectory)).2
  · rintro ⟨hentered, hexcluded⟩ directory rest hnames hrest
    refine (hiff hnames).2 fun name hname =>
      ⟨hentered name (mem_dropLast_iff.2 ⟨_, _, hnames, hrest, hname⟩), ?_⟩
    refine hexcluded directory rest hnames ?_ hrest
    rintro rfl
    cases hname

/-- If no pattern matches a file, the patterns that leave out a directory on the way to it end like
a star. -/
theorem excludesDirectory_iff (hfile : Glob.excludesFile exclude (Path.join names) = false) :
    (∀ directory rest, names = directory ++ rest → directory ≠ [] → rest ≠ [] →
      Glob.excludesDirectory exclude (Path.join directory) = false) ↔
        ¬LeftOutOnTheWay exclude names := by
  constructor
  · rintro h ⟨directory, rest, hnames, hdirectory, hrest, pattern, hin, _, hmatch⟩
    exact excludesDirectory_eq_false_iff.1 (h directory rest hnames hdirectory hrest)
      pattern hin hmatch
  · intro hleft directory rest hnames hdirectory hrest
    refine excludesDirectory_eq_false_iff.2 fun pattern hin hmatch => ?_
    have hends : Glob.endsLikeStar (Glob.tokens pattern) = false := Bool.eq_false_iff.2 fun hends =>
      hleft ⟨directory, rest, hnames, hdirectory, hrest, pattern, hin, hends, hmatch⟩
    have hjoin : (Path.join names).toList = (Path.join directory).toList ++ '/' ::
        (Path.join rest).toList := by
      rw [hnames, Path.join_append hdirectory hrest]
      simp
    unfold Glob.excludesFile at hfile
    exact List.any_eq_false.1 hfile pattern hin (Glob.isMatch_below hmatch hends hjoin)

/-- A file is found if its directories are not hidden or skipped, no pattern matches it, and no
directory on the way is left out by a pattern that ends like a star. -/
theorem findsFile_iff (hback : ∀ n ∈ names, '\\' ∉ n.toList) : findsFile exclude names = true ↔
    (∀ name ∈ names.dropLast, EnteredUnlessExcluded name) ∧
      Glob.excludesFile exclude (Path.join names) = false ∧
      ¬LeftOutOnTheWay exclude names := by
  rw [findsFile_iff_enters, Path.normalize_join hback, enters_iff hback]
  constructor
  · rintro ⟨⟨hentered, hexcluded⟩, hfile⟩
    exact ⟨hentered, hfile, (excludesDirectory_iff hfile).1 hexcluded⟩
  · rintro ⟨hentered, hfile, hleft⟩
    exact ⟨⟨hentered, (excludesDirectory_iff hfile).2 hleft⟩, hfile⟩

end Names

/-- Discovery finds a file if and only if its directories below the root are not hidden or skipped,
no pattern matches its path, and no pattern that ends like a star matches a directory on the way
with two stars below it. -/
theorem mem_foundFiles_iff {fs : FileSystem} (hsound : fs.Sound) {root : Place}
    (hback : ∀ names ∈ fs.filesBelow root, ∀ n ∈ names, '\\' ∉ n.toList)
    (exclude : List String) {names : List String} (hnames : names ∈ fs.filesBelow root) :
    Path.join names ∈ foundFiles fs exclude root ↔
      (∀ name ∈ names.dropLast, name.toList.head? ≠ some '.' ∧ name ≠ "node_modules") ∧
        Glob.excludesFile exclude (Path.join names) = false ∧ ¬LeftOutOnTheWay exclude names := by
  have hfinds : Path.join names ∈ foundFiles fs exclude root ↔ findsFile exclude names = true := by
    unfold foundFiles sortPaths
    rw [List.mem_mergeSort, List.mem_map]
    constructor
    · rintro ⟨others, hothers, hpath⟩
      obtain ⟨hin, hfound⟩ := List.mem_filter.1 hothers
      obtain ⟨hne, hslash⟩ := hsound.slashless_below hin
      obtain ⟨hne', hslash'⟩ := hsound.slashless_below hnames
      rw [normalize_below hback hin] at hpath
      rwa [← Path.segments_join hne' hslash', ← hpath, Path.segments_join hne hslash]
    · exact fun hfound => ⟨names, List.mem_filter.2 ⟨hnames, hfound⟩, normalize_below hback hnames⟩
  rw [hfinds, findsFile_iff (hback names hnames)]
  rfl

theorem not_leftOutOnTheWay {exclude : List String}
    (h : ∀ pattern ∈ exclude, Glob.endsLikeStar (Glob.tokens pattern) = false)
    (names : List String) :
    ¬LeftOutOnTheWay exclude names := by
  rintro ⟨_, _, _, _, _, pattern, hin, hends, _⟩
  rw [h pattern hin] at hends
  cases hends

def scriptInDirectory : FileSystem := ⟨[(["a", "b.mcu.js"], [])], [], [], usualRoom⟩

theorem sound_scriptInDirectory : scriptInDirectory.Sound := by
  refine ⟨?_, ?_⟩
  · show [["a", "b.mcu.js"]].Nodup
    decide
  · simp only [scriptInDirectory, List.forall_mem_cons]
    exact ⟨⟨by decide, by decide, List.forall_mem_nil _⟩, List.forall_mem_nil _⟩

theorem filesBelow_scriptInDirectory :
    scriptInDirectory.filesBelow [] = [["a", "b.mcu.js"]] := by rfl

/-- The pattern does not match the script, and yet it is not found: the pattern matches the two
stars. -/
theorem not_found_in_unmatched_directory :
    ¬("a/b.mcu.js" ∈ foundFiles scriptInDirectory ["a/??"] [] ↔
      (∀ name ∈ ["a", "b.mcu.js"].dropLast, name.toList.head? ≠ some '.' ∧ name ≠ "node_modules") ∧
        Glob.excludesFile ["a/??"] "a/b.mcu.js" = false) := by
  have hnone : foundFiles scriptInDirectory ["a/??"] [] = [] := by
    have hfinds : findsFile ["a/??"] ["a", "b.mcu.js"] = false := by decide
    unfold foundFiles
    rw [filesBelow_scriptInDirectory, List.filter_cons_of_neg (by simp [hfinds])]
    exact List.mergeSort_nil
  rw [hnone]
  decide

theorem mem_foundFiles_iff_scriptInDirectory : scriptInDirectory.Sound ∧
    "a/b.mcu.js" ∈ foundFiles scriptInDirectory ["b/**", "?/*.ts"] [] := by
  have hback : ∀ names ∈ scriptInDirectory.filesBelow [], ∀ n ∈ names, '\\' ∉ n.toList := by
    rw [filesBelow_scriptInDirectory]
    decide
  have hnames : ["a", "b.mcu.js"] ∈ scriptInDirectory.filesBelow [] := by
    rw [filesBelow_scriptInDirectory]
    exact List.mem_cons_self
  exact ⟨sound_scriptInDirectory,
    (mem_foundFiles_iff sound_scriptInDirectory hback ["b/**", "?/*.ts"] hnames).2
    ⟨by decide, by decide, not_leftOutOnTheWay (by decide) _⟩⟩

end TwinNode
