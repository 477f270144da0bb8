import Mathlib.Data.List.Find
import TwinNode.Proofs.Path.Name
import TwinNode.Proofs.Text.LowerCase

/-! A name is its stem and an ending, and the ending in small letters is the suffix of the
name. In the small form of a name, what the stem becomes does not depend on the ending: a
suffix begins with a dot and a letter, and a sigma before it is not at the end of a word,
whichever suffix it is. So names with one stem have small forms with one stem. -/

namespace TwinNode

namespace Text

/-- Before text in which the first character that counts is a letter, any text ends within a
word. -/
theorem meetsCased_append {ending : List Char} (h : meetsCased ending = true) (cs : List Char) :
    meetsCased (cs ++ ending) = (cs.all (inRanges caseIgnorableRanges) || meetsCased cs) := by
  unfold meetsCased at h ⊢
  rw [List.dropWhile_append]
  split
  · next hempty =>
    have hall := List.dropWhile_eq_nil_iff.1 (List.isEmpty_iff.1 hempty)
    rw [h, List.all_eq_true.2 hall, Bool.true_or]
  · next hne =>
    have hall : cs.all (inRanges caseIgnorableRanges) = false := by
      refine Bool.eq_false_iff.2 fun hall => hne ?_
      exact List.isEmpty_iff.2 (List.dropWhile_eq_nil_iff.2 (List.all_eq_true.1 hall))
    rw [hall, Bool.false_or]
    cases hdrop : cs.dropWhile (inRanges caseIgnorableRanges) with
    | nil => exact absurd (List.isEmpty_iff.2 hdrop) hne
    | cons c cs => rfl

/-- The small form of a text does not depend on the ASCII text after it, if this begins with a
letter for all that counts. -/
theorem exists_small (before cs : List Char) : ∃ small, ∀ ending, meetsCased ending = true →
    (∀ c ∈ ending, c.toNat < 0x80) → lowerAfter before (cs ++ ending) =
      small ++ ending.map Char.toLower := by
  induction cs generalizing before with
  | nil => exact ⟨[], fun ending _ hascii => lowerAfter_ascii before ending hascii⟩
  | cons c cs ih =>
    obtain ⟨small, hsmall⟩ := ih (c :: before)
    -- Only the form of a sigma depends on what follows, and there all endings are alike.
    have hstep : ∃ head, ∀ ending, meetsCased ending = true →
        lowerAfter before (c :: (cs ++ ending)) =
          head ++ lowerAfter (c :: before) (cs ++ ending) := by
      refine ⟨if c.toNat < 0x80 then [c.toLower]
        else if c == 'İ' then ['i', '\u0307']
        else if c == 'Σ' then
          [if meetsCased before && !(cs.all (inRanges caseIgnorableRanges) || meetsCased cs)
            then 'ς' else 'σ']
        else [lowerChar c], fun ending hcased => ?_⟩
      rw [lowerAfter, meetsCased_append hcased]
    obtain ⟨head, hhead⟩ := hstep
    refine ⟨head ++ small, fun ending hcased hascii => ?_⟩
    rw [List.cons_append, hhead ending hcased, hsmall ending hcased hascii, List.append_assoc]

end Text

namespace Path

open TwinNode.Text

theorem hasSuffix_of_append {front suffix name : String} (h : front ++ suffix = lowerName name) :
    hasSuffix suffix name = true := by
  have hlist := congrArg String.toList h
  rw [String.toList_append, lowerName, String.toList_ofList] at hlist
  exact List.isSuffixOf_iff_suffix.2 ⟨_, hlist⟩

def suffix? (name : String) : Option String := suffixes.find? (hasSuffix · name)

theorem toList_lowerName (name : String) : (lowerName name).toList = lower name.toList :=
  String.toList_ofList

theorem unshared_suffixes : ∀ suffix ∈ suffixes, ∀ a ∈ suffix.toList, Unshared a ∧
    a.toLower = a := by decide

theorem hasSuffix_lowerName {suffix : String} (hs : suffix ∈ suffixes) (name : String) :
    hasSuffix suffix (lowerName name) = hasSuffix suffix name := by
  unfold hasSuffix
  rw [toList_lowerName]
  exact isSuffixOf_lower_lower (unshared_suffixes suffix hs) name.toList

theorem suffix?_lowerName (name : String) : suffix? (lowerName name) = suffix? name :=
  List.find?_congr fun _ hs => hasSuffix_lowerName hs name

theorem dropEnd_append (front ending : String) :
    dropEnd ending.length (front ++ ending) = front := by
  rw [dropEnd, String.toList_append, List.length_append, String.length_toList,
    String.length_toList, Nat.add_sub_cancel, ← String.length_toList,
      List.take_left, String.ofList_toList]

theorem stem_append {front suffix : String} (h : suffix? (front ++ suffix) = some suffix) :
    stem (front ++ suffix) = front := by
  unfold stem
  rw [show suffixes.find? (hasSuffix · (front ++ suffix)) = some suffix from h]
  exact dropEnd_append front suffix

section Suffix

variable {name suffix : String} (h : suffix? name = some suffix)
include h

theorem hasSuffix_of_suffix? : hasSuffix suffix name = true :=
  List.find?_some (p := (hasSuffix · name)) h

theorem stem_lowerName : stem (lowerName name) = dropEnd suffix.length (lowerName name) := by
  unfold stem
  rw [show suffixes.find? (hasSuffix · (lowerName name)) =
    some suffix from (suffix?_lowerName name).trans h]

theorem exists_eq_append : ∃ front, lowerName name = front ++ suffix := by
  obtain ⟨front, hfront⟩ := List.isSuffixOf_iff_suffix.1 (hasSuffix_of_suffix? h)
  refine ⟨String.ofList front, ?_⟩
  rw [lowerName, ← hfront, String.ofList_append, String.ofList_toList]

theorem stem_of_append {front : String} (hfront : lowerName name = front ++ suffix) :
    stem (lowerName name) = front := by
  rw [stem_lowerName h, hfront, dropEnd_append]

/-- The small form of a name is its stem and its suffix. -/
theorem eq_stem_append : lowerName name = stem (lowerName name) ++ suffix := by
  obtain ⟨front, hfront⟩ := exists_eq_append h
  rw [stem_of_append h hfront, hfront]

end Suffix

theorem suffix?_script {name : String} (h : HostScript name) :
    suffix? name = some scriptSuffix := by
  simp [suffix?, suffixes, h.1, h.2]

theorem hasSuffix_script_of_device {name : String} (h : hasSuffix deviceScriptSuffix name = true) :
    hasSuffix scriptSuffix name = true := by
  have hends : scriptSuffix.toList <:+ deviceScriptSuffix.toList := by decide
  exact List.isSuffixOf_iff_suffix.2 (hends.trans (List.isSuffixOf_iff_suffix.1 h))

theorem suffix?_device {name : String} (h : hasSuffix deviceScriptSuffix name = true) :
    suffix? name = some deviceScriptSuffix := by
  simp [suffix?, suffixes, h]

/-- A name has a suffix if it ends in it and in no other one. -/
theorem suffix?_of_last {suffix name : String} (hs : suffix ∈ suffixes)
    (h : hasSuffix suffix name = true) (hlast : ∀ other ∈ suffixes, other.toList.getLast? =
      suffix.toList.getLast? → other = suffix) :
    suffix? name = some suffix := by
  have hne : ∀ other ∈ suffixes, other.toList ≠ [] := by decide
  obtain ⟨found, hfound⟩ :=
    Option.isSome_iff_exists.1 (List.find?_isSome (p := (hasSuffix · name)).2 ⟨suffix, hs, h⟩)
  have hin : found ∈ suffixes := List.mem_of_find?_eq_some hfound
  have hends := getLast?_of_hasSuffix (hne found hin) (hasSuffix_of_suffix? hfound)
  rw [getLast?_of_hasSuffix (hne suffix hs) h] at hends
  rw [← hlast found hin hends.symm]
  exact hfound

theorem suffix?_of_markup {name suffix : String} (hs : suffix ∈ markupSuffixes)
    (h : hasSuffix suffix name = true) :
    suffix? name = some suffix := by
  have hmarkup : ∀ suffix ∈ markupSuffixes, suffix ∈ suffixes ∧
      ∀ other ∈ suffixes, other.toList.getLast? = suffix.toList.getLast? →
        other = suffix := by decide
  exact suffix?_of_last (hmarkup suffix hs).1 h (hmarkup suffix hs).2

theorem suffix?_markup {name : String} (h : isMarkup name = true) :
    ∃ suffix ∈ markupSuffixes, suffix? name = some suffix := by
  obtain ⟨suffix, hs, hends⟩ := List.any_eq_true.1 h
  exact ⟨suffix, hs, suffix?_of_markup hs hends⟩

section Ending

def ending (name : String) : String := String.ofList (name.toList.drop (stem name).toList.length)

variable {name suffix : String}

theorem exists_split (h : suffix? name = some suffix) :
    ∃ ending, (stem name).toList ++ ending = name.toList ∧
    (∀ c ∈ ending, c.toNat < 0x80) ∧ ending.map Char.toLower = suffix.toList := by
  have hunshared := unshared_suffixes suffix (List.mem_of_find?_eq_some h)
  obtain ⟨front, ending, hsplit, hascii, hending⟩ :=
    exists_ending (fun a ha => (hunshared a ha).1)
      (List.isSuffixOf_iff_suffix.1 (hasSuffix_of_suffix? h))
  have hlength : ending.length = suffix.length := by
    rw [← String.length_toList, ← hending, List.length_map]
  have hstem : (stem name).toList = front := by
    unfold stem
    rw [show suffixes.find? (hasSuffix · name) = some suffix from h]
    show (dropEnd suffix.length name).toList = front
    rw [dropEnd, String.toList_ofList, ← hsplit, List.length_append, hlength,
      Nat.add_sub_cancel, List.take_left]
  exact ⟨ending, hstem ▸ hsplit, hascii, hending⟩

theorem stem_append_ending (name : String) : stem name ++ ending name = name := by
  unfold ending
  cases h : suffix? name with
  | none =>
    have hstem : stem name = name := by
      unfold stem
      rw [show suffixes.find? (hasSuffix · name) = none from h]
    rw [hstem, List.drop_length]
    exact String.append_empty
  | some suffix =>
    obtain ⟨ending, hsplit, _⟩ := exists_split h
    rw [← String.toList_inj, String.toList_append, String.toList_ofList, ← hsplit, List.drop_left]

theorem slash_not_mem_stem (path : String) : '/' ∉ (stem (Path.name path)).toList := by
  intro h
  apply slash_not_mem_name path
  rw [← stem_append_ending (Path.name path), String.toList_append]
  exact List.mem_append_left _ h

/-- The ending of a name is its suffix, up to capital letters. -/
theorem toLower_ending (h : suffix? name = some suffix) :
    (∀ c ∈ (ending name).toList, c.toNat < 0x80) ∧
      (ending name).toList.map Char.toLower = suffix.toList := by
  obtain ⟨ending, hsplit, hascii, hending⟩ := exists_split h
  rw [Path.ending, String.toList_ofList, ← hsplit, List.drop_left]
  exact ⟨hascii, hending⟩

/-- A dot is the small form of no other ASCII character. -/
theorem eq_dot_of_toLower {c : Char} (hascii : c.toNat < 0x80) (h : c.toLower = '.') : c = '.' := by
  have hdots := ascii_forall (p := fun d => d.toLower != '.' || d == '.') (by decide) hascii
  simpa [h] using hdots

set_option maxRecDepth 8000 in
theorem suffix_letters : inRanges caseIgnorableRanges '.' = true ∧
    ∀ c ∈ ['h', 'j', 'm', 'H', 'J', 'M'], inRanges caseIgnorableRanges c = false ∧
      inRanges casedRanges c = true := by decide

/-- In a suffix, whatever capital letters it is written with, the first character that counts is a
letter. -/
theorem meetsCased_of_toLower {ending : List Char} (hs : suffix ∈ suffixes)
    (hascii : ∀ c ∈ ending, c.toNat < 0x80) (hlower : ending.map Char.toLower = suffix.toList) :
    meetsCased ending = true := by
  have hstart : ∀ s ∈ suffixes, ∃ c ∈ ['h', 'j', 'm'], ∃ rest, s.toList = '.' :: c :: rest := by
    simp [suffixes, deviceScriptSuffix, scriptSuffix, markupSuffixes, jsonSuffix]
  obtain ⟨c, hc, rest, hsuffix⟩ := hstart suffix hs
  rw [hsuffix] at hlower
  obtain ⟨dot, more, rfl, hdot, hlower⟩ := List.map_eq_cons_iff.1 hlower
  obtain ⟨letter, more, rfl, rfl, _⟩ := List.map_eq_cons_iff.1 hlower
  obtain rfl := eq_dot_of_toLower (hascii dot (.head _)) hdot
  have hletter : letter ∈ ['h', 'j', 'm', 'H', 'J', 'M'] := by
    have hletters := ascii_forall (p := fun d => !(['h', 'j', 'm'].contains d.toLower) ||
      ['h', 'j', 'm', 'H', 'J', 'M'].contains d) (by decide) (hascii letter (.tail _ (.head _)))
    rw [List.contains_iff_mem.2 hc, Bool.not_true, Bool.false_or] at hletters
    exact List.contains_iff_mem.1 hletters
  -- The dot is passed over, and the letter after it is cased.
  obtain ⟨hcounts, hcased⟩ := suffix_letters.2 letter hletter
  unfold meetsCased
  rw [List.dropWhile_cons_of_pos suffix_letters.1,
    List.dropWhile_cons_of_neg (Bool.eq_false_iff.1 hcounts)]
  exact hcased

/-- In the small form of a name, what comes before the suffix does not depend on which suffix it
is. -/
theorem exists_lowerName_append (front : String) :
    ∃ small : String, ∀ ending suffix : String, suffix ∈ suffixes →
    (∀ c ∈ ending.toList, c.toNat < 0x80) → ending.toList.map Char.toLower = suffix.toList →
      lowerName (front ++ ending) = small ++ suffix := by
  obtain ⟨small, hsmall⟩ := exists_small [] front.toList
  refine ⟨String.ofList small, fun ending suffix hs hascii hlower => ?_⟩
  have hform := hsmall ending.toList (meetsCased_of_toLower hs hascii hlower) hascii
  rw [hlower] at hform
  rw [lowerName, lower, String.toList_append, hform, String.ofList_append, String.ofList_toList]

theorem toLower_suffix : ∀ suffix ∈ suffixes, (∀ c ∈ suffix.toList, c.toNat < 0x80) ∧
    suffix.toList.map Char.toLower = suffix.toList := by decide

/-- A suffix in small letters instead of the ending of a name makes no difference to the small form
of the name. -/
theorem lowerName_stem_append (h : suffix? name = some suffix) :
    lowerName (stem name ++ suffix) = lowerName name := by
  have hs : suffix ∈ suffixes := List.mem_of_find?_eq_some h
  obtain ⟨small, hsmall⟩ := exists_lowerName_append (stem name)
  have hname := hsmall (ending name) suffix hs (toLower_ending h).1 (toLower_ending h).2
  rw [stem_append_ending] at hname
  rw [hname, hsmall suffix suffix hs (toLower_suffix suffix hs).1 (toLower_suffix suffix hs).2]

theorem hasSuffix_append_suffix (hs : suffix ∈ suffixes) (front : String) :
    hasSuffix suffix (front ++ suffix) = true := by
  obtain ⟨small, hsmall⟩ := exists_lowerName_append front
  exact hasSuffix_of_append (hsmall suffix suffix hs (toLower_suffix suffix hs).1
    (toLower_suffix suffix hs).2).symm

/-- Names with one small form have the same suffixes. -/
theorem hasSuffix_congr {other : String} (h : lowerName name = lowerName other) (suffix : String) :
    hasSuffix suffix name = hasSuffix suffix other := by
  unfold hasSuffix
  rw [← toList_lowerName, ← toList_lowerName, h]

/-- The small forms of names with one stem have one stem, if they have a suffix at all. -/
theorem stem_lowerName_eq {other suffix' : String} (h : suffix? name = some suffix)
    (h' : suffix? other = some suffix') (hstem : stem name = stem other) :
    stem (lowerName name) = stem (lowerName other) := by
  obtain ⟨small, hsmall⟩ := exists_lowerName_append (stem name)
  have hfront : ∀ {n s : String}, suffix? n = some s → stem n = stem name →
      stem (lowerName n) = small := by
    intro n s hs hn
    have hform :=
      hsmall (ending n) s (List.mem_of_find?_eq_some hs) (toLower_ending hs).1 (toLower_ending hs).2
    rw [← hn, stem_append_ending] at hform
    exact stem_of_append hs hform
  rw [hfront h rfl, hfront h' hstem.symm]

end Ending

end Path

end TwinNode
