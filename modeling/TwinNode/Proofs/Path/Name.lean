import Mathlib.Data.List.Basic
import Mathlib.Data.List.TakeWhile
import TwinNode.Path.Name

namespace TwinNode.Path

open TwinNode.Text

theorem exists_lowerAfter_append (before cs ds : List Char) :
    ∃ front, lowerAfter before (cs ++ ds) = front ++ lowerAfter (cs.reverse ++ before) ds := by
  induction cs generalizing before with
  | nil => exact ⟨[], rfl⟩
  | cons c cs ih =>
    obtain ⟨front, hfront⟩ := ih (c :: before)
    rw [List.cons_append, lowerAfter, hfront, List.reverse_cons,
      List.append_assoc, List.singleton_append]
    exact ⟨_, (List.append_assoc _ _ _).symm⟩

set_option maxRecDepth 8000 in
theorem slash_not_caseIgnorable : inRanges caseIgnorableRanges '/' = false := by decide

/-- No letter before a slash has an effect on a sigma after it. -/
theorem meetsCased_slash (front before : List Char) :
    meetsCased (front ++ '/' :: before) = meetsCased front := by
  have hcased : inRanges casedRanges '/' = false := by decide
  unfold meetsCased
  rw [List.dropWhile_append]
  split
  · next hempty =>
    rw [List.isEmpty_iff.1 hempty, List.dropWhile_cons, slash_not_caseIgnorable]
    simp [hcased]
  · next hne =>
    cases hdrop : front.dropWhile (inRanges caseIgnorableRanges) with
    | nil => exact absurd (List.isEmpty_iff.2 hdrop) hne
    | cons c cs => rfl

theorem lowerAfter_slash (front before cs : List Char) :
    lowerAfter (front ++ '/' :: before) cs = lowerAfter front cs := by
  induction cs generalizing front with
  | nil => rfl
  | cons c cs ih =>
    rw [lowerAfter, lowerAfter, meetsCased_slash, ← List.cons_append, ih]

/-- The small form of a path ends in a slash and the small form of its name, if there is a slash in
the path. -/
theorem lower_path {path : List Char} (h : '/' ∈ path) :
    ∃ front, lower path = front ++ '/' :: lower (nameChars path) := by
  obtain ⟨front, hfront⟩ :=
    exists_lowerAfter_append [] (directoryChars path) ('/' :: nameChars path)
  rw [directoryChars_append_nameChars h] at hfront
  have hname := lowerAfter_slash [] ((directoryChars path).reverse ++ []) (nameChars path)
  have hslash : lowerAfter ((directoryChars path).reverse ++ []) ('/' :: nameChars path) =
      '/' :: lowerAfter ('/' :: ((directoryChars path).reverse ++ [])) (nameChars path) := rfl
  rw [hslash] at hfront
  rw [List.nil_append] at hname
  exact ⟨front, hfront.trans (by rw [hname]; rfl)⟩

theorem nameChars_eq_self {path : List Char} (h : '/' ∉ path) : nameChars path = path := by
  have htake : path.reverse.takeWhile (· != '/') = path.reverse := by
    refine List.takeWhile_eq_self_iff.2 fun c hc => ?_
    rw [bne_iff_ne]
    rintro rfl
    exact h (List.mem_reverse.1 hc)
  rw [nameChars, htake, List.reverse_reverse]

theorem slash_not_mem_name (path : String) : '/' ∉ (name path).toList := by
  unfold name
  rw [String.toList_ofList]
  exact slash_not_mem_nameChars _

theorem hasSuffix_name {suffix : String} (h : '/' ∉ suffix.toList) (path : String) :
    hasSuffix suffix (name path) = hasSuffix suffix path := by
  unfold hasSuffix name
  rw [String.toList_ofList]
  by_cases hslash : '/' ∈ path.toList
  · obtain ⟨front, hfront⟩ := lower_path hslash
    rw [hfront, Bool.eq_iff_iff, List.isSuffixOf_iff_suffix, List.isSuffixOf_iff_suffix]
    constructor
    · rintro ⟨before, hbefore⟩
      exact ⟨front ++ '/' :: before, by rw [← hbefore]; simp⟩
    · rintro ⟨before, hbefore⟩
      rcases List.append_eq_append_iff.1 hbefore with ⟨mid, _, hsuffix⟩ | ⟨mid, _, hrest⟩
      · exact absurd (hsuffix ▸ List.mem_append_right mid List.mem_cons_self) h
      · cases mid with
        | nil =>
          rw [List.nil_append] at hrest
          exact absurd (hrest ▸ List.mem_cons_self) h
        | cons c mid => exact ⟨mid, (List.cons.inj hrest).2.symm⟩
  · rw [nameChars_eq_self hslash]

/-- All suffixes of a name end in one character. -/
theorem getLast?_of_hasSuffix {suffix name : String} (hne : suffix.toList ≠ [])
    (h : hasSuffix suffix name = true) :
    (lower name.toList).getLast? = suffix.toList.getLast? := by
  obtain ⟨before, hbefore⟩ := List.isSuffixOf_iff_suffix.1 h
  rw [← hbefore, List.getLast?_append_of_ne_nil _ hne]

/-- The name of a script that is not for devices. -/
def HostScript (name : String) : Prop :=
  hasSuffix scriptSuffix name = true ∧ hasSuffix deviceScriptSuffix name = false

section Script

variable {name : String} (h : hasSuffix scriptSuffix name = true)
include h

theorem getLast?_script : (lower name.toList).getLast? = some 's' :=
  getLast?_of_hasSuffix (by decide) h

theorem hasSuffix_script {suffix : String} (hne : suffix.toList ≠ [])
    (hend : suffix.toList.getLast? ≠ some 's') :
    hasSuffix suffix name = false := by
  cases hs : hasSuffix suffix name with
  | false => rfl
  | true => exact absurd ((getLast?_of_hasSuffix hne hs).symm.trans (getLast?_script h)) hend

theorem isMarkup_script : isMarkup name = false := by
  have hends : ∀ suffix ∈ markupSuffixes, suffix.toList ≠ [] ∧
      suffix.toList.getLast? ≠ some 's' := by decide
  unfold isMarkup
  rw [List.any_eq_false]
  intro suffix hs
  rw [hasSuffix_script h (hends suffix hs).1 (hends suffix hs).2]
  exact Bool.false_ne_true

theorem lowerName_script {other : String} (ho : other.toList.getLast? ≠ some 's') :
    lowerName name ≠ other := by
  rintro rfl
  rw [lowerName, String.toList_ofList] at ho
  exact ho (getLast?_script h)

end Script

end TwinNode.Path
