import Mathlib.Tactic.SplitIfs
import TwinNode.Package.Classify
import TwinNode.Proofs.Path.Ending

namespace TwinNode

open TwinNode.Path (suffix? HostScript)

/-- The suffixes that pair with a suffix: those of scripts with those of markup, and that of host
scripts also with that of device scripts. -/
def pairedSuffixes (suffix : String) : List String :=
  if suffix ∈ Path.markupSuffixes then [Path.scriptSuffix, Path.deviceScriptSuffix]
  else if suffix = Path.scriptSuffix then Path.markupSuffixes ++ [Path.deviceScriptSuffix]
  else []

/-- Pairing goes both ways, except that a device script needs no other file. -/
theorem pairedSuffixes_symm : ∀ suffix ∈ Path.suffixes, ∀ other ∈ pairedSuffixes suffix,
    other = Path.deviceScriptSuffix ∨
      (other = Path.scriptSuffix ∨ other ∈ Path.markupSuffixes) ∧
        suffix ∈ pairedSuffixes other := by decide

theorem mem_of_pairedSuffixes {suffix other : String} (h : other ∈ pairedSuffixes suffix) :
    suffix ∈ Path.markupSuffixes ∨ suffix = Path.scriptSuffix := by
  unfold pairedSuffixes at h
  split_ifs at h with hmarkup hscript
  · exact .inl hmarkup
  · exact .inr hscript
  · cases h

/-- Whether a name in small letters is that of a file that pairs with one of the given name. -/
def PairsWith (name lowered : String) : Prop :=
  ∃ suffix, suffix? name = some suffix ∧ ∃ other ∈ pairedSuffixes suffix,
    Path.stem (Path.lowerName name) ++ other = lowered

theorem PairsWith.markup_or_script {name lowered : String} (h : PairsWith name lowered) :
    Path.isMarkup name = true ∨ Path.hasSuffix Path.scriptSuffix name = true := by
  obtain ⟨suffix, hsuffix, other, hother, _⟩ := h
  have hends := Path.hasSuffix_of_suffix? hsuffix
  rcases mem_of_pairedSuffixes hother with hmarkup | rfl
  · exact .inl (List.any_eq_true.2 ⟨suffix, hmarkup, hends⟩)
  · exact .inr hends

/-- Of two files that pair, each pairs with the other, or the other one is a device script. -/
theorem PairsWith.symm {name other : String} (h : PairsWith name (Path.lowerName other)) :
    Path.hasSuffix Path.deviceScriptSuffix other = true ∨
      PairsWith other (Path.lowerName name) := by
  obtain ⟨suffix, hsuffix, ending, hending, hlower⟩ := h
  have hends := Path.hasSuffix_of_append hlower
  cases hdevice : Path.hasSuffix Path.deviceScriptSuffix other with
  | true => exact .inl rfl
  | false =>
    refine .inr ?_
    rcases pairedSuffixes_symm suffix (List.mem_of_find?_eq_some hsuffix) ending hending
      with rfl | ⟨hkind, hback⟩
    · rw [hends] at hdevice
      cases hdevice
    · -- The other file has the ending for its suffix, so that the two have one stem.
      have hother : suffix? other = some ending := by
        rcases hkind with rfl | hmarkup
        · exact Path.suffix?_script ⟨hends, hdevice⟩
        · exact Path.suffix?_of_markup hmarkup hends
      refine ⟨ending, hother, suffix, hback, ?_⟩
      rw [Path.stem_of_append hother hlower.symm, ← Path.eq_stem_append hsuffix]

end TwinNode
