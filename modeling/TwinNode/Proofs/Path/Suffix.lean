import Mathlib.Data.List.Find
import TwinNode.Path.Name
import TwinNode.Proofs.Text.PlainName

namespace TwinNode.Path

open TwinNode.Text

def Dotless (text : String) : Prop := ∀ c ∈ text.toList, c.toNat < 128 ∧ c ≠ '.'

theorem Dotless.of_plain {name : String} (h : PlainName name) : Dotless name := fun c hc =>
  ⟨toNat_lt_of_plain (h.plain c hc), plain_ne (h.plain c hc) rfl⟩

theorem lower_append {text more : String} (h : ∀ c ∈ text.toList, c.toNat < 128)
    (hm : ∀ c ∈ more.toList, c.toNat < 128) :
    lower (text ++ more).toList = text.toList.map Char.toLower ++ more.toList.map Char.toLower := by
  rw [lower_ascii, String.toList_append, List.map_append]
  intro c hc
  rw [String.toList_append, List.mem_append] at hc
  exact hc.elim (h c) (hm c)

theorem toLower_ne_dot {c : Char} (hc : c.toNat < 128 ∧ c ≠ '.') : c.toLower ≠ '.' := by
  have h := ascii_forall (p := fun d => d == '.' || d.toLower != '.') (by decide) hc.1
  simpa [hc.2] using h

/-- A suffix of dotless text with something after it is a suffix of what comes after it. -/
theorem hasSuffix_append {stem more suffix : String} (h : Dotless stem)
    (hm : ∀ c ∈ more.toList, c.toNat < 128) (hs : suffix.toList.head? = some '.') :
    hasSuffix suffix (stem ++ more) = suffix.toList.isSuffixOf (more.toList.map Char.toLower) := by
  unfold hasSuffix
  rw [lower_append (fun c hc => (h c hc).1) hm, Bool.eq_iff_iff, List.isSuffixOf_iff_suffix,
    List.isSuffixOf_iff_suffix]
  constructor
  · rintro ⟨before, hbefore⟩
    rcases List.append_eq_append_iff.1 hbefore with ⟨mid, hmid, hsuffix⟩ | ⟨mid, _, hmore⟩
    · cases mid with
      | nil => exact ⟨[], hsuffix.symm ▸ rfl⟩
      | cons c mid =>
        exfalso
        have hdot : c = '.' := by
          rw [hsuffix] at hs
          exact Option.some.inj hs
        have hin : c ∈ stem.toList.map Char.toLower := by
          rw [hmid]
          simp
        obtain ⟨d, hd, rfl⟩ := List.mem_map.1 hin
        exact toLower_ne_dot (h d hd) hdot
    · exact ⟨mid, hmore.symm⟩
  · rintro ⟨before, hbefore⟩
    exact ⟨stem.toList.map Char.toLower ++ before, by rw [List.append_assoc, hbefore]⟩

def nodeSuffixes : List String := [".js", ".mcu.js", ".html", ".json"]

theorem nodeSuffixes_lower : ∀ ext ∈ nodeSuffixes, (∀ c ∈ ext.toList, c.toNat < 128) ∧
    ext.toList.map Char.toLower = ext.toList ∧
      suffixes.find? (fun s => s.toList.isSuffixOf ext.toList) = some ext := by
  decide

theorem suffixes_dotted : ∀ suffix ∈ suffixes, suffix.toList.head? = some '.' := by
  decide

section Node

variable {text ext : String} (h : Dotless text) (he : ext ∈ nodeSuffixes)
include h he

theorem hasSuffix_node {suffix : String} (hs : suffix ∈ suffixes) :
    hasSuffix suffix (text ++ ext) = suffix.toList.isSuffixOf ext.toList := by
  obtain ⟨hascii, hlower, _⟩ := nodeSuffixes_lower ext he
  rw [hasSuffix_append h hascii (suffixes_dotted suffix hs), hlower]

theorem stem_node : stem (text ++ ext) = text := by
  obtain ⟨_, _, hfind⟩ := nodeSuffixes_lower ext he
  have hsame : suffixes.find? (hasSuffix · (text ++ ext)) = some ext := by
    rw [← hfind]
    exact List.find?_congr fun suffix hs => hasSuffix_node h he hs
  unfold stem dropEnd
  rw [hsame]
  dsimp only
  rw [String.toList_append, List.length_append, String.length_toList,
    String.length_toList, Nat.add_sub_cancel, ← String.length_toList,
      List.take_left, String.ofList_toList]

end Node

theorem lowerName_append {text ext : String} (h : PlainName text) (he : ext ∈ nodeSuffixes) :
    lowerName (text ++ ext) = lowerName text ++ ext := by
  obtain ⟨hascii, hlower, _⟩ := nodeSuffixes_lower ext he
  have hplain : ∀ c ∈ text.toList, c.toNat < 128 := fun c hc => toNat_lt_of_plain (h.plain c hc)
  unfold lowerName
  rw [lower_append hplain hascii, lower_ascii _ hplain, hlower,
    String.ofList_append, String.ofList_toList]

theorem plain_lowerName {text : String} (h : PlainName text) : PlainName (lowerName text) := by
  have hlower : (lowerName text).toList = text.toList.map Char.toLower := by
    rw [lowerName, String.toList_ofList, h.lower]
  constructor
  · intro hempty
    rw [hempty] at hlower
    exact h.toList_ne_nil (List.map_eq_nil_iff.1 hlower.symm)
  · intro c hc
    rw [hlower] at hc
    obtain ⟨d, hd, rfl⟩ := List.mem_map.1 hc
    exact plain_toLower (h.plain d hd)

end TwinNode.Path
