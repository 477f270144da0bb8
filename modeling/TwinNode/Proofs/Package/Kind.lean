import TwinNode.Proofs.Package.Pairing

/-! The name of a file and its directories say of which kind it is, if it is part of a
package. For most kinds this is all. But markup and scripts for the host are also found
outside of nodes: they count only next to a file that they pair with, or if the descriptor
names them. -/

namespace TwinNode

open TwinNode.Path (suffix? HostScript)

/-- The kind of a file by its name and its directories, if it is part of a package. -/
def kindOfPath? (path : String) : Option ArtifactKind :=
  let name := Path.name path
  if path = descriptorName then some .descriptor
  else if (Path.segments (Path.directory path)).contains localesDirectory &&
      (Path.hasSuffix Path.jsonSuffix name || Path.isMarkup name) then some .localeBundle
  else if Path.hasSuffix Path.deviceScriptSuffix name then some .deviceScript
  else if Path.lowerName name = manifestName then some .manifest
  else if Path.isMarkup name then some .editorMarkup
  else if Path.hasSuffix Path.scriptSuffix name then some .hostStub
  else none

/-- Markup for a language is not that of a node. -/
def LocalePage (path : String) : Prop :=
  Path.isMarkup (Path.name path) = true ∧ localesDirectory ∈ Path.segments (Path.directory path)

instance (path : String) : Decidable (LocalePage path) := inferInstanceAs (Decidable (_ ∧ _))

/-- Whether files of a kind are also found outside of nodes. -/
def ArtifactKind.needsNode : ArtifactKind → Bool
  | hostStub | editorMarkup => true
  | deviceScript | descriptor | manifest | localeBundle => false

/-- Among the names in small letters next to a file is one that it pairs with. -/
def Beside (siblings : String → List String) (path : String) : Prop :=
  ∃ lowered ∈ siblings (Path.directory path), PairsWith (Path.name path) lowered

/-- The path of the host stub that a markup file goes with. -/
def stubBeside (path : String) : String :=
  Path.dropEnd (Path.name path).length path ++ Path.stem (Path.name path) ++ Path.scriptSuffix

/-- References name a file: a script by its path, and markup by the host stub or the device script
it goes with. -/
def NamedBy (referenced : List String) (path : String) : ArtifactKind → Prop
  | .hostStub => path ∈ referenced
  | .editorMarkup => stubBeside path ∈ referenced.map Path.stubPath
  | _ => False

section Classify

variable {siblings others : String → List String} {referenced : List String}
  {path : String} {kind : ArtifactKind}

theorem any_contains_iff {suffix : String} (h : suffix? (Path.name path) = some suffix)
    {paired : List String} (hpaired : pairedSuffixes suffix = paired) :
    (paired.any fun other =>
      (siblings (Path.directory path)).contains
        (Path.stem (Path.lowerName (Path.name path)) ++ other)) = true ↔
      Beside siblings path := by
  subst hpaired
  rw [List.any_eq_true]
  constructor
  · rintro ⟨other, hother, hin⟩
    exact ⟨_, List.contains_iff_mem.1 hin, suffix, h, other, hother, rfl⟩
  · rintro ⟨lowered, hin, found, hfound, other, hother, rfl⟩
    obtain rfl := Option.some.inj (h.symm.trans hfound)
    exact ⟨other, hother, List.contains_iff_mem.2 hin⟩

theorem markup_counts_iff (h : Path.isMarkup (Path.name path) = true) :
    (([Path.scriptSuffix, Path.deviceScriptSuffix].any fun other =>
        (siblings (Path.directory path)).contains
          (Path.stem (Path.lowerName (Path.name path)) ++ other)) ||
      (referenced.map Path.stubPath).contains
        (Path.dropEnd (Path.name path).length path ++ Path.stem (Path.name path) ++
          Path.scriptSuffix)) = true ↔
      Beside siblings path ∨ NamedBy referenced path .editorMarkup := by
  obtain ⟨suffix, hin, hsuffix⟩ := Path.suffix?_markup h
  rw [Bool.or_eq_true, any_contains_iff hsuffix (if_pos hin), List.contains_iff_mem]
  rfl

theorem script_counts_iff (h : HostScript (Path.name path)) :
    (((Path.markupSuffixes ++ [Path.deviceScriptSuffix]).any fun other =>
        (siblings (Path.directory path)).contains
          (Path.stem (Path.lowerName (Path.name path)) ++ other)) ||
      referenced.contains path) = true ↔ Beside siblings path ∨
        NamedBy referenced path .hostStub := by
  have hpaired : pairedSuffixes Path.scriptSuffix = Path.markupSuffixes ++
      [Path.deviceScriptSuffix] := rfl
  rw [Bool.or_eq_true, any_contains_iff (Path.suffix?_script h) hpaired, List.contains_iff_mem]
  rfl

/-- A file is of the kind that its path says, if files of this kind need no node or the file is part
of one. -/
theorem classify_eq_some_iff : classify siblings referenced path = some kind ↔
    kindOfPath? path = some kind ∧ (kind.needsNode = true → Beside siblings path ∨
      NamedBy referenced path kind) := by
  have needless : ∀ {k : ArtifactKind}, k.needsNode = false →
    (some k = some kind ↔ some k = some kind ∧
      (kind.needsNode = true → Beside siblings path ∨ NamedBy referenced path kind)) := by
    intro k hk
    refine (and_iff_left_of_imp ?_).symm
    rintro heq hneeds
    obtain rfl := Option.some.inj heq
    rw [hk] at hneeds
    cases hneeds
  have needed : ∀ {k : ArtifactKind} {counts : Bool}, k.needsNode = true →
      (counts = true ↔ Beside siblings path ∨ NamedBy referenced path k) →
      ((if counts = true then some k else none) = some kind ↔ some k = some kind ∧
        (kind.needsNode = true → Beside siblings path ∨ NamedBy referenced path kind)) := by
    intro k counts hk hcounts
    rw [Option.ite_none_right_eq_some, hcounts]
    constructor
    · rintro ⟨hpart, heq⟩
      exact ⟨heq, fun _ => Option.some.inj heq ▸ hpart⟩
    · rintro ⟨heq, hpart⟩
      obtain rfl := Option.some.inj heq
      exact ⟨hpart hk, heq⟩
  unfold classify kindOfPath?
  dsimp only
  by_cases hdescriptor : path = descriptorName
  · simpa only [hdescriptor, if_true] using needless rfl
  rw [if_neg hdescriptor, if_neg hdescriptor]
  split
  · exact needless rfl
  split
  · exact needless rfl
  next hdevice =>
  split
  · exact needless rfl
  split
  · next hmarkup => exact needed rfl (markup_counts_iff hmarkup)
  split
  · next hscript => exact needed rfl (script_counts_iff ⟨hscript, Bool.eq_false_iff.2 hdevice⟩)
  · simp

/-- With more files next to it and more references, a file that is of a kind is still of this
kind. -/
theorem classify_mono {more : List String}
    (hsiblings : siblings (Path.directory path) ⊆ others (Path.directory path))
    (hreferenced : referenced ⊆ more) (h : classify siblings referenced path = some kind) :
    classify others more path = some kind := by
  rw [classify_eq_some_iff] at h ⊢
  refine ⟨h.1, fun hneeds => ?_⟩
  rcases h.2 hneeds with ⟨lowered, hin, hpairs⟩ | hnamed
  · exact .inl ⟨lowered, hsiblings hin, hpairs⟩
  · refine .inr ?_
    cases kind with
    | hostStub => exact hreferenced hnamed
    | editorMarkup => exact List.map_subset Path.stubPath hreferenced hnamed
    | deviceScript | descriptor | manifest | localeBundle => exact hnamed

/-- Of the names in its directory, the kind of a file depends on those it pairs with only. -/
theorem classify_congr (h : ∀ lowered, PairsWith (Path.name path) lowered →
    (lowered ∈ others (Path.directory path) ↔ lowered ∈ siblings (Path.directory path))) :
    classify others referenced path = classify siblings referenced path := by
  have hbeside : Beside others path ↔ Beside siblings path :=
    exists_congr fun lowered => and_congr_left fun hpairs => h lowered hpairs
  ext kind
  rw [classify_eq_some_iff, classify_eq_some_iff, hbeside]

theorem classify_of_beside (h : Beside siblings path) :
    classify siblings referenced path = kindOfPath? path := by
  ext kind
  rw [classify_eq_some_iff]
  exact and_iff_left fun _ => .inl h

section KindOfPath

theorem script_only (h : Path.hasSuffix Path.scriptSuffix (Path.name path) = true) :
    path ≠ descriptorName ∧ Path.hasSuffix Path.jsonSuffix (Path.name path) = false ∧
      Path.isMarkup (Path.name path) = false ∧ Path.lowerName (Path.name path) ≠ manifestName := by
  refine ⟨?_, Path.hasSuffix_script h (by decide) (by decide), Path.isMarkup_script h,
    Path.lowerName_script h (by decide)⟩
  rintro rfl
  exact absurd h (by decide)

theorem markup_only (h : Path.isMarkup (Path.name path) = true) :
    path ≠ descriptorName ∧ Path.hasSuffix Path.scriptSuffix (Path.name path) = false ∧
      Path.hasSuffix Path.deviceScriptSuffix (Path.name path) = false ∧
        Path.lowerName (Path.name path) ≠ manifestName := by
  have hscript : ¬Path.hasSuffix Path.scriptSuffix (Path.name path) = true := fun hs => by
    rw [Path.isMarkup_script hs] at h
    cases h
  refine ⟨?_, Bool.eq_false_iff.2 hscript, Bool.eq_false_iff.2
    (mt Path.hasSuffix_script_of_device hscript), fun heq => ?_⟩
  · rintro rfl
    exact absurd h (by decide)
  · have hends :
        Path.markupSuffixes.any (fun suffix => suffix.toList.isSuffixOf manifestName.toList) =
          true := by
      rw [← heq, Path.toList_lowerName]
      exact h
    exact absurd hends (by decide)

theorem kindOfPath?_device : kindOfPath? path = some .deviceScript ↔
    Path.hasSuffix Path.deviceScriptSuffix (Path.name path) = true := by
  unfold kindOfPath?
  dsimp only
  constructor
  · intro h
    split_ifs at h with _ _ hdevice <;> cases h
    exact hdevice
  · intro h
    obtain ⟨hdescriptor, hjson, hmarkup, _⟩ := script_only (Path.hasSuffix_script_of_device h)
    simp [hdescriptor, hjson, hmarkup, h]

theorem kindOfPath?_hostStub : kindOfPath? path = some .hostStub ↔ HostScript (Path.name path) := by
  unfold kindOfPath?
  dsimp only
  constructor
  · intro h
    split_ifs at h with _ _ hdevice _ _ hscript <;> cases h
    exact ⟨hscript, Bool.eq_false_iff.2 hdevice⟩
  · rintro ⟨hscript, hdevice⟩
    obtain ⟨hdescriptor, hjson, hmarkup, hmanifest⟩ := script_only hscript
    simp [hdescriptor, hjson, hmarkup, hmanifest, hdevice, hscript]

theorem kindOfPath?_markup : kindOfPath? path = some .editorMarkup ↔
    Path.isMarkup (Path.name path) = true ∧ localesDirectory ∉
      Path.segments (Path.directory path) := by
  unfold kindOfPath?
  dsimp only
  constructor
  · intro h
    split_ifs at h with _ hlocale _ _ hmarkup <;> cases h
    exact ⟨hmarkup, fun hin => hlocale (by simp [hin, hmarkup])⟩
  · rintro ⟨hmarkup, hlocale⟩
    obtain ⟨hdescriptor, _, hdevice, hmanifest⟩ := markup_only hmarkup
    simp [hdescriptor, hlocale, hdevice, hmanifest, hmarkup]

theorem kindOfPath?_localePage (h : LocalePage path) : kindOfPath? path = some .localeBundle := by
  unfold kindOfPath?
  simp [(markup_only h.1).1, h.1, h.2]

theorem kindOfPath?_descriptor : kindOfPath? path = some .descriptor ↔ path = descriptorName := by
  unfold kindOfPath?
  dsimp only
  split_ifs <;> simp_all

theorem kindOfPath?_ne_none (h : Path.isMarkup (Path.name path) = true ∨
    Path.hasSuffix Path.scriptSuffix (Path.name path) = true) : kindOfPath? path ≠ none := by
  unfold kindOfPath?
  dsimp only
  rcases h with h | h
  · rw [h, if_pos rfl]
    split_ifs <;> simp
  · rw [if_pos h]
    split_ifs <;> simp

end KindOfPath

/-- A file that is left out does not make another file part of a node: the kind of the other one is
the same without the name of the first. -/
theorem classify_eq_of_left_out {other : String} (hleft : classify others referenced other = none)
    (hpath : Path.lowerName (Path.name path) ∈ others (Path.directory path))
    (hmore : ∀ directory lowered, lowered ∈ others directory ↔ lowered ∈ siblings directory ∨
      directory = Path.directory other ∧ lowered = Path.lowerName (Path.name other)) :
    classify others referenced path = classify siblings referenced path := by
  refine classify_congr fun lowered hpairs => ?_
  rw [hmore]
  refine or_iff_left ?_
  rintro ⟨hdirectory, rfl⟩
  rw [hdirectory] at hpath
  rcases hpairs.symm with hdevice | hback
  · have hkind : classify others referenced other = some .deviceScript :=
      classify_eq_some_iff.2 ⟨kindOfPath?_device.2 hdevice, nofun⟩
    rw [hleft] at hkind
    cases hkind
  · rw [classify_of_beside ⟨_, hpath, hback⟩] at hleft
    exact kindOfPath?_ne_none hback.markup_or_script hleft

end Classify

/-- A path that is JSON by its kind and its suffix. -/
def JsonFile (path : String) : Prop :=
  (∃ kind, kindOfPath? path = some kind ∧ kind.isJson = true) ∧
    Path.hasSuffix Path.jsonSuffix path = true

theorem JsonFile.classify {path : String} (h : JsonFile path) (siblings : String → List String)
    (referenced : List String) :
    ∃ kind, TwinNode.classify siblings referenced path = some kind ∧ kind.isJson = true := by
  obtain ⟨⟨kind, hpath, hkind⟩, _⟩ := h
  have hneedless : kind.needsNode = false := by
    cases kind with
    | hostStub | editorMarkup | deviceScript => cases hkind
    | descriptor | manifest | localeBundle => rfl
  refine ⟨kind, classify_eq_some_iff.2 ⟨hpath, fun hneeds => ?_⟩, hkind⟩
  rw [hneedless] at hneeds
  cases hneeds

end TwinNode
