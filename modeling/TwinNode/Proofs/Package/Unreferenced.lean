import TwinNode.Proofs.Package.Partners
import TwinNode.Proofs.Path.Segments
import TwinNode.Proofs.Rule.Descriptor

/-! A reference makes a host script part of a package, and so does it with the markup of
which it names the host stub. But where all references name host stubs that are there, no
markup needs them: the stub that is named stands next to it. And host stubs with one stem
need them all or none, because it is by the stem that a script pairs with other files. -/

namespace TwinNode

open TwinNode.Path (suffix? HostScript)

section Stub

variable (path : String)

theorem slash_not_mem_stub : '/' ∉ (Path.stem (Path.name path) ++ Path.scriptSuffix).toList := by
  have hname := Path.slash_not_mem_name path
  rw [← Path.stem_append_ending (Path.name path), String.toList_append,
    List.mem_append, not_or] at hname
  rw [String.toList_append, List.mem_append, not_or]
  exact ⟨hname.1, by decide⟩

theorem directory_stubBeside : Path.directory (stubBeside path) = Path.directory path := by
  unfold stubBeside
  rw [String.append_assoc]
  exact (Path.directory_dropEnd (slash_not_mem_stub path)).1

theorem name_stubBeside : Path.name (stubBeside path) = Path.stem
    (Path.name path) ++ Path.scriptSuffix := by
  unfold stubBeside
  rw [String.append_assoc]
  exact (Path.directory_dropEnd (slash_not_mem_stub path)).2

variable {path}

theorem pairsWith_stubBeside (hmarkup : Path.isMarkup (Path.name path) = true)
    (hscript : HostScript (Path.name (stubBeside path))) :
    PairsWith (Path.name path) (Path.lowerName (Path.name (stubBeside path))) := by
  have hstub := Path.suffix?_script hscript
  obtain ⟨suffix, hin, hsuffix⟩ := Path.suffix?_markup hmarkup
  have hstem : Path.stem (Path.name path) = Path.stem (Path.name (stubBeside path)) := by
    rw [name_stubBeside] at hstub ⊢
    rw [Path.stem_append hstub]
  refine ⟨suffix, hsuffix, Path.scriptSuffix, ?_, ?_⟩
  · rw [pairedSuffixes, if_pos hin]
    exact List.mem_cons_self
  · rw [Path.stem_lowerName_eq hsuffix hstub hstem, ← Path.eq_stem_append hstub]

end Stub

section Discovered

variable {fs : FileSystem} {root : Path.Location} {exclude : List String} {workers : Int}
  {p : Package} {place : Place} (h : discover fs root exclude workers = .ok p)
  (hroot : checkRoot fs root = .ok place) {a b : Artifact} (ha : a ∈ p.artifacts)
include h hroot ha

/-- Markup needs no reference where the references name host stubs. -/
theorem alone_of_named (hnamed : ∀ reference ∈ p.referenced, ∃ b ∈ p.artifacts, b.path = reference ∧
    b.kind = .hostStub) (hkind : a.kind = .editorMarkup) :
    classify (siblingsAmong (foundFiles fs exclude place)) [] a.path = some a.kind := by
  obtain ⟨_, hclass, _⟩ := found_of_mem_artifacts h hroot ha
  obtain ⟨hpath, hpart⟩ := classify_eq_some_iff.1 hclass
  rw [hkind] at hpath hpart ⊢
  refine classify_eq_some_iff.2 ⟨hpath, fun hneeds => .inl ?_⟩
  rcases hpart hneeds with hbeside | hreference
  · exact hbeside
  · obtain ⟨reference, hreference, hstub⟩ := List.mem_map.1 hreference
    obtain ⟨b, hb, rfl, hkind'⟩ := hnamed reference hreference
    obtain ⟨hfound, hclass', _⟩ := found_of_mem_artifacts h hroot hb
    rw [hkind'] at hclass'
    have hscript := kindOfPath?_hostStub.1 (classify_eq_some_iff.1 hclass').1
    rw [Path.stubPath, Rule.not_device_of_hostScript hscript, if_neg Bool.false_ne_true] at hstub
    rw [hstub] at hfound hscript
    refine ⟨_, mem_siblingsAmong.2 ⟨_, hfound, directory_stubBeside a.path, rfl⟩, ?_⟩
    exact pairsWith_stubBeside (kindOfPath?_markup.1 hpath).1 hscript

/-- Where the references name host stubs, only host stubs need one. -/
theorem alone_of_not_stub (hnamed : ∀ reference ∈ p.referenced, ∃ b ∈ p.artifacts, b.path =
    reference ∧ b.kind = .hostStub) (hstub : a.kind ≠ .hostStub) :
      classify (siblingsAmong (foundFiles fs exclude place)) [] a.path = some a.kind := by
  have hpath := (classify_eq_some_iff.1 (found_of_mem_artifacts h hroot ha).2.1).1
  cases hkind : a.kind with
  | hostStub => exact absurd hkind hstub
  | editorMarkup => exact hkind ▸ alone_of_named h hroot ha hnamed hkind
  | deviceScript | descriptor | manifest | localeBundle =>
    rw [hkind] at hpath
    exact classify_eq_some_iff.2 ⟨hpath, fun hneeds => by cases hneeds⟩

/-- Markup that needs no reference has a script of a node in its directory. -/
theorem exists_script_beside (hkind : a.kind = .editorMarkup)
    (halone : classify (siblingsAmong (foundFiles fs exclude place)) [] a.path = some a.kind) :
    ∃ b ∈ p.artifacts, b.directory = a.directory ∧
      (b.kind = .hostStub ∨ b.kind = .deviceScript) := by
  have hneeds : a.kind.needsNode = true := by rw [hkind]; rfl
  obtain ⟨path, hpath, hpairs⟩ := (classify_alone_iff h hroot ha hneeds).1 halone
  have hscript : Path.hasSuffix Path.scriptSuffix (Path.name path) = true := by
    rw [hkind] at halone
    obtain ⟨suffix, hin, hsuffix⟩ :=
      Path.suffix?_markup (kindOfPath?_markup.1 (classify_eq_some_iff.1 halone).1).1
    obtain ⟨_, found, hfound, other, hother, hlower⟩ := hpairs
    obtain rfl := Option.some.inj (hsuffix.symm.trans hfound)
    have hends := Path.hasSuffix_of_append hlower
    rw [pairedSuffixes, if_pos hin] at hother
    simp only [List.mem_cons, List.not_mem_nil, or_false] at hother
    rcases hother with rfl | rfl
    · exact hends
    · exact Path.hasSuffix_script_of_device hends
  have hlocale : ¬LocalePage path := by
    rintro ⟨hmarkup, _⟩
    rw [Path.isMarkup_script hscript] at hmarkup
    cases hmarkup
  obtain ⟨b, hb, rfl, hpartner⟩ := exists_partner h hroot ha hpath hpairs hneeds hlocale
  refine ⟨b, hb, hpairs.1, ?_⟩
  rw [hkind] at hpartner
  simpa [ArtifactKind.partners] using hpartner

variable (hb : b ∈ p.artifacts) (hkind : a.kind = .hostStub)
include hb hkind

/-- Host stubs with one stem pair with the same files. -/
theorem pairsAt_of_unitKey (hkind' : b.kind = .hostStub) (hkey : a.unitKey = b.unitKey)
    {path : String} (hpairs : a.PairsAt path) : b.PairsAt path := by
  obtain ⟨hdirectory, hstem⟩ := Artifact.unitKey_eq_iff.1 hkey
  obtain ⟨hat, suffix, hsuffix, other, hother, hlower⟩ := hpairs
  have hscript : ∀ {c : Artifact}, c ∈ p.artifacts → c.kind = .hostStub →
      suffix? (Path.name c.path) = some Path.scriptSuffix := by
    intro c hc hk
    have hclass := (found_of_mem_artifacts h hroot hc).2.1
    rw [hk] at hclass
    exact Path.suffix?_script (kindOfPath?_hostStub.1 (classify_eq_some_iff.1 hclass).1)
  obtain rfl := Option.some.inj ((hscript ha hkind).symm.trans hsuffix)
  refine ⟨hat.trans hdirectory, Path.scriptSuffix, hscript hb hkind', other, hother, ?_⟩
  rw [← Path.stem_lowerName_eq (hscript ha hkind) (hscript hb hkind') hstem]
  exact hlower

/-- Of the host stubs of a unit, none needs a reference if one does not. -/
theorem alone_of_unitKey (hkind' : b.kind = .hostStub) (hkey : a.unitKey = b.unitKey)
    (halone : classify (siblingsAmong (foundFiles fs exclude place)) [] a.path = some a.kind) :
    classify (siblingsAmong (foundFiles fs exclude place)) [] b.path = some b.kind := by
  rw [classify_alone_iff h hroot ha (by rw [hkind]; rfl)] at halone
  rw [classify_alone_iff h hroot hb (by rw [hkind']; rfl)]
  obtain ⟨path, hpath, hpairs⟩ := halone
  exact ⟨path, hpath, pairsAt_of_unitKey h hroot ha hb hkind hkind' hkey hpairs⟩

/-- A host stub next to the device script of its unit needs no reference. -/
theorem alone_of_device (hkind' : b.kind = .deviceScript) (hkey : a.unitKey = b.unitKey) :
    classify (siblingsAmong (foundFiles fs exclude place)) [] a.path = some a.kind := by
  rw [classify_alone_iff h hroot ha (by rw [hkind]; rfl)]
  have hpartner : b.kind ∈ a.kind.partners := by
    rw [hkind, hkind']
    decide
  exact ⟨b.path, (found_of_mem_artifacts h hroot hb).1,
    (pairsAt_of_part h hroot ha hb hpartner hkey.symm).1⟩

end Discovered

end TwinNode
