import TwinNode.Proofs.Package.Slots

/-! Markup counts as part of a node next to a script with its stem, and a script next to
markup or a device script with its stem. There the stems are those of the small forms of
names. But a unit is found by the stem as it is written, and its markup is not that of a
`locales` directory. So a file that counts because of another one has a partner in its unit
only if one of those next to it is written alike. -/

namespace TwinNode

open TwinNode.Path (suffix? HostScript)

namespace ArtifactKind

/-- The suffixes of the artifacts that make up units. -/
def suffixes : ArtifactKind → List String
  | editorMarkup => Path.markupSuffixes
  | hostStub => [Path.scriptSuffix]
  | deviceScript => [Path.deviceScriptSuffix]
  | descriptor | manifest | localeBundle => []

/-- The kinds of artifacts that make one of a kind part of a node. -/
def partners : ArtifactKind → List ArtifactKind
  | editorMarkup => [hostStub, deviceScript]
  | hostStub => [editorMarkup, deviceScript]
  | deviceScript | descriptor | manifest | localeBundle => []

theorem pairedSuffixes_eq (kind : ArtifactKind) :
    ∀ suffix ∈ kind.suffixes, pairedSuffixes suffix = kind.partners.flatMap suffixes := by
  cases kind <;> decide

theorem deviceScript_mem_partners {kind : ArtifactKind} (h : kind.needsNode = true) :
    kind.isNodePart = true ∧ deviceScript ∈ kind.partners := by
  cases kind with
  | hostStub | editorMarkup => decide
  | deviceScript | descriptor | manifest | localeBundle => cases h

theorem isNodePart_of_partner {kind partner : ArtifactKind} (h : partner ∈ kind.partners) :
    kind.isNodePart = true ∧ partner.isNodePart = true := by
  have hall : ∀ partner ∈ kind.partners, kind.isNodePart = true ∧ partner.isNodePart = true := by
    cases kind <;> decide
  exact hall partner h

end ArtifactKind

section Kind

variable {path : String} {kind : ArtifactKind}

theorem suffix?_of_kind (h : kindOfPath? path = some kind) (hpart : kind.isNodePart = true) :
    ∃ suffix ∈ kind.suffixes, suffix? (Path.name path) = some suffix := by
  cases kind with
  | hostStub => exact ⟨_, List.mem_singleton_self _, Path.suffix?_script (kindOfPath?_hostStub.1 h)⟩
  | editorMarkup => exact Path.suffix?_markup (kindOfPath?_markup.1 h).1
  | deviceScript =>
    exact ⟨_, List.mem_singleton_self _, Path.suffix?_device (kindOfPath?_device.1 h)⟩
  | descriptor | manifest | localeBundle => cases hpart

/-- The suffix of a script is also the end of that of a device script. -/
theorem kindOfPath?_of_suffix {suffix : String} (h : suffix ∈ kind.suffixes)
    (hends : Path.hasSuffix suffix (Path.name path) = true) (hlocale : ¬LocalePage path) :
    kindOfPath? path = some kind ∨ kindOfPath? path = some .deviceScript := by
  cases hdevice : Path.hasSuffix Path.deviceScriptSuffix (Path.name path) with
  | true => exact .inr (kindOfPath?_device.2 hdevice)
  | false =>
    refine .inl ?_
    cases kind with
    | hostStub =>
      obtain rfl := List.mem_singleton.1 h
      exact kindOfPath?_hostStub.2 ⟨hends, hdevice⟩
    | editorMarkup =>
      have hmarkup : Path.isMarkup (Path.name path) = true := List.any_eq_true.2 ⟨suffix, h, hends⟩
      exact kindOfPath?_markup.2 ⟨hmarkup, fun hin => hlocale ⟨hmarkup, hin⟩⟩
    | deviceScript =>
      obtain rfl := List.mem_singleton.1 h
      rw [hends] at hdevice
      cases hdevice
    | descriptor | manifest | localeBundle => cases h

end Kind

/-- A file stands in the directory of an artifact that pairs with it, whatever capital letters they
are written with. -/
def Artifact.PairsAt (a : Artifact) (path : String) : Prop :=
  Path.directory path = a.directory ∧ PairsWith (Path.name a.path) (Path.lowerName (Path.name path))

section Discovered

variable {fs : FileSystem} {root : Path.Location} {exclude : List String} {workers : Int}
  {p : Package} {place : Place} (h : discover fs root exclude workers = .ok p)
  (hroot : checkRoot fs root = .ok place) {a : Artifact} (ha : a ∈ p.artifacts)
include h hroot ha

/-- A file that pairs with an artifact is an artifact that makes it part of a node, unless it is
markup for a language. -/
theorem exists_partner {path : String} (hpath : path ∈ foundFiles fs exclude place)
    (hpairs : a.PairsAt path) (hneeds : a.kind.needsNode = true) (hlocale : ¬LocalePage path) :
    ∃ b ∈ p.artifacts, b.path = path ∧ b.kind ∈ a.kind.partners := by
  obtain ⟨hfound, hclass, _⟩ := found_of_mem_artifacts h hroot ha
  obtain ⟨hpart, hdevice⟩ := ArtifactKind.deviceScript_mem_partners hneeds
  obtain ⟨hdirectory, hnames⟩ := hpairs
  -- The file has a suffix of a kind that is paired with that of the artifact.
  obtain ⟨kind, hpartner, hkind⟩ : ∃ kind ∈ a.kind.partners, kindOfPath? path = some kind := by
    obtain ⟨suffix, hsuffix, other, hother, hlower⟩ := hnames
    obtain ⟨suffix', hin, hsuffix'⟩ := suffix?_of_kind (classify_eq_some_iff.1 hclass).1 hpart
    obtain rfl := Option.some.inj (hsuffix.symm.trans hsuffix')
    rw [ArtifactKind.pairedSuffixes_eq a.kind suffix hin] at hother
    obtain ⟨kind, hpartner, hends⟩ := List.mem_flatMap.1 hother
    rcases kindOfPath?_of_suffix hends (Path.hasSuffix_of_append hlower) hlocale with hkind | hkind
    · exact ⟨kind, hpartner, hkind⟩
    · exact ⟨_, hdevice, hkind⟩
  have hclass' : classify (siblingsAmong (foundFiles fs exclude place)) p.referenced path =
      some kind := by
    refine classify_eq_some_iff.2 ⟨hkind, fun hneeds' => .inl ?_⟩
    rcases hnames.symm with hends | hback
    · rw [kindOfPath?_device.2 hends] at hkind
      cases hkind
      cases hneeds'
    · exact ⟨_, mem_siblingsAmong.2 ⟨a.path, hfound, hdirectory.symm, rfl⟩, hback⟩
  obtain ⟨b, hb, hpath', hkind'⟩ := exists_artifact h hroot hpath hclass'
  exact ⟨b, hb, hpath', hkind' ▸ hpartner⟩

/-- An artifact that makes another one with its directory and its stem part of a node pairs with it,
and is no markup for a language. -/
theorem pairsAt_of_part {b : Artifact} (hb : b ∈ p.artifacts) (hpartner : b.kind ∈ a.kind.partners)
    (hkey : b.unitKey = a.unitKey) : a.PairsAt b.path ∧ ¬LocalePage b.path := by
  obtain ⟨_, hclass, _⟩ := found_of_mem_artifacts h hroot ha
  obtain ⟨_, hclass', _⟩ := found_of_mem_artifacts h hroot hb
  have hkind' := (classify_eq_some_iff.1 hclass').1
  obtain ⟨hpart, hpart'⟩ := ArtifactKind.isNodePart_of_partner hpartner
  obtain ⟨suffix, hin, hsuffix⟩ := suffix?_of_kind (classify_eq_some_iff.1 hclass).1 hpart
  obtain ⟨suffix', hin', hsuffix'⟩ := suffix?_of_kind hkind' hpart'
  obtain ⟨hdirectory, hstem⟩ := Artifact.unitKey_eq_iff.1 hkey
  refine ⟨⟨hdirectory, suffix, hsuffix, suffix', ?_, ?_⟩, fun hlocale => ?_⟩
  · rw [ArtifactKind.pairedSuffixes_eq a.kind suffix hin]
    exact List.mem_flatMap.2 ⟨b.kind, hpartner, hin'⟩
  · rw [Path.stem_lowerName_eq hsuffix hsuffix' hstem.symm, ← Path.eq_stem_append hsuffix']
  · rw [kindOfPath?_localePage hlocale] at hkind'
    rw [← Option.some.inj hkind'] at hpart'
    cases hpart'

section Needs

variable (hneeds : a.kind.needsNode = true)
include hneeds

theorem classify_alone_iff : classify (siblingsAmong (foundFiles fs exclude place))
    [] a.path = some a.kind ↔
    ∃ path ∈ foundFiles fs exclude place, a.PairsAt path := by
  have hclass := (found_of_mem_artifacts h hroot ha).2.1
  have hnothing : ∀ kind, ¬NamedBy [] a.path kind := by
    intro kind hnamed
    cases kind <;> cases hnamed
  rw [classify_eq_some_iff]
  constructor
  · rintro ⟨_, hnode⟩
    obtain ⟨_, hin, hnames⟩ := (hnode hneeds).resolve_right (hnothing _)
    obtain ⟨path, hpath, hdirectory, rfl⟩ := mem_siblingsAmong.1 hin
    exact ⟨path, hpath, hdirectory, hnames⟩
  · rintro ⟨path, hpath, hdirectory, hnames⟩
    refine ⟨(classify_eq_some_iff.1 hclass).1, fun _ => .inl ⟨_, mem_siblingsAmong.2 ?_, hnames⟩⟩
    exact ⟨path, hpath, hdirectory, rfl⟩

theorem exists_part_iff :
    (∃ kind ∈ a.kind.partners, ((unitOf p.artifacts a.unitKey).part? kind).isSome = true) ↔
      ∃ path ∈ foundFiles fs exclude place, a.PairsAt path ∧ Path.stem (Path.name path) = a.stem ∧
        ¬LocalePage path := by
  constructor
  · rintro ⟨kind, hpartner, hpart⟩
    rw [part?_unitOf (ArtifactKind.isNodePart_of_partner hpartner).2, slot?_isSome_iff] at hpart
    obtain ⟨b, hb, rfl, hkey⟩ := hpart
    obtain ⟨hpairs, hlocale⟩ := pairsAt_of_part h hroot ha hb hpartner hkey
    exact ⟨b.path, (found_of_mem_artifacts h hroot hb).1, hpairs,
      (Artifact.unitKey_eq_iff.1 hkey).2, hlocale⟩
  · rintro ⟨path, hpath, hpairs, hstem, hlocale⟩
    obtain ⟨b, hb, rfl, hpartner⟩ := exists_partner h hroot ha hpath hpairs hneeds hlocale
    refine ⟨b.kind, hpartner, ?_⟩
    rw [part?_unitOf (ArtifactKind.isNodePart_of_partner hpartner).2, slot?_isSome_iff]
    exact ⟨b, hb, rfl, Artifact.unitKey_eq_iff.2 ⟨hpairs.1, hstem⟩⟩

/-- A script or a markup file counts as part of a node by what is next to it if there is a file that
pairs with it. But it has a partner in its unit only if the stem of such a file is written alike,
and the file is no markup for a language. -/
theorem partner_in_unit_iff {u : NodeUnit} (hu : u ∈ p.units)
    (hdirectory : u.directory = a.directory) (hstem : u.stem = a.stem) :
    (classify (siblingsAmong (foundFiles fs exclude place)) [] a.path = some a.kind ↔
      ∃ path ∈ foundFiles fs exclude place, a.PairsAt path) ∧
    ((∃ kind ∈ a.kind.partners, (u.part? kind).isSome = true) ↔
      ∃ path ∈ foundFiles fs exclude place, a.PairsAt path ∧ Path.stem (Path.name path) = a.stem ∧
        ¬LocalePage path) := by
  rw [eq_unitOf h hu hdirectory hstem]
  exact ⟨classify_alone_iff h hroot ha hneeds, exists_part_iff h hroot ha hneeds⟩

end Needs

end Discovered

/-- Markup next to a script that is written alike has it in its unit. -/
theorem partner_in_unit_twoPages : (emptyPage "a.html").kind.needsNode = true ∧
    ∃ u ∈ twoPagesPackage.units, u.directory = (emptyPage "a.html").directory ∧
      u.stem = (emptyPage "a.html").stem ∧
      ∃ kind ∈ ArtifactKind.partners .editorMarkup, (u.part? kind).isSome = true := by
  have hroot : checkRoot twoPages (Path.Location.ofString "/") = .ok [] := by rfl
  have hpage : emptyPage "a.html" ∈ twoPagesPackage.artifacts := .tail _ (.head _)
  have hstub : emptyStub "a.js" ∈ twoPagesPackage.artifacts := .tail _ (.tail _ (.head _))
  have hu := unitOf_mem_units discover_twoPages hpage rfl
  have hpairs : (emptyPage "a.html").PairsAt "a.js" :=
    ⟨by decide, ".html", by decide, ".js", by decide, by decide⟩
  have hfound := (found_of_mem_artifacts discover_twoPages hroot hstub).1
  have hpartner :=
    (partner_in_unit_iff discover_twoPages hroot hpage rfl hu rfl rfl).2.2
      ⟨"a.js", hfound, hpairs, by decide⟩
  exact ⟨rfl, _, hu, rfl, rfl, hpartner⟩

def mixedCase : FileSystem := ⟨[(["Foo.html"], []), (["foo.js"], [])], [], [], usualRoom⟩

theorem foundFiles_mixedCase : foundFiles mixedCase [] [] = ["Foo.html", "foo.js"] :=
  sortPaths_eq (by rfl) (by decide)

theorem discover_mixedCase : discover mixedCase (Path.Location.ofString "/") [] 1 =
    .ok ⟨"/", [emptyPage "Foo.html", emptyStub "foo.js"],
      groupUnits [emptyPage "Foo.html", emptyStub "foo.js"]⟩ := by
  have hroot : checkRoot mixedCase (Path.Location.ofString "/") = .ok [] := by rfl
  refine discover_of_artifacts none [emptyPage "Foo.html", emptyStub "foo.js"] hroot
    (by decide) foundFiles_mixedCase rfl (by rfl) ?_ (by decide)
  simp only [List.forall_mem_cons]
  exact ⟨by rfl, by rfl, List.forall_mem_nil _⟩

/-- Both count because of the other one, and each is alone in its unit. -/
theorem apart_in_mixedCase : ∃ p, discover mixedCase (Path.Location.ofString "/") [] 1 = .ok p ∧
    (∃ a ∈ p.artifacts, classify (siblingsAmong (foundFiles mixedCase [] [])) [] a.path =
      some .editorMarkup ∧
      ∃ u ∈ p.units, u.markup = some a ∧ u.stub = none ∧ u.device = none) ∧
    ∃ a ∈ p.artifacts, classify (siblingsAmong (foundFiles mixedCase [] [])) [] a.path =
      some .hostStub ∧
      ∃ u ∈ p.units, u.stub = some a ∧ u.markup = none ∧ u.device = none := by
  rw [foundFiles_mixedCase]
  refine ⟨_, discover_mixedCase, ⟨emptyPage "Foo.html", .head _, by decide, ?_⟩,
    emptyStub "foo.js", .tail _ (.head _), by decide, ?_⟩
  · exact ⟨_, (mem_units discover_mixedCase).2 ⟨("", "Foo"), by decide, rfl⟩, by rfl,
      by rfl, by rfl⟩
  · exact ⟨_, (mem_units discover_mixedCase).2 ⟨("", "foo"), by decide, rfl⟩, by rfl,
      by rfl, by rfl⟩

end TwinNode
