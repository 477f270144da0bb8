import TwinNode.Proofs.Package.Addition
import TwinNode.Proofs.Rule.Mandatory
import TwinNode.Proofs.Rule.Reference

/-! A finding of the rule about mandatory files names the file that is missing. With a file
there, the rule asks for it no longer if the file is of the kind that is missing. That is so
for a descriptor and for a device script. But the name of a host stub may be that of a
device script, if the stem of the device script that lacks one ends like the suffix of a
device script; and in a directory for languages, a manifest is a locale bundle. Then the
package lacks what it lacked before. -/

namespace TwinNode

open TwinNode.Rule
open TwinNode.Path (HostScript suffix?)

/-- By this finding, the rule about mandatory files asks for a file of a kind. -/
def Package.AsksFor (p : Package) (f : Finding) : ArtifactKind → Prop
  | .descriptor => p.descriptor? = none ∧ f = noDescriptor
  | .hostStub => ∃ u ∈ p.units, ∃ device ∈ u.stublessDevice?, f = noStubFor device
  | .deviceScript => ∃ u ∈ p.units, u.lacksDevice = true ∧ f = noDeviceFor u
  | .manifest => ∃ u ∈ p.units, u.lacksManifest = true ∧ f = noManifestFor u
  | .editorMarkup | .localeBundle => False

namespace Rule

theorem mem_missingParts {u : NodeUnit} {f : Finding} : f ∈ missingParts u ↔
    (∃ device ∈ u.stublessDevice?, f = noStubFor device) ∨
      (u.lacksDevice = true ∧ f = noDeviceFor u) ∨
      u.lacksManifest = true ∧ f = noManifestFor u := by
  have hguard : ∀ (lacks : NodeUnit → Bool) (g : NodeUnit → Finding),
      (Option.guard lacks u).map g = some f ↔ lacks u = true ∧ f = g u := by
    intro lacks g
    simp only [Option.map_eq_some_iff, Option.guard_eq_some_iff]
    constructor
    · rintro ⟨_, ⟨rfl, hlacks⟩, rfl⟩
      exact ⟨hlacks, rfl⟩
    · rintro ⟨hlacks, rfl⟩
      exact ⟨u, ⟨rfl, hlacks⟩, rfl⟩
  rw [missingParts_eq]
  simp only [List.mem_append, Option.mem_toList, hguard, Option.map_eq_some_iff,
    eq_comm (a := f), Option.mem_def]

/-- The findings that name a file are those that ask for it. -/
theorem mem_mandatoryArtifacts {p : Package} (hunits : p.units = groupUnits p.artifacts)
    (settings : RuleSettings) {f : Finding} (hpath : f.path ≠ ".") :
    f ∈ mandatoryArtifacts (p.context settings) ↔ ∃ kind, p.AsksFor f kind := by
  have hdescriptor : (f ∈ if ∃ a ∈ p.artifacts, a.kind = .descriptor then [] else [noDescriptor]) ↔
      p.AsksFor f .descriptor := by
    unfold Package.AsksFor
    rw [← Option.not_isSome_iff_eq_none, isSome_descriptor?_iff]
    split_ifs with hsome
    · exact ⟨nofun, fun hasks => absurd hsome hasks.1⟩
    · rw [List.mem_singleton, and_iff_right hsome]
  have hscript : f ∉ if ∃ a ∈ p.artifacts, a.kind = .hostStub ∨ a.kind = .deviceScript then []
      else [noScript] := by
    split_ifs
    · exact List.not_mem_nil
    · rw [List.mem_singleton]
      rintro rfl
      exact hpath rfl
  have hparts : f ∈ p.units.flatMap missingParts ↔
      p.AsksFor f .hostStub ∨ p.AsksFor f .deviceScript ∨ p.AsksFor f .manifest := by
    rw [List.mem_flatMap]
    simp only [mem_missingParts, and_or_left, exists_or, Package.AsksFor]
  rw [mandatoryArtifacts_eq hunits, List.mem_append, List.mem_append,
    or_iff_left hscript, hdescriptor, hparts]
  constructor
  · rintro (hasks | hasks | hasks | hasks) <;> exact ⟨_, hasks⟩
  · rintro ⟨kind, hasks⟩
    cases kind with
    | descriptor => exact .inl hasks
    | hostStub => exact .inr (.inl hasks)
    | deviceScript => exact .inr (.inr (.inl hasks))
    | manifest => exact .inr (.inr (.inr hasks))
    | editorMarkup | localeBundle => exact hasks.elim

/-- The words that a finding begins with by which a file of a kind is asked for. -/
def askingWords : ArtifactKind → String
  | .descriptor => "Package descriptor package.json is missing"
  | .hostStub => "Host stub script is missing for device script "
  | .deviceScript => "Device script is missing for node "
  | .manifest => "Device manifest is missing for node "
  | .editorMarkup | .localeBundle => ""

end Rule

namespace Package.AsksFor

variable {p p' : Package} {f : Finding} {kind kind' : ArtifactKind}

theorem message (h : p.AsksFor f kind) : ∃ rest, f.message = askingWords kind ++ rest := by
  cases kind with
  | descriptor =>
    obtain ⟨_, rfl⟩ := h
    exact ⟨"", String.append_empty.symm⟩
  | hostStub =>
    obtain ⟨_, _, device, _, rfl⟩ := h
    exact ⟨device.path, rfl⟩
  | deviceScript =>
    obtain ⟨u, _, _, rfl⟩ := h
    exact ⟨u.key ++ " which has a device manifest", String.append_assoc⟩
  | manifest =>
    obtain ⟨u, _, _, rfl⟩ := h
    exact ⟨u.key ++ " which has a device script", String.append_assoc⟩
  | editorMarkup | localeBundle => exact h.elim

/-- A finding asks for a file of one kind. -/
theorem kind_eq (h : p.AsksFor f kind) (h' : p'.AsksFor f kind') : kind = kind' := by
  obtain ⟨rest, hrest⟩ := h.message
  obtain ⟨rest', hrest'⟩ := h'.message
  have happend := congrArg String.toList (hrest.symm.trans hrest')
  rw [String.toList_append, String.toList_append] at happend
  have hwords : (askingWords kind).toList <+: (askingWords kind').toList ∨
      (askingWords kind').toList <+: (askingWords kind).toList :=
    List.prefix_or_prefix_of_prefix (happend ▸ List.prefix_append _ _) (List.prefix_append _ _)
  have hunlike : ∀ a ∈ [ArtifactKind.descriptor, .hostStub, .deviceScript, .manifest],
      ∀ b ∈ [ArtifactKind.descriptor, .hostStub, .deviceScript, .manifest],
        (askingWords a).toList <+: (askingWords b).toList → a = b := by decide
  have hasked : ∀ {p : Package} {kind : ArtifactKind}, p.AsksFor f kind →
      kind ∈ [ArtifactKind.descriptor, .hostStub, .deviceScript, .manifest] := by
    intro p kind h
    cases kind with
    | descriptor | hostStub | deviceScript | manifest => decide
    | editorMarkup | localeBundle => exact h.elim
  rcases hwords with hprefix | hprefix
  · exact hunlike kind (hasked h) kind' (hasked h') hprefix
  · exact (hunlike kind' (hasked h') kind (hasked h) hprefix).symm

end Package.AsksFor

/-! ## Units -/

theorem NodeUnit.lacksDevice_iff {u : NodeUnit} :
    u.lacksDevice = true ↔ u.stub.isSome = true ∧ u.manifest.isSome = true ∧ u.device = none := by
  simp [lacksDevice, and_assoc]

theorem NodeUnit.lacksManifest_iff {u : NodeUnit} :
    u.lacksManifest = true ↔ u.stub.isSome = true ∧ u.device.isSome = true ∧ u.manifest = none := by
  simp [lacksManifest, and_assoc]

/-- The key of a unit in reports tells units apart. -/
theorem unitKey_injective {artifacts others : List Artifact} {key key' : UnitKey}
    (hstem : '/' ∉ key.2.toList) (hstem' : '/' ∉ key'.2.toList)
    (heq : (unitOf artifacts key).key = (unitOf others key').key) : key = key' := by
  have hchild : Path.child key.1 key.2 = Path.child key'.1 key'.2 := heq
  obtain ⟨hdirectory, hname⟩ := Path.directory_child hstem key.1
  obtain ⟨hdirectory', hname'⟩ := Path.directory_child hstem' key'.1
  rw [hchild] at hdirectory hname
  exact Prod.ext (hdirectory.symm.trans hdirectory') (hname.symm.trans hname')

theorem Artifact.slash_not_mem_stem (a : Artifact) : '/' ∉ a.stem.toList :=
  Path.slash_not_mem_stem a.path

theorem Artifact.slash_not_mem_unitKey (a : Artifact) : '/' ∉ a.unitKey.2.toList := by
  rw [a.unitKey_snd]
  exact a.slash_not_mem_stem

section Discovered

variable {fs : FileSystem} {root : Path.Location} {exclude : List String} {workers : Int}
  {p : Package} {place : Place} (h : discover fs root exclude workers = .ok p)
  (hroot : checkRoot fs root = .ok place)
include h

/-- A unit with a host stub is the unit of that artifact. -/
theorem exists_stub {u : NodeUnit} (hu : u ∈ p.units) (hstub : u.stub.isSome = true) :
    ∃ s ∈ p.artifacts, s.kind = .hostStub ∧ u = unitOf p.artifacts s.unitKey := by
  obtain ⟨key, _, rfl⟩ := (mem_units h).1 hu
  obtain ⟨s, hs, hkind, rfl⟩ := slot?_isSome_iff.1 hstub
  exact ⟨s, hs, hkind, rfl⟩

/-- A finding that names a unit with a host stub is made if this unit lacks what the finding is
about. -/
theorem finding_of_unit_iff {finding : NodeUnit → Finding} {lacks : NodeUnit → Bool}
    {words ending : String} (hmessage : ∀ u, (finding u).message = words ++ u.key ++ ending)
    (hstub : ∀ u, lacks u = true → u.stub.isSome = true) {others : List Artifact} {key : UnitKey}
    (hsame : finding (unitOf others key) = finding (unitOf p.artifacts key))
    (hstem : '/' ∉ key.2.toList) :
    (∃ u ∈ p.units, lacks u = true ∧ finding (unitOf others key) = finding u) ↔
      lacks (unitOf p.artifacts key) = true := by
  constructor
  · rintro ⟨u, hu, hlacks, heq⟩
    obtain ⟨s, _, _, rfl⟩ := exists_stub h hu (hstub u hlacks)
    have hkey := congrArg Finding.message heq
    rw [hmessage, hmessage] at hkey
    have hkey := (String.append_right_inj words).1 ((String.append_left_inj ending).1 hkey)
    rwa [unitKey_injective hstem s.slash_not_mem_unitKey hkey]
  · intro hlacks
    obtain ⟨s, hs, hkind, rfl⟩ := slot?_isSome_iff.1 (hstub _ hlacks)
    exact ⟨_, unitOf_mem_units h hs (hkind ▸ rfl), hlacks, hsame⟩

theorem asksFor_deviceScript_iff {others : List Artifact} {key : UnitKey}
    (hstem : '/' ∉ key.2.toList) :
    p.AsksFor (noDeviceFor (unitOf others key)) .deviceScript ↔
      (unitOf p.artifacts key).lacksDevice = true := by
  have hmessage : ∀ u, (noDeviceFor u).message = "Device script is missing for node " ++ u.key ++
      " which has a device manifest" :=
    fun _ => rfl
  exact finding_of_unit_iff h hmessage (fun u hlacks => (NodeUnit.lacksDevice_iff.1 hlacks).1)
    rfl hstem

theorem asksFor_manifest_iff {others : List Artifact} {key : UnitKey} (hstem : '/' ∉ key.2.toList) :
    p.AsksFor (noManifestFor (unitOf others key)) .manifest ↔
      (unitOf p.artifacts key).lacksManifest = true := by
  have hmessage : ∀ u, (noManifestFor u).message = "Device manifest is missing for node " ++
      u.key ++ " which has a device script" :=
    fun _ => rfl
  exact finding_of_unit_iff h hmessage (fun u hlacks => (NodeUnit.lacksManifest_iff.1 hlacks).1)
    rfl hstem

omit h in
theorem mem_stublessDevice? {artifacts : List Artifact} {key : UnitKey} {device : Artifact} :
    device ∈ (unitOf artifacts key).stublessDevice? ↔
      slot? artifacts .hostStub key = none ∧ slot? artifacts .deviceScript key = some device := by
  unfold NodeUnit.stublessDevice?
  rw [Option.mem_def, Option.ite_none_right_eq_some, Option.isNone_iff_eq_none]
  rfl

theorem mem_of_stublessDevice? {u : NodeUnit} (hu : u ∈ p.units) {device : Artifact}
    (hd : device ∈ u.stublessDevice?) :
    device ∈ p.artifacts ∧ device.kind = .deviceScript := by
  obtain ⟨key, _, rfl⟩ := (mem_units h).1 hu
  obtain ⟨hin, hkind, -⟩ := mem_of_slot? (mem_stublessDevice?.1 hd).2
  exact ⟨hin, hkind⟩

include hroot

theorem asksFor_hostStub_iff {device : Artifact} (hd : device ∈ p.artifacts)
    (hkind : device.kind = .deviceScript) :
    p.AsksFor (noStubFor device) .hostStub ↔
      slot? p.artifacts .hostStub device.unitKey = none ∧
        slot? p.artifacts .deviceScript device.unitKey = some device := by
  constructor
  · rintro ⟨u, hu, other, hother, heq⟩
    obtain ⟨hin, -⟩ := mem_of_stublessDevice? h hu hother
    have hpath := (String.append_right_inj _).1 (congrArg Finding.message heq)
    obtain rfl := artifact_eq_of_path h hroot hd hin hpath
    obtain ⟨key, _, rfl⟩ := (mem_units h).1 hu
    obtain ⟨hstub, hdevice⟩ := mem_stublessDevice?.1 hother
    obtain ⟨-, -, rfl⟩ := mem_of_slot? hdevice
    exact ⟨hstub, hdevice⟩
  · intro hslots
    exact ⟨_, unitOf_mem_units h hd (hkind ▸ rfl), device, mem_stublessDevice?.2 hslots, rfl⟩

end Discovered

/-- Next to a device script, a unit has a manifest if one is in its directory. -/
theorem unitManifest?_isSome_iff {artifacts : List Artifact} {key : UnitKey}
    (hdevice : (slot? artifacts .deviceScript key).isSome = true) :
    (unitManifest? artifacts key).isSome = true ↔
      ∃ a ∈ artifacts, a.kind = .manifest ∧ a.directory = key.1 := by
  unfold unitManifest?
  dsimp only
  rw [hdevice, Bool.true_or, if_pos rfl, List.getLast?_isSome, Ne, List.filter_eq_nil_iff]
  simp

/-! ## The name of the file -/

section Name

/-- The name of a device script is a stem with the suffix of device scripts after it, whatever the
stem is. -/
theorem deviceScript_name (stem : String) :
    Path.hasSuffix Path.deviceScriptSuffix (stem ++ Path.deviceScriptSuffix) = true ∧
    Path.stem (stem ++ Path.deviceScriptSuffix) = stem := by
  have hends : Path.hasSuffix Path.deviceScriptSuffix (stem ++ Path.deviceScriptSuffix) = true :=
    Path.hasSuffix_append_suffix (by decide) stem
  exact ⟨hends, Path.stem_append (Path.suffix?_device hends)⟩

variable {name stem : String}

/-- A host script with a stem has the suffixes of the host stub that goes with it. -/
theorem not_device_of_stem (h : HostScript name) (hstem : Path.stem name = stem) :
    Path.hasSuffix Path.deviceScriptSuffix (stem ++ Path.scriptSuffix) = false := by
  rw [← hstem, Path.hasSuffix_congr (Path.lowerName_stem_append (Path.suffix?_script h))]
  exact h.2

/-- Where the host stub of a stem would be a device script, its stem is another one. -/
theorem stem_ne_of_device
    (hdevice : Path.hasSuffix Path.deviceScriptSuffix (stem ++ Path.scriptSuffix) = true) :
    Path.stem (stem ++ Path.scriptSuffix) ≠ stem := by
  intro hstem
  have hsuffix := Path.suffix?_device hdevice
  obtain ⟨ending, hsplit, -, hending⟩ := Path.exists_split hsuffix
  rw [hstem, String.toList_append, List.append_cancel_left_eq] at hsplit
  rw [hsplit] at hending
  exact absurd hending (by decide)

/-- The host stub of a stem pairs with a device script of that stem, unless its name is that of a
device script. -/
theorem pairsWith_device (hdevice : Path.hasSuffix Path.deviceScriptSuffix name = true)
    (hstem : Path.stem name = stem)
    (hstub : Path.hasSuffix Path.deviceScriptSuffix (stem ++ Path.scriptSuffix) = false) :
    HostScript (stem ++ Path.scriptSuffix) ∧ Path.stem (stem ++ Path.scriptSuffix) = stem ∧
      PairsWith (stem ++ Path.scriptSuffix) (Path.lowerName name) := by
  have hscript : HostScript (stem ++ Path.scriptSuffix) :=
    ⟨Path.hasSuffix_append_suffix (by decide) stem, hstub⟩
  have hsuffix := Path.suffix?_script hscript
  have hsuffix' := Path.suffix?_device hdevice
  have hsame : Path.stem (stem ++ Path.scriptSuffix) = stem := Path.stem_append hsuffix
  refine ⟨hscript, hsame, Path.scriptSuffix, hsuffix, Path.deviceScriptSuffix, by decide, ?_⟩
  rw [Path.stem_lowerName_eq hsuffix hsuffix' (hsame.trans hstem.symm),
    ← Path.eq_stem_append hsuffix']

end Name

theorem slash_not_mem_manifestName : '/' ∉ manifestName.toList := by decide

/-- A manifest in a directory for languages is a locale bundle. -/
theorem kindOfPath?_manifestName (directory : String) :
    kindOfPath? (Path.child directory manifestName) =
    if localesDirectory ∈ Path.segments directory then some .localeBundle else some .manifest := by
  obtain ⟨hdirectory, hname⟩ := Path.directory_child slash_not_mem_manifestName directory
  have hnot : Path.child directory manifestName ≠ descriptorName := by
    intro heq
    rw [heq] at hname
    exact absurd hname (by decide)
  have hsuffixes : Path.hasSuffix Path.jsonSuffix manifestName = true ∧
      Path.hasSuffix Path.deviceScriptSuffix manifestName = false ∧
        Path.lowerName manifestName = manifestName := by decide
  unfold kindOfPath?
  dsimp only
  rw [if_neg hnot, hdirectory, hname, hsuffixes.1, hsuffixes.2.1,
    if_neg Bool.false_ne_true, if_pos hsuffixes.2.2, Bool.true_or, Bool.and_true]
  simp only [List.contains_iff_mem]

/-! ## The place of the file -/

section Place

variable {fs : FileSystem} (hnamed : fs.Named) {place : Place}
  (hback : ∀ names ∈ fs.filesBelow place, ∀ n ∈ names, '\\' ∉ n.toList)
  {exclude : List String} {root : Path.Location} {workers : Int} {p : Package}
  (h : discover fs root exclude workers = .ok p) (hroot : checkRoot fs root = .ok place)
include hnamed hback h hroot

theorem backslash_not_mem_stem {a : Artifact} (ha : a ∈ p.artifacts) : '\\' ∉ a.stem.toList := by
  obtain ⟨-, hnames⟩ := names_of_found_path hnamed hback (found_of_mem_artifacts h hroot ha).1
  obtain ⟨above, hsegments⟩ := Path.segments_eq_append_name a.path
  have hname := (hnames (Path.name a.path) (by rw [hsegments]; simp)).2
  rw [← Path.stem_append_ending (Path.name a.path), String.toList_append,
    List.mem_append, not_or] at hname
  exact hname.1

omit hnamed hback h hroot in
theorem noDeviceFor_path (artifacts : List Artifact) (a : Artifact) :
    (noDeviceFor (unitOf artifacts a.unitKey)).path =
      Path.child a.directory (a.stem ++ Path.deviceScriptSuffix) := by
  simp only [noDeviceFor, unitOf_directory, unitOf_stem, Artifact.unitKey_fst, Artifact.unitKey_snd]

omit hnamed hback h hroot in
theorem noManifestFor_path (artifacts : List Artifact) (a : Artifact) :
    (noManifestFor (unitOf artifacts a.unitKey)).path = Path.child a.directory manifestName := by
  simp only [noManifestFor, unitOf_directory, Artifact.unitKey_fst]

theorem noStubFor_path {device : Artifact} (hd : device ∈ p.artifacts)
    (hkind : device.kind = .deviceScript) :
    (noStubFor device).path = Path.child device.directory (device.stem ++ Path.scriptSuffix) :=
  stubPath_eq_child (empty_not_mem_segments hnamed hback (found_of_mem_artifacts h hroot hd).1)
    (kindOfPath?_device.1 (hkind ▸ kindOfPath?_of_mem h hroot hd))

theorem findable_beside_artifact {a : Artifact} (ha : a ∈ p.artifacts) {path last : String}
    (hentry : EntryName last) (hlast : '\\' ∉ last.toList)
    (hpath : path = Path.child a.directory last)
    (hexclude : Glob.excludesFile exclude path = false) : Findable exclude path := by
  subst hpath
  exact findable_beside hnamed hback (found_of_mem_artifacts h hroot ha).1 hentry hlast hexclude

theorem findable_suffixed {a : Artifact} (ha : a ∈ p.artifacts) {path suffix : String}
    (hs : suffix ∈ Path.suffixes) (hpath : path = Path.child a.directory (a.stem ++ suffix))
    (hexclude : Glob.excludesFile exclude path = false) :
    Findable exclude path := by
  have hplain : ∀ suffix ∈ Path.suffixes, '\\' ∉ suffix.toList := by decide
  have hlast : '\\' ∉ (a.stem ++ suffix).toList := by
    rw [String.toList_append, List.mem_append]
    exact not_or.2 ⟨backslash_not_mem_stem hnamed hback h hroot ha, hplain suffix hs⟩
  have hentry : EntryName (a.stem ++ suffix) := EntryName.of_suffix a.slash_not_mem_stem hs
  exact findable_beside_artifact hnamed hback h hroot ha hentry hlast hpath hexclude

/-- A file is asked for in a place where discovery finds it. -/
theorem Package.AsksFor.findable {f : Finding} {kind : ArtifactKind} (hasks : p.AsksFor f kind)
    (hexclude : Glob.excludesFile exclude f.path = false) : Findable exclude f.path := by
  cases kind with
  | descriptor =>
    obtain ⟨-, rfl⟩ := hasks
    exact findable_descriptor hexclude
  | hostStub =>
    obtain ⟨u, hu, device, hdevice, rfl⟩ := hasks
    obtain ⟨hd, hkind⟩ := mem_of_stublessDevice? h hu hdevice
    have hpath := noStubFor_path hnamed hback h hroot hd hkind
    exact findable_suffixed hnamed hback h hroot hd (by decide) hpath hexclude
  | deviceScript =>
    obtain ⟨u, hu, hlacks, rfl⟩ := hasks
    obtain ⟨s, hs, -, rfl⟩ := exists_stub h hu (NodeUnit.lacksDevice_iff.1 hlacks).1
    exact findable_suffixed hnamed hback h hroot hs (by decide) (noDeviceFor_path _ s) hexclude
  | manifest =>
    obtain ⟨u, hu, hlacks, rfl⟩ := hasks
    obtain ⟨s, hs, -, rfl⟩ := exists_stub h hu (NodeUnit.lacksManifest_iff.1 hlacks).1
    have hlast : EntryName manifestName ∧ '\\' ∉ manifestName.toList := by decide
    exact findable_beside_artifact hnamed hback h hroot hs hlast.1 hlast.2
      (noManifestFor_path _ s) hexclude
  | editorMarkup | localeBundle => exact hasks.elim

end Place

/-! ## With the file -/

section Added

variable {fs : FileSystem} {place : Place} {exclude : List String} {path : String}
  (hnew : fs.isFile (place ++ Path.segments path) = false) (hfindable : Findable exclude path)
  {bytes : Bytes} {root : Path.Location} (hroot : checkRoot fs root = .ok place)
  {workers : Int} {p p' : Package}
  (h' : discover (fs.write (place ++ Path.segments path) bytes) root exclude workers = .ok p')
include hnew hfindable hroot h'

theorem descriptor_added (hpath : path = descriptorName) :
    ¬p'.AsksFor noDescriptor .descriptor := by
  rintro ⟨hnone, -⟩
  obtain ⟨a, ha, -, hkind⟩ :=
    exists_added hnew hfindable bytes hroot h' (kindOfPath?_descriptor.2 hpath) nofun
  have hsome := isSome_descriptor?_iff.2 ⟨a, ha, hkind⟩
  rw [hnone] at hsome
  cases hsome

theorem deviceScript_added {others : List Artifact} {key : UnitKey} (hstem : '/' ∉ key.2.toList)
    (hpath : path = Path.child key.1 (key.2 ++ Path.deviceScriptSuffix)) :
    ¬p'.AsksFor (noDeviceFor (unitOf others key)) .deviceScript := by
  have hslash : '/' ∉ (key.2 ++ Path.deviceScriptSuffix).toList :=
    (EntryName.of_suffix hstem (by decide)).slashless
  obtain ⟨hdirectory, hname⟩ := Path.directory_child hslash key.1
  rw [← hpath] at hdirectory hname
  obtain ⟨hdevice, hsame⟩ := deviceScript_name key.2
  rw [← hname] at hdevice hsame
  obtain ⟨a, ha, rfl, hkind⟩ :=
    exists_added hnew hfindable bytes hroot h' (kindOfPath?_device.2 hdevice) nofun
  rw [asksFor_deviceScript_iff h' hstem]
  have hslot : (slot? p'.artifacts .deviceScript key).isSome = true :=
    slot?_isSome_iff.2 ⟨a, ha, hkind,
      Prod.ext hdirectory (by simp only [Artifact.unitKey, Artifact.stem]; exact hsame)⟩
  intro hlacks
  have hnone : slot? p'.artifacts .deviceScript key = none :=
    (NodeUnit.lacksDevice_iff.1 hlacks).2.2
  rw [hnone] at hslot
  cases hslot

variable (hnamed : fs.Named) (hback : ∀ names ∈ fs.filesBelow place, ∀ n ∈ names, '\\' ∉ n.toList)
  (h : discover fs root exclude workers = .ok p)
include hnamed hback h

theorem slot?_added {kind : ArtifactKind} {key : UnitKey}
    (hsome : (slot? p.artifacts kind key).isSome = true) :
    (slot? p'.artifacts kind key).isSome = true := by
  obtain ⟨a, ha, hkind, hkey⟩ := slot?_isSome_iff.1 hsome
  exact slot?_isSome_iff.2 ⟨a, artifacts_subset_added hnew hfindable bytes hnamed hback
    hroot h h' ha, hkind, hkey⟩

/-- A unit with a manifest is not asked for one. But in a directory for languages there is none. -/
theorem manifest_added {others : List Artifact} {key : UnitKey} (hstem : '/' ∉ key.2.toList)
    (hpath : path = Path.child key.1 manifestName)
    (hlacks : (unitOf p.artifacts key).lacksManifest = true) :
    p'.AsksFor (noManifestFor (unitOf others key)) .manifest ↔
      localesDirectory ∈ Path.segments key.1 := by
  have hroot' := FileSystem.checkRoot_write hnew bytes hroot
  obtain ⟨hdirectory, -⟩ := Path.directory_child slash_not_mem_manifestName key.1
  rw [← hpath] at hdirectory
  obtain ⟨hstub, hdevice, hnone⟩ := NodeUnit.lacksManifest_iff.1 hlacks
  have hstub' := slot?_added hnew hfindable hroot h' hnamed hback h hstub
  have hdevice' := slot?_added hnew hfindable hroot h' hnamed hback h hdevice
  have hmanifests : (unitOf p'.artifacts key).lacksManifest = true ↔
      ¬∃ a ∈ p'.artifacts, a.kind = .manifest ∧ a.directory = key.1 := by
    rw [NodeUnit.lacksManifest_iff, ← unitManifest?_isSome_iff hdevice',
      Option.not_isSome_iff_eq_none]
    exact ⟨fun hlacks => hlacks.2.2, fun hnone => ⟨hstub', hdevice', hnone⟩⟩
  have hkind := kindOfPath?_manifestName key.1
  rw [← hpath] at hkind
  rw [asksFor_manifest_iff h' hstem, hmanifests]
  constructor
  · intro hmissing
    by_contra hlocales
    rw [if_neg hlocales] at hkind
    obtain ⟨a, ha, rfl, hmanifest⟩ := exists_added hnew hfindable bytes hroot h' hkind nofun
    exact hmissing ⟨a, ha, hmanifest, hdirectory⟩
  · rintro hlocales ⟨a, ha, hmanifest, hat⟩
    rw [if_pos hlocales] at hkind
    rcases mem_or_added hnew hfindable bytes hnamed hback hroot h h' ha (hmanifest ▸ rfl)
      with hold | rfl
    · have hsome := (unitManifest?_isSome_iff hdevice).2 ⟨a, hold, hmanifest, hat⟩
      have hnone : unitManifest? p.artifacts key = none := hnone
      rw [hnone] at hsome
      cases hsome
    · rw [kindOfPath?_of_mem h' hroot' ha, hmanifest] at hkind
      cases hkind

/-- A device script with a host stub is not asked for one. But if its stem ends like the suffix of a
device script, then there is none. -/
theorem hostStub_added {device : Artifact} (hd : device ∈ p.artifacts)
    (hkind : device.kind = .deviceScript)
    (hpath : path = Path.child device.directory (device.stem ++ Path.scriptSuffix))
    (hasks : p.AsksFor (noStubFor device) .hostStub) :
    p'.AsksFor (noStubFor device) .hostStub ↔
      Path.hasSuffix Path.deviceScriptSuffix path = true := by
  have hroot' := FileSystem.checkRoot_write hnew bytes hroot
  have hd' := artifacts_subset_added hnew hfindable bytes hnamed hback hroot h h' hd
  have hdevice : Path.hasSuffix Path.deviceScriptSuffix (Path.name device.path) = true :=
    kindOfPath?_device.1 (hkind ▸ kindOfPath?_of_mem h hroot hd)
  have hslash : '/' ∉ (device.stem ++ Path.scriptSuffix).toList :=
    (EntryName.of_suffix device.slash_not_mem_stem (by decide)).slashless
  obtain ⟨hdirectory, hname⟩ := Path.directory_child hslash device.directory
  rw [← hpath] at hdirectory hname
  have hstem : Path.stem (Path.name device.path) = device.stem := rfl
  obtain ⟨-, hslot⟩ := (asksFor_hostStub_iff h hroot hd hkind).1 hasks
  rw [asksFor_hostStub_iff h' hroot' hd' hkind, ← Path.hasSuffix_name (by decide), hname]
  constructor
  · rintro ⟨hnone, -⟩
    by_contra hstub
    obtain ⟨hscript, hsame, hpairs⟩ := pairsWith_device hdevice hstem (Bool.eq_false_iff.2 hstub)
    rw [← hname] at hscript hpairs
    obtain ⟨a, ha, rfl, hstub⟩ :=
      exists_added hnew hfindable bytes hroot h' (kindOfPath?_hostStub.2 hscript)
      fun _ => ⟨device, hd', hdirectory, hpairs⟩
    have hkey : a.unitKey = device.unitKey :=
      Artifact.unitKey_eq_iff.2 ⟨hdirectory, by rw [Artifact.stem, hname]; exact hsame⟩
    have hsome := slot?_isSome_iff.2 ⟨a, ha, hstub, hkey⟩
    rw [hnone] at hsome
    cases hsome
  · intro hends
    refine ⟨?_, (slot?_eq_some_iff h').2 ⟨⟨hd', hkind, rfl⟩, fun b hb hkind' hkey => ?_⟩⟩
    · -- A host stub with this stem would have the suffix of a device script.
      rw [← Option.not_isSome_iff_eq_none, slot?_isSome_iff]
      rintro ⟨b, hb, hkind', hkey⟩
      have hscript := kindOfPath?_hostStub.1 (hkind' ▸ kindOfPath?_of_mem h' hroot' hb)
      rw [not_device_of_stem hscript (Artifact.unitKey_eq_iff.1 hkey).2] at hends
      cases hends
    · rcases mem_or_added hnew hfindable bytes hnamed hback hroot h h' hb (hkind' ▸ rfl)
        with hold | rfl
      · exact ((slot?_eq_some_iff h).1 hslot).2 b hold hkind' hkey
      · have hsame := (Artifact.unitKey_eq_iff.1 hkey).2
        rw [Artifact.stem, hname] at hsame
        exact absurd hsame (stem_ne_of_device hends)

/-- With a file in the place that a finding names, the finding is not made any longer, with two
exceptions: a host stub that would be a device script by its name, and a manifest in a directory for
languages. -/
theorem asksFor_added_iff {f : Finding} {kind : ArtifactKind} (hasks : p.AsksFor f kind)
    (hpath : path = f.path) :
    (∃ kind, p'.AsksFor f kind) ↔
      kind = .hostStub ∧ Path.hasSuffix Path.deviceScriptSuffix path = true ∨
      kind = .manifest ∧ localesDirectory ∈ Path.segments (Path.directory path) := by
  have hsame : (∃ kind', p'.AsksFor f kind') ↔ p'.AsksFor f kind :=
    ⟨fun ⟨kind', hasks'⟩ => hasks.kind_eq hasks' ▸ hasks', fun hasks' => ⟨kind, hasks'⟩⟩
  rw [hsame]
  cases kind with
  | descriptor =>
    obtain ⟨-, rfl⟩ := hasks
    exact iff_of_false (descriptor_added hnew hfindable hroot h' hpath) (by simp)
  | hostStub =>
    obtain ⟨u, hu, device, hdevice, rfl⟩ := id hasks
    obtain ⟨hd, hkind⟩ := mem_of_stublessDevice? h hu hdevice
    rw [noStubFor_path hnamed hback h hroot hd hkind] at hpath
    rw [hostStub_added hnew hfindable hroot h' hnamed hback h hd hkind hpath hasks]
    simp
  | deviceScript =>
    obtain ⟨u, hu, hlacks, rfl⟩ := hasks
    obtain ⟨s, hs, -, rfl⟩ := exists_stub h hu (NodeUnit.lacksDevice_iff.1 hlacks).1
    rw [noDeviceFor_path, ← s.unitKey_fst, ← s.unitKey_snd] at hpath
    exact iff_of_false (deviceScript_added hnew hfindable hroot h' s.slash_not_mem_unitKey hpath)
      (by simp)
  | manifest =>
    obtain ⟨u, hu, hlacks, rfl⟩ := hasks
    obtain ⟨s, hs, -, rfl⟩ := exists_stub h hu (NodeUnit.lacksManifest_iff.1 hlacks).1
    rw [noManifestFor_path, ← s.unitKey_fst] at hpath
    rw [manifest_added hnew hfindable hroot h' hnamed hback h s.slash_not_mem_unitKey hpath hlacks,
      hpath, (Path.directory_child slash_not_mem_manifestName s.unitKey.1).1]
    simp
  | editorMarkup | localeBundle => exact hasks.elim

end Added

end TwinNode
