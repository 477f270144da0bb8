import Mathlib.Data.Prod.Lex
import TwinNode.Proofs.Package.LocaleOwner
import TwinNode.Proofs.Package.Slots
import TwinNode.Proofs.Rule.Descriptor

/-! All rules rely on how artifacts are grouped, in whatever order they come and whatever
they are. A unit is there for each directory and stem of a part, and only for these. What
else a unit has is decided by places: a bundle by the directory above its last `locales`, a
key of the descriptor by the script that it leads to, a manifest by its directory. -/

namespace TwinNode

/-! ### The order of units -/

theorem UnitKey.le_iff {a b : UnitKey} : a.le b = true ↔ toLex a ≤ toLex b := by
  simp [le, Prod.Lex.toLex_le_toLex]

theorem UnitKey.le_trans (a b c : UnitKey) (hab : a.le b = true) (hbc : b.le c = true) :
    a.le c = true := by
  rw [le_iff] at *
  exact hab.trans hbc

theorem UnitKey.le_total (a b : UnitKey) : (a.le b || b.le a) = true := by
  rw [Bool.or_eq_true, le_iff, le_iff]
  exact LinearOrder.le_total (toLex a) (toLex b)

/-- Whether a unit stands before another: by directory, then by stem. -/
def NodeUnit.Before (u w : NodeUnit) : Prop :=
  u.directory < w.directory ∨ u.directory = w.directory ∧ u.stem < w.stem

section Group

variable {artifacts : List Artifact}

theorem groupUnits_ordered (artifacts : List Artifact) :
    (groupUnits artifacts).Pairwise NodeUnit.Before := by
  have hsorted := List.pairwise_mergeSort UnitKey.le_trans UnitKey.le_total (unitKeys artifacts)
  have hnodup : ((unitKeys artifacts).mergeSort UnitKey.le).Nodup :=
    (List.mergeSort_perm _ _).nodup_iff.2 (eraseDups_nodup _)
  refine List.pairwise_map.2 (hsorted.imp₂ (fun a b hle hne => ?_) hnodup)
  have hlt : toLex a < toLex b := lt_of_le_of_ne (UnitKey.le_iff.1 hle) hne
  exact Prod.Lex.toLex_lt_toLex.1 hlt

/-- A unit has the place of an artifact if and only if it is the unit with its key. -/
theorem unitOf_place {key : UnitKey} {a : Artifact} :
    a.directory = (unitOf artifacts key).directory ∧ a.stem = (unitOf artifacts key).stem ↔
      a.unitKey = key := by
  rw [unitOf_directory, unitOf_stem, ← a.unitKey_fst, ← a.unitKey_snd, Prod.ext_iff]

theorem eq_of_place {u w : NodeUnit} (hu : u ∈ groupUnits artifacts) (hw : w ∈ groupUnits artifacts)
    (hdirectory : u.directory = w.directory) (hstem : u.stem = w.stem) : u = w := by
  obtain ⟨key, _, rfl⟩ := mem_groupUnits.1 hu
  obtain ⟨key', _, rfl⟩ := mem_groupUnits.1 hw
  exact congrArg _ (Prod.ext hdirectory hstem)

theorem unitOf_mem_groupUnits {key : UnitKey} : unitOf artifacts key ∈ groupUnits artifacts ↔
    key ∈ unitKeys artifacts := by
  rw [mem_groupUnits]
  exact ⟨fun ⟨_, hkey, heq⟩ => unitOf_injective heq ▸ hkey, fun hkey => ⟨key, hkey, rfl⟩⟩

theorem existsUnique_unit {a : Artifact} (ha : a ∈ artifacts) (hpart : a.kind.isNodePart = true) :
    ∃! u, u ∈ groupUnits artifacts ∧ u.directory = a.directory ∧ u.stem = a.stem := by
  have hunit := unitOf_mem_groupUnits.2 (mem_unitKeys.2 ⟨a, ha, hpart, rfl⟩)
  have hplace : a.directory = (unitOf artifacts a.unitKey).directory ∧
      a.stem = (unitOf artifacts a.unitKey).stem :=
    unitOf_place.2 rfl
  refine ⟨unitOf artifacts a.unitKey, ⟨hunit, hplace.1.symm, hplace.2.symm⟩, ?_⟩
  rintro w ⟨hw, hdirectory, hstem⟩
  exact eq_of_place hw hunit (hdirectory.trans hplace.1) (hstem.trans hplace.2)

theorem isNodePart_of_part? {u : NodeUnit} {kind : ArtifactKind} {a : Artifact}
    (h : u.part? kind = some a) :
    kind.isNodePart = true := by
  cases kind with
  | hostStub | deviceScript | editorMarkup => rfl
  | descriptor | manifest | localeBundle => cases h

/-! ### Bundles -/

/-- Whether the directory of a unit is what is above the last directory `locales` on the path of a
bundle with its stem. -/
def NodeUnit.Owns (u : NodeUnit) (bundle : Artifact) : Prop :=
  ∃ above below, Path.segments bundle.directory = above ++ localesDirectory :: below ∧
    localesDirectory ∉ below ∧
    Path.join above = u.directory ∧ bundle.stem = u.stem

theorem owns_iff {u : NodeUnit} {bundle : Artifact} : u.Owns bundle ↔
    localeOwner? bundle.path = some (u.directory, u.stem) :=
  localeOwner?_eq_some_iff.symm

theorem mem_locales_iff {key : UnitKey} {bundle : Artifact} :
    bundle ∈ (unitOf artifacts key).locales ↔
    bundle ∈ artifacts ∧ bundle.kind = .localeBundle ∧ (unitOf artifacts key).Owns bundle := by
  rw [owns_iff]
  simp [unitOf]

/-! ### Keys of the descriptor -/

theorem Artifact.nodup_registrations {d : Artifact}
    (h : ∀ v, d.content = .json v → v.KeysDistinct) :
    (d.registrations.map (·.1)).Nodup := by
  unfold registrations json?
  split
  · next v hv =>
    cases hnodes : registrations? v with
    | none => simp [hnodes]
    | some nodes => simpa [hnodes] using TwinNode.nodup_registrations (h v hv) hnodes
  · exact List.nodup_nil

theorem nodup_registrationsAmong (h : ∀ a ∈ artifacts, ∀ v, a.content = .json v → v.KeysDistinct) :
    ((registrationsAmong artifacts).map (·.1)).Nodup := by
  unfold registrationsAmong
  split
  · next d hd =>
    exact d.nodup_registrations (h d (List.mem_of_mem_filter (List.mem_of_getLast? hd)))
  · exact List.nodup_nil

theorem mem_unitOf_descriptorKeys {key : UnitKey} {name : String} :
    name ∈ (unitOf artifacts key).descriptorKeys ↔
      ∃ written, (name, .str written) ∈ registrationsAmong artifacts ∧
        referencedUnit written = key := by
  constructor
  · intro h
    obtain ⟨⟨_, v⟩, hentry, rfl⟩ := List.mem_map.1 h
    obtain ⟨hin, hleads⟩ := List.mem_filter.1 hentry
    cases v with
    | str written => exact ⟨written, hin, by simpa [Json.Value.str?] using hleads⟩
    | null | bool | int | real | list | object => cases hleads
  · rintro ⟨written, hin, hleads⟩
    exact List.mem_map.2 ⟨_, List.mem_filter.2 ⟨hin, by simp [Json.Value.str?, hleads]⟩, rfl⟩

/-- A key leads to one place, so that two units with the key are the same one. -/
theorem eq_of_descriptorKey (h : ((registrationsAmong artifacts).map (·.1)).Nodup) {u w : NodeUnit}
    (hu : u ∈ groupUnits artifacts) (hw : w ∈ groupUnits artifacts) {name : String}
    (hname : name ∈ u.descriptorKeys) (hname' : name ∈ w.descriptorKeys) : u = w := by
  obtain ⟨key, _, rfl⟩ := mem_groupUnits.1 hu
  obtain ⟨key', _, rfl⟩ := mem_groupUnits.1 hw
  obtain ⟨written, hin, rfl⟩ := mem_unitOf_descriptorKeys.1 hname
  obtain ⟨written', hin', rfl⟩ := mem_unitOf_descriptorKeys.1 hname'
  have hsame := List.inj_on_of_nodup_map h hin hin' rfl
  obtain rfl : written = written' := by simpa using hsame
  rfl

/-! ### Manifests -/

/-- The keys with one directory are a single one if and only if there is no other. -/
theorem neighbours_length_eq_one_iff {key : UnitKey} (hkey : key ∈ unitKeys artifacts) :
    ((unitKeys artifacts).filter (·.1 == key.1)).length = 1 ↔
      ∀ other ∈ unitKeys artifacts, other.1 = key.1 → other = key := by
  have hin : ∀ other, other ∈ (unitKeys artifacts).filter (·.1 == key.1) ↔
      other ∈ unitKeys artifacts ∧ other.1 = key.1 := by
    simp [List.mem_filter]
  constructor
  · intro hone other hother hdirectory
    obtain ⟨only, honly⟩ := List.length_eq_one_iff.1 hone
    simp only [honly, List.mem_singleton] at hin
    rw [(hin other).2 ⟨hother, hdirectory⟩, (hin key).2 ⟨hkey, rfl⟩]
  · intro halone
    have hall : ∀ other ∈ (unitKeys artifacts).filter (·.1 == key.1), other = key := by
      intro other hother
      obtain ⟨hother, hdirectory⟩ := (hin other).1 hother
      exact halone other hother hdirectory
    have hnodup : ((unitKeys artifacts).filter (·.1 == key.1)).Nodup := (eraseDups_nodup _).filter _
    rw [List.eq_replicate_of_mem hall, List.nodup_replicate] at hnodup
    have hpos := List.length_pos_of_mem ((hin key).2 ⟨hkey, rfl⟩)
    omega

theorem exists_unitManifest_iff {key : UnitKey} (hkey : key ∈ unitKeys artifacts) :
    (unitManifest? artifacts key).isSome = true ↔
      (∃ m ∈ artifacts, m.kind = .manifest ∧ m.directory = key.1) ∧
        ((slot? artifacts .deviceScript key).isSome = true ∨
          ∀ other ∈ unitKeys artifacts, other.1 = key.1 → other = key) := by
  rw [← neighbours_length_eq_one_iff hkey]
  unfold unitManifest?
  dsimp only
  split
  · next h =>
    rw [Bool.or_eq_true, decide_eq_true_eq] at h
    rw [List.getLast?_isSome, Ne, List.filter_eq_nil_iff]
    simp [h]
  · next h =>
    rw [Bool.or_eq_true, decide_eq_true_eq] at h
    simp [h]

theorem alone_iff {key : UnitKey} : (∀ other ∈ unitKeys artifacts, other.1 = key.1 → other = key) ↔
    ∀ w ∈ groupUnits artifacts, w.directory = (unitOf artifacts key).directory →
      w = unitOf artifacts key := by
  constructor
  · intro halone w hw hdirectory
    obtain ⟨other, hother, rfl⟩ := mem_groupUnits.1 hw
    rw [halone other hother hdirectory]
  · intro halone other hother hdirectory
    exact unitOf_injective (halone _ (unitOf_mem_groupUnits.2 hother) hdirectory)

theorem mem_of_unitManifest? {key : UnitKey} {m : Artifact}
    (h : unitManifest? artifacts key = some m) :
    m ∈ artifacts ∧ m.kind = .manifest ∧ m.directory = key.1 := by
  unfold unitManifest? at h
  dsimp only at h
  split at h
  · simpa using List.mem_of_getLast? h
  · cases h

end Group

/-! ### All together -/

/-- What the units of artifacts are. -/
structure Grouping (artifacts : List Artifact) (units : List NodeUnit) : Prop where
  ordered : units.Pairwise NodeUnit.Before
  unit : ∀ a ∈ artifacts, a.kind.isNodePart = true → ∃! u, u ∈ units ∧
    u.directory = a.directory ∧ u.stem = a.stem
  occurs : ∀ u ∈ units, ∃ a ∈ artifacts, a.kind.isNodePart = true ∧
    a.directory = u.directory ∧ a.stem = u.stem
  part : ∀ u ∈ units, ∀ kind a, u.part? kind = some a →
    a ∈ artifacts ∧ a.kind = kind ∧ a.directory = u.directory ∧ a.stem = u.stem
  filled : ∀ u ∈ units, ∀ a ∈ artifacts, a.kind.isNodePart = true →
    a.directory = u.directory → a.stem = u.stem →
    (u.part? a.kind).isSome = true
  bundle : ∀ u ∈ units, ∀ b, b ∈ u.locales ↔ b ∈ artifacts ∧ b.kind = .localeBundle ∧ u.Owns b
  bundleOnce : ∀ u ∈ units, ∀ w ∈ units, ∀ b, b ∈ u.locales → b ∈ w.locales → u = w
  keyOnce : ∀ u ∈ units, ∀ w ∈ units, ∀ name, name ∈ u.descriptorKeys →
    name ∈ w.descriptorKeys → u = w
  manifestKind : ∀ u ∈ units, ∀ m, u.manifest = some m → m ∈ artifacts ∧ m.kind = .manifest ∧
    m.directory = u.directory
  manifest : ∀ u ∈ units, u.manifest.isSome = true ↔
    (∃ m ∈ artifacts, m.kind = .manifest ∧ m.directory = u.directory) ∧
      (u.device.isSome = true ∨ ∀ w ∈ units, w.directory = u.directory → w = u)

/-- The units of any artifacts are what the rules take them for. No value read from a text has a key
twice, see `Json.keysDistinct_read`. -/
theorem groupUnits_grouping {artifacts : List Artifact}
    (h : ∀ a ∈ artifacts, ∀ v, a.content = .json v → v.KeysDistinct) :
    Grouping artifacts (groupUnits artifacts) where
  ordered := groupUnits_ordered artifacts
  unit a ha hpart := existsUnique_unit ha hpart
  occurs u hu := by
    obtain ⟨key, hkey, rfl⟩ := mem_groupUnits.1 hu
    obtain ⟨a, ha, hpart, hplace⟩ := mem_unitKeys.1 hkey
    exact ⟨a, ha, hpart, unitOf_place.2 hplace⟩
  part u hu kind a hslot := by
    obtain ⟨key, hkey, rfl⟩ := mem_groupUnits.1 hu
    rw [part?_unitOf (isNodePart_of_part? hslot)] at hslot
    obtain ⟨ha, hkind, hplace⟩ := mem_of_slot? hslot
    exact ⟨ha, hkind, unitOf_place.2 hplace⟩
  filled u hu a ha hpart hdirectory hstem := by
    obtain ⟨key, hkey, rfl⟩ := mem_groupUnits.1 hu
    rw [part?_unitOf hpart, slot?_isSome_iff]
    exact ⟨a, ha, rfl, unitOf_place.1 ⟨hdirectory, hstem⟩⟩
  bundle u hu b := by
    obtain ⟨key, hkey, rfl⟩ := mem_groupUnits.1 hu
    exact mem_locales_iff
  bundleOnce u hu w hw b hb hb' := by
    obtain ⟨key, hkey, rfl⟩ := mem_groupUnits.1 hu
    obtain ⟨key', hkey', rfl⟩ := mem_groupUnits.1 hw
    have howner := owns_iff.1 (mem_locales_iff.1 hb).2.2
    rw [owns_iff.1 (mem_locales_iff.1 hb').2.2] at howner
    exact congrArg _ (Option.some.inj howner).symm
  keyOnce u hu w hw name hname hname' :=
    eq_of_descriptorKey (nodup_registrationsAmong h) hu hw hname hname'
  manifestKind u hu m hm := by
    obtain ⟨key, hkey, rfl⟩ := mem_groupUnits.1 hu
    exact mem_of_unitManifest? hm
  manifest u hu := by
    obtain ⟨key, hkey, rfl⟩ := mem_groupUnits.1 hu
    rw [← alone_iff]
    exact exists_unitManifest_iff hkey

/-- A script for a device and a page without a host script in one directory, with a manifest, a
bundle and a descriptor that registers the script. -/
def scriptAndPage : List Artifact :=
  [⟨.deviceScript, "d/a.mcu.js", [], .scanned (Script.views [])⟩,
    ⟨.editorMarkup, "d/b.html", [], .scanned (Markup.views [])⟩,
    ⟨.localeBundle, "d/locales/en-US/a.html", [], .present⟩,
      ⟨.manifest, "d/manifest.json", [], .json (.object [])⟩,
    ⟨.descriptor, "package.json", [],
      .json (.object [("node-red", .object [("nodes", .object [("a", .str "d/a.js")])])])⟩]

/-- The manifest belongs to the script and not to the page. -/
theorem groupUnits_grouping_scriptAndPage :
    (∀ a ∈ scriptAndPage, ∀ v, a.content = .json v → v.KeysDistinct) ∧
      Grouping scriptAndPage (groupUnits scriptAndPage) ∧
      ∀ u ∈ groupUnits scriptAndPage, u.manifest.isSome = true ↔ u.device.isSome = true := by
  have hkeys : ∀ a ∈ scriptAndPage, ∀ v, a.content = .json v → v.KeysDistinct := by
    simp only [scriptAndPage, List.forall_mem_cons]
    refine ⟨nofun, nofun, nofun, ?_, ?_, nofun⟩
    · rintro _ ⟨rfl⟩
      exact .object List.nodup_nil nofun
    · rintro _ ⟨rfl⟩
      exact .entry (.entry (.entry (.str _)))
  have hunits : groupUnits scriptAndPage =
      [unitOf scriptAndPage ("d", "a"), unitOf scriptAndPage ("d", "b")] :=
    congrArg (List.map _) (List.mergeSort_of_pairwise (by decide))
  refine ⟨hkeys, groupUnits_grouping hkeys, ?_⟩
  rw [hunits]
  simp only [List.forall_mem_cons]
  exact ⟨by decide +kernel, by decide +kernel, List.forall_mem_nil _⟩

end TwinNode
