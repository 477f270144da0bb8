import Mathlib.Data.List.Pairwise
import TwinNode.Proofs.Package.Contents
import TwinNode.Proofs.Package.Units

/-! A package has one unit for each directory and stem that a script or a markup file has. A
unit has one place for each kind of them. But several suffixes, and suffixes in capital
letters, leave the same stem: then the artifact with the last path takes the place, and the
others are in no unit. -/

namespace TwinNode

/-- The artifact of a unit that is of a kind, for the kinds that make up units. -/
def NodeUnit.part? (u : NodeUnit) : ArtifactKind → Option Artifact
  | .hostStub => u.stub
  | .deviceScript => u.device
  | .editorMarkup => u.markup
  | .descriptor | .manifest | .localeBundle => none

theorem eraseDups_nodup [BEq α] [LawfulBEq α] (xs : List α) : xs.eraseDups.Nodup := by
  match xs with
  | [] => exact List.nodup_nil
  | x :: xs =>
    rw [List.eraseDups_cons]
    refine List.nodup_cons.2 ⟨fun hin => ?_, eraseDups_nodup _⟩
    simpa using (List.mem_filter.1 (List.mem_eraseDups.1 hin)).2
termination_by xs.length
decreasing_by exact Nat.lt_succ_of_le (List.length_filter_le _ _)

section Group

variable {artifacts : List Artifact}

theorem mem_unitKeys {key : UnitKey} :
    key ∈ unitKeys artifacts ↔ ∃ a ∈ artifacts, a.kind.isNodePart = true ∧ a.unitKey = key := by
  unfold unitKeys
  rw [List.mem_eraseDups, List.mem_map]
  simp only [List.mem_filter, and_assoc]

theorem mem_groupUnits {u : NodeUnit} : u ∈ groupUnits artifacts ↔
    ∃ key ∈ unitKeys artifacts, unitOf artifacts key = u := by
  unfold groupUnits
  simp only [List.mem_map, List.mem_mergeSort]

@[simp] theorem Artifact.unitKey_fst (a : Artifact) : a.unitKey.1 = a.directory := rfl

@[simp] theorem Artifact.unitKey_snd (a : Artifact) : a.unitKey.2 = a.stem := by rw [unitKey]

@[simp] theorem unitOf_directory (key : UnitKey) : (unitOf artifacts key).directory = key.1 := rfl

@[simp] theorem unitOf_stem (key : UnitKey) : (unitOf artifacts key).stem = key.2 := rfl

theorem unitOf_injective {key key' : UnitKey} (h : unitOf artifacts key = unitOf artifacts key') :
    key = key' :=
  Prod.ext (congrArg NodeUnit.directory h) (congrArg NodeUnit.stem h)

theorem Artifact.unitKey_eq_iff {a b : Artifact} : a.unitKey = b.unitKey ↔
    a.directory = b.directory ∧ a.stem = b.stem := by
  rw [unitKey, unitKey, Prod.mk.injEq]

theorem groupUnits_nodup : (groupUnits artifacts).Nodup := by
  refine List.Nodup.map_on (fun _ _ _ _ => unitOf_injective) ?_
  rw [(List.mergeSort_perm _ _).nodup_iff]
  exact eraseDups_nodup _

theorem part?_unitOf {kind : ArtifactKind} (h : kind.isNodePart = true) (key : UnitKey) :
    (unitOf artifacts key).part? kind = slot? artifacts kind key := by
  cases kind with
  | hostStub | deviceScript | editorMarkup => rfl
  | descriptor | manifest | localeBundle => cases h

theorem slot?_isSome_iff {kind : ArtifactKind} {key : UnitKey} :
    (slot? artifacts kind key).isSome = true ↔ ∃ a ∈ artifacts, a.kind = kind ∧
      a.unitKey = key := by
  constructor
  · intro h
    obtain ⟨a, ha⟩ := Option.isSome_iff_exists.1 h
    exact ⟨a, mem_of_slot? ha⟩
  · rintro ⟨a, ha, hkind, hkey⟩
    refine List.getLast?_isSome.2 (List.ne_nil_of_mem (a := a) (List.mem_filter.2 ⟨ha, ?_⟩))
    simp [hkind, hkey]

theorem le_of_slot? (hsorted : artifacts.Pairwise fun a b => a.path ≤ b.path)
    {kind : ArtifactKind} {key : UnitKey} {a b : Artifact} (ha : slot? artifacts kind key = some a)
    (hb : b ∈ artifacts) (hkind : b.kind = kind) (hkey : b.unitKey = key) : b.path ≤ a.path := by
  have hin : b ∈ artifacts.filter fun a => a.kind = kind && a.unitKey == key :=
    List.mem_filter.2 ⟨hb, by simp [hkind, hkey]⟩
  have hlast :=
    (hsorted.filter fun a => a.kind =
      kind && a.unitKey == key).rel_getLast_of_rel_getLast_getLast hin
    (String.le_refl _)
  rw [slot?, List.getLast?_eq_some_getLast (List.ne_nil_of_mem hin)] at ha
  rwa [Option.some.inj ha] at hlast

end Group

section Discovered

variable {fs : FileSystem} {root : Path.Location} {exclude : List String}
  {workers : Int} {p : Package} (h : discover fs root exclude workers = .ok p)
include h

/-- The artifact with a place in a unit is the one of its kind, directory and stem that has the last
path. -/
theorem slot?_eq_some_iff {kind : ArtifactKind} {key : UnitKey} {a : Artifact} :
    slot? p.artifacts kind key = some a ↔ (a ∈ p.artifacts ∧ a.kind = kind ∧ a.unitKey = key) ∧
      ∀ b ∈ p.artifacts, b.kind = kind → b.unitKey = key → b.path ≤ a.path := by
  obtain ⟨place, hroot, _⟩ := discover_eq_ok h
  have hsorted := artifacts_sorted h hroot
  constructor
  · exact fun ha => ⟨mem_of_slot? ha, fun b => le_of_slot? hsorted ha⟩
  · rintro ⟨hmem, hlast⟩
    obtain ⟨b, hb⟩ := Option.isSome_iff_exists.1 (slot?_isSome_iff.2 ⟨a, hmem⟩)
    obtain ⟨hin, hkind, hkey⟩ := mem_of_slot? hb
    have hpath :=
      String.le_antisymm (hlast b hin hkind hkey) (le_of_slot? hsorted hb hmem.1 hmem.2.1 hmem.2.2)
    rw [hb, artifact_eq_of_path h hroot hin hmem.1 hpath]

theorem mem_units {u : NodeUnit} : u ∈ p.units ↔
    ∃ key ∈ unitKeys p.artifacts, unitOf p.artifacts key = u := by
  obtain ⟨_, _, _, _, hunits⟩ := discover_eq_ok h
  rw [hunits, mem_groupUnits]

theorem unitOf_mem_units {a : Artifact} (ha : a ∈ p.artifacts) (hpart : a.kind.isNodePart = true) :
    unitOf p.artifacts a.unitKey ∈ p.units :=
  (mem_units h).2 ⟨_, mem_unitKeys.2 ⟨a, ha, hpart, rfl⟩, rfl⟩

theorem eq_unitOf {u : NodeUnit} (hu : u ∈ p.units) {a : Artifact}
    (hdirectory : u.directory = a.directory) (hstem : u.stem = a.stem) :
    u = unitOf p.artifacts a.unitKey := by
  obtain ⟨key, _, rfl⟩ := (mem_units h).1 hu
  have hkey : key = (a.directory, a.stem) := by
    rw [← hdirectory, ← hstem]
    rfl
  rw [hkey]
  rfl

section Part

variable {a : Artifact} (ha : a ∈ p.artifacts) (hpart : a.kind.isNodePart = true)
include ha hpart

theorem part?_eq_some_iff {u : NodeUnit} : u ∈ p.units ∧ u.part? a.kind = some a ↔
    u = unitOf p.artifacts a.unitKey ∧ slot? p.artifacts a.kind a.unitKey = some a := by
  constructor
  · rintro ⟨hu, hslot⟩
    obtain ⟨key, _, rfl⟩ := (mem_units h).1 hu
    rw [part?_unitOf hpart] at hslot
    obtain rfl := (mem_of_slot? hslot).2.2
    exact ⟨rfl, hslot⟩
  · rintro ⟨rfl, hslot⟩
    exact ⟨unitOf_mem_units h ha hpart, (part?_unitOf hpart _).trans hslot⟩

/-- No unit is there twice, and a script or a markup file has its place in one unit unless another
artifact of its kind has the same directory, the same stem and a later path. Then it has a place in
no unit. -/
theorem part_of_one_unit_iff : p.units.Nodup ∧
    ((∃! u, u ∈ p.units ∧ u.part? a.kind = some a) ↔
      ∀ b ∈ p.artifacts, b.kind = a.kind → b.directory = a.directory →
        b.stem = a.stem → b.path ≤ a.path) ∧
    ((∃ u, u ∈ p.units ∧ u.part? a.kind = some a) →
      ∃! u, u ∈ p.units ∧ u.part? a.kind = some a) := by
  obtain ⟨_, _, _, _, hunits⟩ := discover_eq_ok h
  have hlast : slot? p.artifacts a.kind a.unitKey = some a ↔
      ∀ b ∈ p.artifacts, b.kind = a.kind → b.directory = a.directory →
        b.stem = a.stem → b.path ≤ a.path := by
    rw [slot?_eq_some_iff h]
    simp only [ha, true_and, Artifact.unitKey_eq_iff, and_imp]
  simp only [part?_eq_some_iff h ha hpart]
  rw [← hlast]
  refine ⟨hunits ▸ groupUnits_nodup, ⟨fun ⟨_, hu, _⟩ => hu.2, fun hslot => ?_⟩,
    fun ⟨_, _, hslot⟩ => ?_⟩
  all_goals exact ⟨_, ⟨rfl, hslot⟩, fun _ hv => hv.1⟩

end Part

end Discovered

/-- Of two markup files with the stem of a script, the one with the later path is in the unit. -/
theorem part_of_one_unit_twoPages : emptyPage "a.html" ∈ twoPagesPackage.artifacts ∧
    (∃! u, u ∈ twoPagesPackage.units ∧ u.markup = some (emptyPage "a.html")) := by
  have hin : emptyPage "a.html" ∈ twoPagesPackage.artifacts := .tail _ (.head _)
  refine ⟨hin, (part_of_one_unit_iff discover_twoPages hin rfl).2.1.2 ?_⟩
  have hpaths : ∀ b ∈ twoPagesPackage.artifacts, b.kind = .editorMarkup → b.path ≤ "a.html" := by
    show ∀ b ∈ [emptyPage "a.htm", emptyPage "a.html", emptyStub "a.js"], b.kind = .editorMarkup →
      b.path ≤ "a.html"
    simp only [List.forall_mem_cons]
    exact ⟨by decide, by decide, nofun, List.forall_mem_nil _⟩
  exact fun b hb hkind _ _ => hpaths b hb hkind

/-- The other one is an artifact that no unit has. -/
theorem dropped_from_twoPages : ∃ p, discover twoPages (Path.Location.ofString "/") [] 1 = .ok p ∧
    ∃ a ∈ p.artifacts, a.kind = .editorMarkup ∧ ∀ u ∈ p.units, u.markup ≠ some a := by
  refine ⟨twoPagesPackage, discover_twoPages, emptyPage "a.htm", .head _,
    rfl, fun u hu hmarkup => ?_⟩
  obtain ⟨key, _, rfl⟩ := (mem_units discover_twoPages).1 hu
  have hlater : emptyPage "a.html" ∈ twoPagesPackage.artifacts := .tail _ (.head _)
  obtain ⟨⟨_, _, hkey⟩, hlast⟩ := (slot?_eq_some_iff discover_twoPages).1 hmarkup
  exact absurd (hlast _ hlater rfl (hkey ▸ by decide)) (by decide)

end TwinNode
