import TwinNode.Proofs.Package.Damaged
import TwinNode.Proofs.Package.Slots

/-! Only host stubs are lost with the references of a damaged descriptor, and of those that
share a unit either all or none. So a unit that is still there has the device script, the
markup and the locale bundles that it had, and the host stub that it had or none. A manifest
can move to a unit that is now alone in its directory. -/

namespace TwinNode

/-- What holds when a JSON file of a package is damaged whose descriptor has no fault. -/
structure Package.Damageable (p : Package) (files : List String) (x : Damage) : Prop where
  units : p.units = groupUnits p.artifacts
  paths : ∀ a ∈ p.artifacts, ∀ b ∈ p.artifacts, a.path = b.path → a = b
  descriptor : ∀ d ∈ p.artifacts, d.kind = .descriptor → d.path = descriptorName
  json : ∀ a ∈ p.artifacts, x.hits a.path = true → a.kind.isJson = true
  kept : ∀ a ∈ p.artifacts, a.kind ≠ .hostStub ∨ x.hits descriptorName = false →
    a.keptBy files (x.references p) = true
  alike : ∀ a ∈ p.artifacts, ∀ b ∈ p.artifacts, a.kind = .hostStub →
    b.kind = .hostStub → a.unitKey = b.unitKey →
    a.keptBy files (x.references p) = true → b.keptBy files (x.references p) = true
  device : ∀ a ∈ p.artifacts, ∀ b ∈ p.artifacts, a.kind = .hostStub →
    b.kind = .deviceScript → a.unitKey = b.unitKey →
    a.keptBy files (x.references p) = true
  partner : ∀ m ∈ (p.damaged files x).artifacts, m.kind = .editorMarkup →
    ∃ b ∈ (p.damaged files x).artifacts, b.directory = m.directory ∧
      (b.kind = .hostStub ∨ b.kind = .deviceScript)

section Map

variable (x : Damage) (artifacts : List Artifact)

theorem map_on_of_not_hit {artifacts : List Artifact} (h : ∀ a ∈ artifacts, x.hits a.path = false) :
    artifacts.map x.on = artifacts := by
  have hon : ∀ a ∈ artifacts, x.on a = id a := fun a ha => x.on_of_not_hit (h a ha)
  rw [List.map_congr_left hon, List.map_id]

theorem filter_map_on {q : Artifact → Bool} (hq : ∀ a, q (x.on a) = q a) :
    (artifacts.map x.on).filter q = (artifacts.filter q).map x.on := by
  rw [List.filter_map]
  congr 1
  exact List.filter_congr fun a _ => hq a

theorem unitKeys_map_on : unitKeys (artifacts.map x.on) = unitKeys artifacts := by
  unfold unitKeys
  rw [filter_map_on x artifacts fun _ => rfl, List.map_map]
  rfl

theorem slot?_map_on (kind : ArtifactKind) (key : UnitKey) :
    slot? (artifacts.map x.on) kind key = (slot? artifacts kind key).map x.on := by
  unfold slot?
  rw [filter_map_on x artifacts fun _ => rfl, List.getLast?_map]

theorem unitManifest?_map_on (key : UnitKey) :
    unitManifest? (artifacts.map x.on) key = (unitManifest? artifacts key).map x.on := by
  unfold unitManifest?
  rw [unitKeys_map_on, slot?_map_on, filter_map_on x artifacts fun _ => rfl,
    List.getLast?_map, Option.isSome_map]
  dsimp only
  split <;> rfl

end Map

namespace Package

variable {p : Package} {files : List String} {x : Damage}

theorem mem_damaged {a : Artifact} : a ∈ (p.damaged files x).artifacts ↔
    ∃ b ∈ p.artifacts, b.keptBy files (x.references p) = true ∧ x.on b = a := by
  simp [damaged, and_assoc]

theorem unitKeys_damaged : unitKeys (p.damaged files x).artifacts ⊆ unitKeys p.artifacts := by
  intro key hkey
  obtain ⟨a, ha, hpart, rfl⟩ := mem_unitKeys.1 hkey
  obtain ⟨b, hb, _, rfl⟩ := mem_damaged.1 ha
  exact mem_unitKeys.2 ⟨b, hb, hpart, rfl⟩

/-- Artifacts of which none is lost. -/
theorem filter_damaged {q : Artifact → Bool} (hq : ∀ a, q (x.on a) = q a)
    (hkept : ∀ a ∈ p.artifacts, q a = true → a.keptBy files (x.references p) = true) :
    (p.damaged files x).artifacts.filter q = (p.artifacts.filter q).map x.on := by
  unfold damaged
  rw [filter_map_on _ _ hq, List.filter_filter]
  congr 1
  apply List.filter_congr
  intro a ha
  cases hqa : q a with
  | false => rfl
  | true => rw [hkept a ha hqa]; rfl

namespace Damageable

variable (h : p.Damageable files x)
include h

theorem not_hit {a : Artifact} (ha : a ∈ p.artifacts) (hkind : a.kind.isJson = false) :
    x.hits a.path = false := by
  cases hhit : x.hits a.path with
  | false => rfl
  | true =>
    rw [h.json a ha hhit] at hkind
    cases hkind

theorem ofKind_damaged {kind : ArtifactKind} (hkind : kind ≠ .hostStub) :
    (p.damaged files x).ofKind kind = (p.ofKind kind).map x.on := by
  apply filter_damaged fun _ => rfl
  intro a ha hq
  apply h.kept a ha
  left
  rw [of_decide_eq_true hq]
  exact hkind

theorem path_of_descriptor? {d : Artifact} (hd : p.descriptor? = some d) :
    d.path = descriptorName := by
  have hkind : d.kind = .descriptor := by simpa using List.find?_some hd
  exact h.descriptor d (List.mem_of_find?_eq_some hd) hkind

theorem descriptor?_damaged : (p.damaged files x).descriptor? = p.descriptor?.map x.on := by
  have hofKind : (p.damaged files x).ofKind .descriptor = (p.ofKind .descriptor).map x.on :=
    h.ofKind_damaged (by decide)
  unfold descriptor?
  rw [← List.head?_filter, ← List.head?_filter, ← List.head?_map]
  exact congrArg List.head? hofKind

/-- The device script and the markup of a unit are those that it had. -/
theorem slot?_damaged {kind : ArtifactKind} (hkind : kind ≠ .hostStub)
    (hjson : kind.isJson = false) (key : UnitKey) :
    slot? (p.damaged files x).artifacts kind key = slot? p.artifacts kind key := by
  unfold slot?
  rw [filter_damaged fun _ => rfl, map_on_of_not_hit]
  · intro a ha
    obtain ⟨ha, hq⟩ := List.mem_filter.1 ha
    simp only [Bool.and_eq_true, decide_eq_true_eq] at hq
    exact h.not_hit ha (hq.1 ▸ hjson)
  · intro a ha hq
    simp only [Bool.and_eq_true, decide_eq_true_eq] at hq
    apply h.kept a ha
    left
    rw [hq.1]
    exact hkind

/-- Where a host stub of a unit is left, all are, and so the last one is the same. -/
theorem slot?_stub_of_kept {key : UnitKey} {a : Artifact} (ha : a ∈ p.artifacts)
    (hkind : a.kind = .hostStub) (hkey : a.unitKey = key)
    (hkept : a.keptBy files (x.references p) = true) :
    slot? (p.damaged files x).artifacts .hostStub key = slot? p.artifacts .hostStub key := by
  have hall : ∀ b ∈ p.artifacts, (decide (b.kind = .hostStub) && b.unitKey == key) = true →
      b.kind = .hostStub ∧ b.keptBy files (x.references p) = true := by
    intro b hb hq
    simp only [Bool.and_eq_true, decide_eq_true_eq, beq_iff_eq] at hq
    exact ⟨hq.1, h.alike a ha b hb hkind hq.1 (hkey.trans hq.2.symm) hkept⟩
  unfold slot?
  rw [filter_damaged (fun _ => rfl) fun b hb hq => (hall b hb hq).2, map_on_of_not_hit]
  intro b hb
  obtain ⟨hb, hq⟩ := List.mem_filter.1 hb
  exact h.not_hit hb ((hall b hb hq).1 ▸ rfl)

/-- A unit has the host stub that it had, or none. -/
theorem slot?_stub_damaged {key : UnitKey} {a : Artifact}
    (hslot : slot? (p.damaged files x).artifacts .hostStub key = some a) :
    slot? p.artifacts .hostStub key = some a := by
  obtain ⟨hmem, hkind, hkey⟩ := mem_of_slot? hslot
  obtain ⟨b, hb, hkept, rfl⟩ := mem_damaged.1 hmem
  rw [← h.slot?_stub_of_kept hb hkind hkey hkept, hslot]

/-- Next to a device script the host stub stays. -/
theorem slot?_stub_beside_device {key : UnitKey}
    (hdevice : (slot? p.artifacts .deviceScript key).isSome = true) :
    slot? (p.damaged files x).artifacts .hostStub key = slot? p.artifacts .hostStub key := by
  obtain ⟨b, hb, hkind', hkey'⟩ := slot?_isSome_iff.1 hdevice
  cases hslot : slot? p.artifacts .hostStub key with
  | some a =>
    obtain ⟨ha, hkind, hkey⟩ := mem_of_slot? hslot
    have hkept := h.device a ha b hb hkind hkind' (hkey.trans hkey'.symm)
    rw [h.slot?_stub_of_kept ha hkind hkey hkept, hslot]
  | none =>
    cases hslot' : slot? (p.damaged files x).artifacts .hostStub key with
    | none => rfl
    | some a =>
      rw [h.slot?_stub_damaged hslot'] at hslot
      cases hslot

/-- Next to a device script the manifest stays. -/
theorem unitManifest?_beside_device {key : UnitKey}
    (hdevice : (slot? p.artifacts .deviceScript key).isSome = true) :
    (unitManifest? (p.damaged files x).artifacts key).isSome =
      (unitManifest? p.artifacts key).isSome := by
  have hdevice' : (slot? (p.damaged files x).artifacts .deviceScript key).isSome = true := by
    rw [h.slot?_damaged (by decide) rfl]
    exact hdevice
  unfold unitManifest?
  rw [hdevice, hdevice', filter_damaged fun _ => rfl]
  · simp
  · intro a ha hq
    simp only [Bool.and_eq_true, decide_eq_true_eq] at hq
    apply h.kept a ha
    left
    rw [hq.1]
    decide

theorem locales_damaged (key : UnitKey) : (unitOf (p.damaged files x).artifacts key).locales =
    (unitOf p.artifacts key).locales.map x.on := by
  apply filter_damaged fun _ => rfl
  intro a ha hq
  simp only [Bool.and_eq_true, decide_eq_true_eq] at hq
  apply h.kept a ha
  left
  rw [hq.1]
  decide

/-- Each unit is what is left of a unit. -/
theorem mem_units_damaged {u : NodeUnit} (hu : u ∈ (p.damaged files x).units) :
    ∃ key, u = unitOf (p.damaged files x).artifacts key ∧ unitOf p.artifacts key ∈ p.units := by
  obtain ⟨key, hkey, rfl⟩ := mem_groupUnits.1 hu
  refine ⟨key, rfl, ?_⟩
  rw [h.units, mem_groupUnits]
  exact ⟨key, unitKeys_damaged hkey, rfl⟩

/-- Markup without scripts in its unit is not alone in its directory. -/
theorem unitManifest?_markup_alone {key : UnitKey} {m : Artifact}
    (hmarkup : slot? (p.damaged files x).artifacts .editorMarkup key = some m)
    (hstub : slot? (p.damaged files x).artifacts .hostStub key = none)
    (hdevice : slot? (p.damaged files x).artifacts .deviceScript key = none) :
    unitManifest? (p.damaged files x).artifacts key = none := by
  obtain ⟨hm, hkind, rfl⟩ := mem_of_slot? hmarkup
  obtain ⟨b, hb, hdirectory, hscript⟩ := h.partner m hm hkind
  have hne : b.unitKey ≠ m.unitKey := by
    intro heq
    rcases hscript with hk | hk
    · have hsome := slot?_isSome_iff.2 ⟨b, hb, hk, heq⟩
      rw [hstub] at hsome
      cases hsome
    · have hsome := slot?_isSome_iff.2 ⟨b, hb, hk, heq⟩
      rw [hdevice] at hsome
      cases hsome
  have hpart : b.kind.isNodePart = true := by rcases hscript with hk | hk <;> rw [hk] <;> rfl
  have hpart' : m.kind.isNodePart = true := by rw [hkind]; rfl
  unfold unitManifest?
  dsimp only
  rw [hdevice, if_neg]
  intro hone
  simp only [Option.isSome_none, Bool.false_or, decide_eq_true_eq] at hone
  obtain ⟨only, honly⟩ := List.length_eq_one_iff.1 hone
  have hmem : ∀ a ∈ (p.damaged files x).artifacts, a.kind.isNodePart = true →
    a.directory = m.directory →
      a.unitKey = only := by
    intro a ha hpart hdirectory
    have hin : a.unitKey ∈ (unitKeys (p.damaged files x).artifacts).filter (·.1 == m.unitKey.1) :=
      List.mem_filter.2 ⟨mem_unitKeys.2 ⟨a, ha, hpart, rfl⟩, beq_iff_eq.2 hdirectory⟩
    rw [honly] at hin
    exact List.mem_singleton.1 hin
  exact hne ((hmem b hb hpart hdirectory).trans (hmem m hm hpart' rfl).symm)

end Damageable

end Package

end TwinNode
