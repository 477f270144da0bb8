import Mathlib.Data.List.Basic
import TwinNode.Package.Discovery
import TwinNode.Proofs.Package.Loading

namespace TwinNode

theorem mem_of_slot? {artifacts : List Artifact} {kind : ArtifactKind}
    {key : UnitKey} {a : Artifact} (h : slot? artifacts kind key = some a) :
    a ∈ artifacts ∧ a.kind = kind ∧ a.unitKey = key := by
  have hmem := List.mem_of_getLast? h
  simpa using hmem

theorem exists_key_of_mem_groupUnits {artifacts : List Artifact} {u : NodeUnit}
    (h : u ∈ groupUnits artifacts) :
    ∃ key, u = unitOf artifacts key := by
  obtain ⟨key, _, rfl⟩ := List.mem_map.1 h
  exact ⟨key, rfl⟩

/-- The artifacts of a unit, by their kinds. -/
structure NodeUnit.PartOf (u : NodeUnit) (artifacts : List Artifact) : Prop where
  stub : ∀ a ∈ u.stub, a ∈ artifacts ∧ a.kind = .hostStub
  device : ∀ a ∈ u.device, a ∈ artifacts ∧ a.kind = .deviceScript
  markup : ∀ a ∈ u.markup, a ∈ artifacts ∧ a.kind = .editorMarkup
  keys : ∃ key, u.descriptorKeys = ((registrationsAmong artifacts).filter fun entry =>
    entry.2.str?.any fun reference => referencedUnit reference == key).map (·.1)

theorem partOf_of_mem_groupUnits {artifacts : List Artifact} {u : NodeUnit}
    (h : u ∈ groupUnits artifacts) :
    u.PartOf artifacts := by
  obtain ⟨key, rfl⟩ := exists_key_of_mem_groupUnits h
  have part : ∀ {kind a}, a ∈ slot? artifacts kind key → a ∈ artifacts ∧ a.kind = kind := by
    intro kind a ha
    obtain ⟨hmem, hkind, _⟩ := mem_of_slot? ha
    exact ⟨hmem, hkind⟩
  exact ⟨fun _ => part, fun _ => part, fun _ => part, key, rfl⟩

theorem NodeUnit.mem_scriptsAndMarkup {u : NodeUnit} {a : Artifact} :
    a ∈ u.scriptsAndMarkup ↔ a ∈ u.stub ∨ a ∈ u.device ∨ a ∈ u.markup := by
  unfold scriptsAndMarkup
  simp [eq_comm]

/-- Where there is at most one descriptor, its node map is the one that units are found by. -/
theorem registrationsAmong_eq {artifacts : List Artifact}
    (h : ∀ a ∈ artifacts, ∀ b ∈ artifacts, a.kind = .descriptor → b.kind = .descriptor → a = b) :
    registrationsAmong artifacts =
      ((artifacts.find? (·.kind = .descriptor)).map Artifact.registrations).getD [] := by
  unfold registrationsAmong
  cases hf : artifacts.find? (·.kind = .descriptor) with
  | none =>
    have hnone : artifacts.filter (·.kind = .descriptor) = [] :=
      List.filter_eq_nil_iff.2 (List.find?_eq_none.1 hf)
    rw [hnone]
    rfl
  | some d =>
    have hd := List.mem_of_find?_eq_some hf
    have hkind : d.kind = .descriptor := by simpa using List.find?_some hf
    have hin : d ∈ artifacts.filter (·.kind = .descriptor) :=
      List.mem_filter.2 ⟨hd, by simpa using hkind⟩
    have hlast := List.getLast?_eq_some_getLast (List.ne_nil_of_mem hin)
    have hmem := List.mem_of_getLast? hlast
    rw [hlast]
    obtain ⟨hb, hbkind⟩ := List.mem_filter.1 hmem
    rw [h _ hb d hd (by simpa using hbkind) hkind]
    rfl

end TwinNode
