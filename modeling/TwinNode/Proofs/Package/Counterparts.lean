import TwinNode.Proofs.Alike
import TwinNode.Proofs.FileSystem.Places
import TwinNode.Proofs.Package.Found
import TwinNode.Proofs.Package.Kind

namespace TwinNode

/-- What is read in two file systems is related by a relation that keeps paths and what a descriptor
names. -/
structure Counterparts (R : Artifact → Artifact → Prop) (fs other : FileSystem) : Prop where
  places : fs.SamePlaces other
  path_eq : ∀ a b, R a b → a.path = b.path
  classifyFiles_eq : ∀ a b, R a b → ∀ files,
    classifyFiles files (referencedPaths a.registrations) =
      classifyFiles files (referencedPaths b.registrations)
  loadArtifact : ∀ place kind path, kindOfPath? path = some kind →
    EndAlike R (loadArtifact fs place kind path) (loadArtifact other place kind path)

theorem discover_map {fs : FileSystem} {root : Path.Location} {place : Place}
    (hroot : checkRoot fs root = .ok place) (exclude : List String) (workers : Int) :
    discover fs root exclude workers =
      (loadArtifacts fs place workers (foundFiles fs exclude place)).map fun artifacts =>
        ⟨Place.text place, artifacts, groupUnits artifacts⟩ := by
  unfold discover
  simp only [hroot, bind, Except.bind]
  cases loadArtifacts fs place workers (foundFiles fs exclude place) <;> rfl

namespace Counterparts

variable {R : Artifact → Artifact → Prop} {fs other : FileSystem}
  (h : Counterparts R fs other) (place : Place)
include h

theorem loadDescriptor (files : List String) :
    EndAlike (Option.Rel R) (loadDescriptor fs place files)
      (TwinNode.loadDescriptor other place files) := by
  unfold TwinNode.loadDescriptor
  split
  · exact (h.loadArtifact place _ _ (kindOfPath?_descriptor.2 rfl)).map fun _ _ hd => .some hd
  · exact .ok .none

theorem loadBeside (files : List String) {descriptor descriptor' : Option Artifact}
    (hd : Option.Rel R descriptor descriptor') :
    EndAlike (List.Forall₂ R) (loadBeside fs place files descriptor)
      (TwinNode.loadBeside other place files descriptor') := by
  have hfiles :
    classifyFiles files (referencedPaths ((descriptor.map Artifact.registrations).getD [])) =
      classifyFiles files (referencedPaths ((descriptor'.map Artifact.registrations).getD [])) := by
    cases hd with
    | none => rfl
    | some hd => exact h.classifyFiles_eq _ _ hd files
  have hload : ∀ entry ∈ classifyFiles files
        (referencedPaths ((descriptor'.map Artifact.registrations).getD [])),
      EndAlike R (TwinNode.loadArtifact fs place entry.2 entry.1)
        (TwinNode.loadArtifact other place entry.2 entry.1) :=
    fun entry hentry =>
      h.loadArtifact place _ _ (classify_eq_some_iff.1 (mem_classifyFiles.1 hentry).2.2).1
  unfold TwinNode.loadBeside
  rw [hfiles]
  refine (EndAlike.mapM hload).map fun others others' hothers =>
    forall₂_mergeSort (fun a b c d hab hcd => by rw [h.path_eq a b hab, h.path_eq c d hcd])
      (List.rel_append hothers ?_)
  cases hd with
  | none => exact .nil
  | some hd => exact .cons hd .nil

theorem loadArtifacts (workers : Int) (files : List String) :
    EndAlike (List.Forall₂ R) (loadArtifacts fs place workers files)
      (TwinNode.loadArtifacts other place workers files) := by
  rw [loadArtifacts_bind, loadArtifacts_bind]
  refine (h.loadDescriptor place files).bind fun d d' hd => ?_
  split
  · exact .error _
  · exact h.loadBeside place files hd

omit place in
/-- Both searches fail in the same way, or the packages that are found at the root have counterparts
as artifacts. -/
theorem discover (root : Path.Location) (exclude : List String) (workers : Int) : EndAlike
    (fun p q => p.root = q.root ∧ List.Forall₂ R p.artifacts q.artifacts ∧
      p.units = groupUnits p.artifacts ∧
      q.units = groupUnits q.artifacts)
    (discover fs root exclude workers) (TwinNode.discover other root exclude workers) := by
  cases hroot : checkRoot fs root with
  | error e =>
    unfold TwinNode.discover
    rw [← h.places.checkRoot_eq, hroot]
    exact .error e
  | ok place =>
    have hroot' : checkRoot other root = .ok place := by rw [← h.places.checkRoot_eq, hroot]
    rw [discover_map hroot, discover_map hroot', ← h.places.foundFiles_eq]
    exact (h.loadArtifacts place workers _).map fun artifacts others hartifacts =>
      ⟨rfl, hartifacts, rfl, rfl⟩

end Counterparts

/-! ## Units -/

section Units

variable {R : Artifact → Artifact → Prop} (hkind : ∀ a b, R a b → a.kind = b.kind)
  {artifacts others : List Artifact} (h : List.Forall₂ R artifacts others)
include hkind h

/-- Counterparts of one kind and at one path make up units with the same keys. -/
theorem unitKeys_counterparts (hpath : ∀ a b, R a b → a.path = b.path) :
    unitKeys artifacts = unitKeys others := by
  have hparts :=
    forall₂_filter (p := (·.kind.isNodePart)) (q := (·.kind.isNodePart))
      (fun a b hab => by rw [hkind a b hab]) h
  have hkeys : ∀ a b, R a b → a.unitKey = b.unitKey := fun a b hab => by
    unfold Artifact.unitKey Artifact.directory Artifact.stem
    rw [hpath a b hab]
  unfold unitKeys
  rw [map_eq_of_forall₂ hparts fun a _ b hab => hkeys a b hab]

/-- The node maps among counterparts are related if those of counterparts are. -/
theorem registrationsAmong_counterparts {S : List (String × Json.Value) →
    List (String × Json.Value) → Prop} (hnone : S [] []) (hnodes : ∀ a b, R a b →
      S a.registrations b.registrations) :
    S (registrationsAmong artifacts) (registrationsAmong others) := by
  have hlast :=
    rel_getLast? (forall₂_filter (p := (·.kind = .descriptor)) (q := (·.kind = .descriptor))
    (fun a b hab => by rw [hkind a b hab]) h)
  unfold registrationsAmong
  generalize (artifacts.filter (·.kind = .descriptor)).getLast? = last,
    (others.filter (·.kind = .descriptor)).getLast? = last' at hlast
  cases hlast with
  | none => exact hnone
  | some hab => exact hnodes _ _ hab

end Units

end TwinNode
