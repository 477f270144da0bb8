import TwinNode.Proofs.Declaration.Facts
import TwinNode.Proofs.Package.Counterparts
import TwinNode.Proofs.Path.Spelling

namespace TwinNode

open TwinNode.Json (Value)

/-- Two entries of a node map that are the same, except for the spelling of a path. -/
inductive Respelled : String × Value → String × Value → Prop
  | same (entry : String × Value) : Respelled entry entry
  | spelled {segments : List (List Char)} {written other : String} (key : String)
    (hpath : Path.IsPath segments) (hwritten : Path.Spells segments written)
    (hother : Path.Spells segments other) :
    Respelled (key, .str written) (key, .str other)

namespace Respelled

variable {entry other : String × Value} (h : Respelled entry other)
include h

theorem key_eq : entry.1 = other.1 := by
  cases h <;> rfl

/-- Both values name the same path, or none. -/
theorem named_eq :
    entry.2.str?.map Path.normalizeReference = other.2.str?.map Path.normalizeReference := by
  cases h with
  | same => rfl
  | spelled key hpath hwritten hother =>
    exact congrArg some ((hpath.normalizeReference_of_spells hwritten).trans
      (hpath.normalizeReference_of_spells hother).symm)

end Respelled

theorem classifyFiles_respelled {nodes others : List (String × Value)}
    (h : List.Forall₂ Respelled nodes others) (files : List String) :
    classifyFiles files (referencedPaths nodes) = classifyFiles files (referencedPaths others) := by
  have hreferenced : referencedPaths nodes = referencedPaths others :=
    filterMap_eq_of_forall₂ h fun entry _ other hentry => hentry.named_eq
  rw [hreferenced]

/-- Two artifacts that are the same, except for the spellings in the node map of a descriptor. -/
inductive Artifact.Respelled : Artifact → Artifact → Prop
  | same (a : Artifact) : Respelled a a
  | descriptor {text text' : List Char} {v w : Value} {nodes others : List (String × Value)}
    (path : String) (hv : registrations? v = some nodes) (hw : registrations? w = some others)
    (h : List.Forall₂ TwinNode.Respelled nodes others) :
    Respelled ⟨.descriptor, path, text, .json v⟩ ⟨.descriptor, path, text', .json w⟩

namespace Artifact.Respelled

variable {a b : Artifact} (h : a.Respelled b)
include h

theorem kind_eq : a.kind = b.kind := by
  cases h <;> rfl

theorem path_eq : a.path = b.path := by
  cases h <;> rfl

theorem isParsed_eq : a.isParsed = b.isParsed := by
  cases h <;> rfl

theorem unitKey_eq : a.unitKey = b.unitKey := by
  cases h <;> rfl

theorem directory_eq : a.directory = b.directory := by
  cases h <;> rfl

theorem eq_of_kind (hkind : a.kind ≠ .descriptor) : a = b := by
  cases h with
  | same => rfl
  | descriptor => exact absurd rfl hkind

theorem registrations : List.Forall₂ TwinNode.Respelled a.registrations b.registrations := by
  cases h with
  | same => exact List.forall₂_same.2 fun entry _ => .same entry
  | descriptor path hv hw h =>
    unfold Artifact.registrations
    dsimp only [json?]
    rw [Option.bind_some, Option.bind_some, hv, hw]
    exact h

theorem declarations_eq (settings : RuleSettings) :
    a.declarations settings = b.declarations settings := by
  cases h with
  | same => rfl
  | @descriptor _ _ v w nodes others path hv hw h =>
    have hshape : nodeMapShape v = nodeMapShape w := by
      unfold nodeMapShape
      rw [hv, hw]
    have hkeys :=
      map_eq_of_forall₂ h (f := fun entry => entry.1) (g := fun entry => entry.1)
        fun _ _ _ hentry => hentry.key_eq
    show descriptorDeclarations path v = descriptorDeclarations path w
    unfold descriptorDeclarations
    rw [hshape, hv, hw, Option.getD_some, Option.getD_some]
    have hidentities := congrArg
      (List.map fun key => (⟨path, .descriptorKey, String.ofList (Text.trim key.toList),
        registrationLocation key⟩ : Identity))
      hkeys
    rw [List.map_map, List.map_map] at hidentities
    exact congrArg (FactSet.mk · _) hidentities

end Artifact.Respelled

section Units

variable {artifacts others : List Artifact} (h : List.Forall₂ Artifact.Respelled artifacts others)
include h

theorem filter_respelled {q : Artifact → Bool} (hq : ∀ a b, a.Respelled b → q a = q b)
    (hkind : ∀ a, q a = true → a.kind ≠ .descriptor) : artifacts.filter q = others.filter q :=
  filter_eq_of_forall₂ h hq fun a _ hab ha => hab.eq_of_kind (hkind a ha)

theorem unitKeys_respelled : unitKeys artifacts = unitKeys others :=
  unitKeys_counterparts (fun _ _ hab => hab.kind_eq) h fun _ _ hab => hab.path_eq

theorem slot?_respelled {kind : ArtifactKind} (hkind : kind ≠ .descriptor) (key : UnitKey) :
    slot? artifacts kind key = slot? others kind key := by
  unfold slot?
  refine congrArg List.getLast?
    (filter_respelled h (fun a b hab => by rw [hab.kind_eq, hab.unitKey_eq]) fun a ha => ?_)
  have hk : a.kind = kind := of_decide_eq_true (Bool.and_eq_true_iff.1 ha).1
  rwa [hk]

theorem unitManifest?_respelled (key : UnitKey) :
    unitManifest? artifacts key = unitManifest? others key := by
  have hmanifests := filter_respelled h (q := fun a => a.kind = .manifest && a.directory == key.1)
    (fun a b hab => by rw [hab.kind_eq, hab.directory_eq]) fun a ha hkind => by
      rw [hkind] at ha
      cases ha
  unfold unitManifest?
  rw [unitKeys_respelled h, slot?_respelled h (by decide), hmanifests]

theorem registrationsAmong_respelled :
    List.Forall₂ TwinNode.Respelled (registrationsAmong artifacts) (registrationsAmong others) :=
  registrationsAmong_counterparts (fun _ _ hab => hab.kind_eq) h .nil fun _ _ hab =>
    hab.registrations

theorem unitOf_respelled (key : UnitKey) : unitOf artifacts key = unitOf others key := by
  have hlocales :=
    filter_respelled h (q := fun a => a.kind = .localeBundle && localeOwner? a.path == some key)
    (fun a b hab => by rw [hab.kind_eq, hab.path_eq]) fun a ha hkind => by
      rw [hkind] at ha
      cases ha
  -- The unit that an entry belongs to follows from the path that it names.
  obtain ⟨unit, hunit⟩ : ∃ unit : String → UnitKey, ∀ r, referencedUnit r =
      unit (Path.normalizeReference r) :=
    ⟨fun named => (Path.directory (Path.stubPath named),
      Path.stem (Path.name (Path.stubPath named))), fun _ => rfl⟩
  have hnamed : ∀ value : Value, (value.str?.any fun r => referencedUnit r == key) =
      (value.str?.map Path.normalizeReference).any (unit · == key) := by
    intro value
    simp only [hunit, Option.any_map]
  have hentries :=
    forall₂_filter (p := fun entry => entry.2.str?.any fun r => referencedUnit r == key)
    (q := fun entry => entry.2.str?.any fun r => referencedUnit r == key)
    (fun entry other hentry => by rw [hnamed, hnamed, hentry.named_eq])
    (registrationsAmong_respelled h)
  have hkeys :=
    map_eq_of_forall₂ hentries (f := (·.1)) (g := (·.1)) fun _ _ _ hentry => hentry.key_eq
  unfold unitOf
  rw [slot?_respelled h (by decide), slot?_respelled h (by decide), slot?_respelled h (by decide),
    unitManifest?_respelled h, hlocales, hkeys]

theorem groupUnits_respelled : groupUnits artifacts = groupUnits others := by
  unfold groupUnits
  rw [unitKeys_respelled h]
  exact List.map_congr_left fun key _ => unitOf_respelled h key

end Units

theorem declarations_respelled {p q : Package}
    (h : List.Forall₂ Artifact.Respelled p.artifacts q.artifacts)
    (settings : RuleSettings) : p.declarations settings = q.declarations settings :=
  Package.declarations_congr (map_eq_of_forall₂ h fun _ _ _ hab => hab.declarations_eq settings)

end TwinNode
