import TwinNode.Proofs.Package.DamagedUnits
import TwinNode.Proofs.Rule.Descriptor
import TwinNode.Proofs.Rule.Identity
import TwinNode.Proofs.Rule.NodeMap
import TwinNode.Proofs.Validation.Contribution
import TwinNode.Rule.Catalog

/-! A damaged file declares nothing, and all other files declare what they declared. So a
rule that found nothing finds nothing new in the files. Only the rule about mandatory
artifacts looks at what is not there. -/

namespace TwinNode

open TwinNode.Rule

theorem Damage.declarations_on (x : Damage) (settings : RuleSettings) {a : Artifact}
    (h : x.hits a.path = true) :
    (x.on a).declarations settings = .empty := by
  unfold on
  rw [h]
  cases a with
  | mk kind _ _ _ => cases kind <;> rfl

theorem AllSame.subset {names others : List String} (h : AllSame others) (hsub : names ⊆ others) :
    AllSame names := by
  obtain ⟨name, hname⟩ := h
  exact ⟨name, fun other hother => hname other (hsub hother)⟩

namespace Package.Damageable

variable {p : Package} {files : List String} {x : Damage} {settings : RuleSettings}

/-! ## What is known about a file -/

theorem mem_of_not_hit {a : Artifact} (ha : a ∈ (p.damaged files x).artifacts)
    (hmiss : x.hits a.path = false) :
    a ∈ p.artifacts := by
  obtain ⟨b, hb, _, rfl⟩ := mem_damaged.1 ha
  have hon : x.on b = b := x.on_of_not_hit hmiss
  rwa [hon]

theorem isParsed_of_hit {a : Artifact} (ha : a ∈ (p.damaged files x).artifacts)
    (hhit : x.hits a.path = true) :
    a.isParsed = false := by
  obtain ⟨b, _, _, rfl⟩ := mem_damaged.1 ha
  have hhit : x.hits b.path = true := hhit
  rw [Artifact.isParsed, x.syntaxError?_on, hhit]
  rfl

theorem declarations_of_hit {a : Artifact} (ha : a ∈ (p.damaged files x).artifacts)
    (hhit : x.hits a.path = true) :
    a.declarations settings = .empty := by
  obtain ⟨b, _, _, rfl⟩ := mem_damaged.1 ha
  exact x.declarations_on settings hhit

theorem fact?_of_hit {path : String} (hhit : x.hits path = true) (name : FactName) :
    ((p.damaged files x).declarations settings).fact? path name = none := by
  unfold FactSet.fact?
  rw [factsFor_filter, List.head?_eq_none_iff, List.filter_eq_nil_iff]
  intro f hf
  obtain ⟨a, ha, hf⟩ := List.mem_flatMap.1 hf
  obtain ⟨ha, hpath⟩ := List.mem_filter.1 ha
  rw [declarations_of_hit ha ((beq_iff_eq.1 hpath).symm ▸ hhit)] at hf
  cases hf

theorem facts_subset : ((p.damaged files x).declarations settings).facts ⊆
    (p.declarations settings).facts := by
  intro f hf
  rw [declarations_facts, List.mem_flatMap] at hf ⊢
  obtain ⟨a, ha, hf⟩ := hf
  cases hhit : x.hits a.path with
  | false => exact ⟨a, mem_of_not_hit ha hhit, hf⟩
  | true =>
    rw [declarations_of_hit ha hhit] at hf
    cases hf

theorem noExtension_damaged (hquiet : noExtension (p.context settings) = []) :
    noExtension ((p.damaged files x).context settings) = [] := by
  unfold noExtension context at hquiet ⊢
  rw [List.filterMap_eq_nil_iff] at hquiet ⊢
  exact fun f hf => hquiet f (facts_subset hf)

variable (h : p.Damageable files x)
include h

theorem mem_of_kind {a : Artifact} (ha : a ∈ (p.damaged files x).artifacts)
    (hkind : a.kind.isJson = false) :
    a ∈ p.artifacts ∧ x.hits a.path = false := by
  obtain ⟨b, hb, _, rfl⟩ := mem_damaged.1 ha
  have hmiss := h.not_hit hb hkind
  exact ⟨mem_of_not_hit ha hmiss, hmiss⟩

/-- Under the path of a file that is not damaged are the same artifacts. -/
theorem artifacts_at {a : Artifact} (ha : a ∈ (p.damaged files x).artifacts)
    (hmiss : x.hits a.path = false) :
    (p.damaged files x).artifacts.filter (·.path == a.path) =
      p.artifacts.filter (·.path == a.path) := by
  obtain ⟨b, hb, hkept, rfl⟩ := mem_damaged.1 ha
  have hsame : ∀ c ∈ p.artifacts, (c.path == b.path) = true → c = b := fun c hc hpath =>
    h.paths c hc b hb (beq_iff_eq.1 hpath)
  have hon : ∀ c ∈ p.artifacts.filter (·.path == b.path), x.on c = id c := by
    intro c hc
    obtain ⟨hc, hpath⟩ := List.mem_filter.1 hc
    rw [hsame c hc hpath]
    exact x.on_of_not_hit hmiss
  show (p.damaged files x).artifacts.filter (·.path == b.path) =
    p.artifacts.filter (·.path == b.path)
  rw [filter_damaged fun _ => rfl, List.map_congr_left hon, List.map_id]
  intro c hc hpath
  rwa [hsame c hc hpath]

section Miss

variable {a : Artifact} (ha : a ∈ (p.damaged files x).artifacts) (hmiss : x.hits a.path = false)
include ha hmiss

theorem identitiesFor_damaged : ((p.damaged files x).declarations settings).identitiesFor a.path =
    (p.declarations settings).identitiesFor a.path := by
  rw [identitiesFor_filter, identitiesFor_filter, h.artifacts_at ha hmiss]

theorem fact?_damaged (name : FactName) :
    ((p.damaged files x).declarations settings).fact? a.path name =
    (p.declarations settings).fact? a.path name := by
  unfold FactSet.fact?
  rw [factsFor_filter, factsFor_filter, h.artifacts_at ha hmiss]

theorem declared_damaged : declared ((p.damaged files x).declarations settings) a =
    declared (p.declarations settings) a := by
  unfold declared
  rw [h.identitiesFor_damaged ha hmiss]

end Miss

/-! ## Rules about single files -/

/-- The artifacts of a kind that is not JSON are artifacts that were there. -/
theorem mem_ofKind {kind : ArtifactKind} (hkind : kind.isJson = false) {a : Artifact}
    (ha : a ∈ (p.damaged files x).ofKind kind) :
    a ∈ p.ofKind kind ∧ a ∈ (p.damaged files x).artifacts ∧ x.hits a.path = false := by
  obtain ⟨ha, hk⟩ := List.mem_filter.1 ha
  have hka : a.kind = kind := of_decide_eq_true hk
  obtain ⟨hmem, hmiss⟩ := h.mem_of_kind ha (hka ▸ hkind)
  exact ⟨List.mem_filter.2 ⟨hmem, hk⟩, ha, hmiss⟩

theorem moduleFormat_damaged (hquiet : moduleFormat (p.context settings) = []) :
    moduleFormat ((p.damaged files x).context settings) = [] := by
  unfold moduleFormat context at hquiet ⊢
  rw [List.filterMap_eq_nil_iff] at hquiet ⊢
  intro a ha
  obtain ⟨ha, hparsed⟩ := List.mem_filter.1 ha
  obtain ⟨ha, hkind⟩ := List.mem_filter.1 ha
  have hmiss : x.hits a.path = false := by
    by_contra hhit
    rw [Bool.not_eq_false] at hhit
    rw [isParsed_of_hit ha hhit] at hparsed
    cases hparsed
  have hbefore :=
    hquiet a (by simp [ofKind, mem_of_not_hit ha hmiss, of_decide_eq_true hkind, hparsed])
  unfold FactSet.shape at hbefore ⊢
  rwa [h.fact?_damaged ha hmiss]

theorem preloadIsString_damaged (hquiet : preloadIsString (p.context settings) = []) :
    preloadIsString ((p.damaged files x).context settings) = [] := by
  unfold preloadIsString context at hquiet ⊢
  rw [List.filterMap_eq_nil_iff] at hquiet ⊢
  intro a ha
  obtain ⟨ha, hkind⟩ := List.mem_filter.1 ha
  cases hhit : x.hits a.path with
  | true => simp [FactSet.shape, fact?_of_hit hhit]
  | false =>
    have hbefore := hquiet a (by simp [ofKind, mem_of_not_hit ha hhit, of_decide_eq_true hkind])
    unfold FactSet.shape at hbefore ⊢
    rwa [h.fact?_damaged ha hhit]

theorem stubIsCommonJs_damaged (hquiet : stubIsCommonJs (p.context settings) = []) :
    stubIsCommonJs ((p.damaged files x).context settings) = [] := by
  unfold stubIsCommonJs context at hquiet ⊢
  rw [List.flatMap_eq_nil_iff] at hquiet ⊢
  intro a ha
  obtain ⟨hbefore, hmem, hmiss⟩ := h.mem_ofKind rfl ha
  have hnone := hquiet a hbefore
  simp only [h.fact?_damaged hmem hmiss]
  exact hnone

theorem deviceNoDefaultExport_damaged (hquiet : deviceNoDefaultExport (p.context settings) = []) :
    deviceNoDefaultExport ((p.damaged files x).context settings) = [] := by
  unfold deviceNoDefaultExport context at hquiet ⊢
  rw [List.flatMap_eq_nil_iff] at hquiet ⊢
  intro a ha
  obtain ⟨hbefore, hmem, hmiss⟩ := h.mem_ofKind rfl ha
  have hnone := hquiet a hbefore
  simp only [h.fact?_damaged hmem hmiss]
  exact hnone

theorem deviceStaticRegistration_damaged
    (hquiet : deviceStaticRegistration (p.context settings) = []) :
    deviceStaticRegistration ((p.damaged files x).context settings) = [] := by
  unfold deviceStaticRegistration context at hquiet ⊢
  rw [List.map_eq_nil_iff, List.filter_eq_nil_iff] at hquiet ⊢
  intro a ha
  obtain ⟨hbefore, hmem, hmiss⟩ := h.mem_ofKind rfl ha
  have hnone := hquiet a hbefore
  unfold FactSet.holds at hnone ⊢
  rwa [h.fact?_damaged hmem hmiss]

/-! ## The rule about the descriptor -/

theorem descriptorPointsToStub_of_hit (hhit : x.hits descriptorName = true) :
    descriptorPointsToStub ((p.damaged files x).context settings) = [] := by
  unfold descriptorPointsToStub context
  dsimp only
  rw [h.descriptor?_damaged]
  cases hd : p.descriptor? with
  | none => rfl
  | some d =>
    have hparsed : (x.on d).isParsed = false := by
      rw [Artifact.isParsed, x.syntaxError?_on, h.path_of_descriptor? hd, hhit]
      rfl
    simp [hparsed]

section Miss

variable (hmiss : x.hits descriptorName = false)
include hmiss

theorem artifacts_of_miss : (p.damaged files x).artifacts = p.artifacts.map x.on := by
  unfold damaged
  rw [List.filter_eq_self.2 fun a ha => h.kept a ha (.inr hmiss)]

theorem get?_of_miss (path : String) : (p.damaged files x).get? path = (p.get? path).map x.on := by
  unfold get?
  rw [h.artifacts_of_miss hmiss, List.find?_map]
  rfl

theorem kind_get?_of_miss (path : String) :
    ((p.damaged files x).get? path).map (·.kind) = (p.get? path).map (·.kind) := by
  rw [h.get?_of_miss hmiss, Option.map_map]
  rfl

theorem registrationFault?_of_miss (descriptor key : String) (value : Json.Value) :
    registrationFault? (p.damaged files x) descriptor key value =
      registrationFault? p descriptor key value :=
  registrationFault?_congr (h.kind_get?_of_miss hmiss) rfl descriptor key

theorem registeredStub?_of_miss (value : Json.Value) :
    registeredStub? (p.damaged files x) value = registeredStub? p value :=
  registeredStub?_congr (h.kind_get?_of_miss hmiss) rfl

theorem descriptorPointsToStub_of_miss (hquiet : descriptorPointsToStub (p.context settings) = []) :
    descriptorPointsToStub ((p.damaged files x).context settings) = [] := by
  unfold descriptorPointsToStub context at hquiet ⊢
  dsimp only at hquiet ⊢
  rw [h.descriptor?_damaged]
  cases hd : p.descriptor? with
  | none => rfl
  | some d =>
    have hhit : x.hits d.path = false := by rwa [h.path_of_descriptor? hd]
    have hin := List.mem_of_find?_eq_some hd
    have hin' : d ∈ (p.damaged files x).artifacts := by
      rw [h.artifacts_of_miss hmiss, ← x.on_of_not_hit hhit]
      exact List.mem_map_of_mem hin
    have hstubs : (p.damaged files x).ofKind .hostStub = p.ofKind .hostStub := by
      unfold ofKind
      rw [h.artifacts_of_miss hmiss, filter_map_on _ _ fun _ => rfl, map_on_of_not_hit]
      intro a ha
      obtain ⟨ha, hkind⟩ := List.mem_filter.1 ha
      exact h.not_hit ha (of_decide_eq_true hkind ▸ rfl)
    have hshape : ((p.damaged files x).declarations settings).shape d.path .descriptorNodeMapShape =
        (p.declarations settings).shape d.path .descriptorNodeMapShape := by
      unfold FactSet.shape
      rw [h.fact?_damaged hin' hhit]
    rw [hd] at hquiet
    rw [Option.map_some, x.on_of_not_hit hhit]
    simp only [hshape, registrationFaults, h.registrationFault?_of_miss hmiss,
      h.registeredStub?_of_miss hmiss, hstubs]
    exact hquiet

end Miss

theorem descriptorPointsToStub_damaged (hquiet : descriptorPointsToStub (p.context settings) = []) :
    descriptorPointsToStub ((p.damaged files x).context settings) = [] := by
  cases hhit : x.hits descriptorName with
  | true => exact h.descriptorPointsToStub_of_hit hhit
  | false => exact h.descriptorPointsToStub_of_miss hhit hquiet

/-! ## Rules about units -/

theorem localeBundles_damaged (hquiet : localeBundles (p.context settings) = []) :
    localeBundles ((p.damaged files x).context settings) = [] := by
  unfold localeBundles context at hquiet ⊢
  dsimp only at hquiet ⊢
  by_cases hrequired : settings.requireLocale = true
  swap
  · rw [if_neg hrequired]
  rw [if_pos hrequired, List.filterMap_eq_nil_iff] at hquiet ⊢
  intro u hu
  obtain ⟨key, rfl, hu'⟩ := h.mem_units_damaged hu
  have hbefore := hquiet _ hu'
  cases hstub : (unitOf (p.damaged files x).artifacts key).stub with
  | none => rfl
  | some stub =>
    have hstub' : (unitOf p.artifacts key).stub = some stub := h.slot?_stub_damaged hstub
    rw [hstub'] at hbefore
    have hlocales := h.locales_damaged key
    have hempty : (unitOf (p.damaged files x).artifacts key).locales.isEmpty =
        (unitOf p.artifacts key).locales.isEmpty := by
      rw [hlocales, List.isEmpty_map]
    dsimp only at hbefore ⊢
    rw [hempty]
    split_ifs at hbefore ⊢
    rfl

/-- The parts of a unit are parts that it had. -/
theorem part_of_damaged {key : UnitKey} {a : Artifact}
    (ha : a ∈ (unitOf (p.damaged files x).artifacts key).scriptsAndMarkup) :
    a ∈ (unitOf p.artifacts key).scriptsAndMarkup ∧ a ∈ (p.damaged files x).artifacts ∧
      x.hits a.path = false := by
  rw [NodeUnit.mem_scriptsAndMarkup] at ha ⊢
  rcases ha with ha | ha | ha
  · obtain ⟨hmem, hkind, _⟩ := mem_of_slot? ha
    exact ⟨.inl (h.slot?_stub_damaged ha), hmem, (h.mem_of_kind hmem (hkind ▸ rfl)).2⟩
  · obtain ⟨hmem, hkind, _⟩ := mem_of_slot? ha
    exact ⟨.inr (.inl ((h.slot?_damaged (by decide) rfl key).symm.trans ha)), hmem,
      (h.mem_of_kind hmem (hkind ▸ rfl)).2⟩
  · obtain ⟨hmem, hkind, _⟩ := mem_of_slot? ha
    exact ⟨.inr (.inr ((h.slot?_damaged (by decide) rfl key).symm.trans ha)), hmem,
      (h.mem_of_kind hmem (hkind ▸ rfl)).2⟩

/-- A descriptor that is not damaged registers for a unit what it registered. -/
theorem descriptorKeys_damaged {d : Artifact} (hd : p.descriptor? = some d)
    (hmiss : x.hits d.path = false) (key : UnitKey) :
    (unitOf (p.damaged files x).artifacts key).descriptorKeys =
      (unitOf p.artifacts key).descriptorKeys := by
  have hkeys : registrationsAmong (p.damaged files x).artifacts =
      registrationsAmong p.artifacts := by
    have hkinds : (p.damaged files x).ofKind .descriptor = (p.ofKind .descriptor).map x.on :=
      h.ofKind_damaged (by decide)
    rw [map_on_of_not_hit] at hkinds
    · unfold ofKind at hkinds
      unfold registrationsAmong
      rw [hkinds]
    · intro a ha
      obtain ⟨ha, hkind⟩ := List.mem_filter.1 ha
      rwa [h.descriptor a ha (of_decide_eq_true hkind), ← h.path_of_descriptor? hd]
  unfold unitOf
  rw [hkeys]

/-- The keys of a unit are the keys that it had. -/
theorem keyIdentities_subset (key : UnitKey) :
    keyIdentities ((p.damaged files x).context settings)
      (unitOf (p.damaged files x).artifacts key) ⊆ keyIdentities (p.context settings)
      (unitOf p.artifacts key) := by
  unfold keyIdentities context
  dsimp only
  rw [h.descriptor?_damaged]
  cases hd : p.descriptor? with
  | none => exact List.Subset.refl _
  | some d =>
    rw [Option.map_some]
    dsimp only
    split_ifs with hparsed hparsed'
    · have hmiss := x.isParsed_on hparsed
      have hin' : d ∈ (p.damaged files x).artifacts := by
        have hon : (p.damaged files x).descriptor? = some d := by
          rw [h.descriptor?_damaged, hd, Option.map_some, x.on_of_not_hit hmiss]
        exact List.mem_of_find?_eq_some hon
      rw [x.on_of_not_hit hmiss, h.descriptorKeys_damaged hd hmiss,
        h.identitiesFor_damaged hin' hmiss]
      exact List.Subset.refl _
    · rw [x.on_of_not_hit (x.isParsed_on hparsed)] at hparsed
      exact absurd hparsed hparsed'
    · exact List.nil_subset _
    · exact List.nil_subset _

theorem declaring_damaged {key : UnitKey} {a : Artifact}
    (ha : a ∈ declaring (unitOf (p.damaged files x).artifacts key)) :
    a ∈ declaring (unitOf p.artifacts key) ∧ a ∈ (p.damaged files x).artifacts ∧
      x.hits a.path = false := by
  obtain ⟨ha, hparsed⟩ := List.mem_filter.1 ha
  obtain ⟨hpart, hmem, hmiss⟩ := h.part_of_damaged ha
  exact ⟨List.mem_filter.2 ⟨hpart, hparsed⟩, hmem, hmiss⟩

/-- What is held against each other in a unit was so before. -/
theorem representatives_subset (key : UnitKey) :
    representatives ((p.damaged files x).context settings)
      (unitOf (p.damaged files x).artifacts key) ⊆ representatives (p.context settings)
      (unitOf p.artifacts key) := by
  unfold representatives
  intro i hi
  rcases List.mem_append.1 hi with hi | hi
  · obtain ⟨a, ha, hhead⟩ := List.mem_filterMap.1 hi
    obtain ⟨hpart, hmem, hmiss⟩ := h.declaring_damaged ha
    unfold context at hhead
    rw [h.declared_damaged hmem hmiss] at hhead
    exact List.mem_append_left _ (List.mem_filterMap.2 ⟨a, hpart, hhead⟩)
  · exact List.mem_append_right _ (h.keyIdentities_subset key hi)

theorem identityConsistency_damaged (hquiet : identityConsistency (p.context settings) = []) :
    identityConsistency ((p.damaged files x).context settings) = [] := by
  unfold identityConsistency at hquiet ⊢
  rw [List.flatMap_eq_nil_iff] at hquiet ⊢
  intro u hu
  obtain ⟨key, rfl, hu'⟩ := h.mem_units_damaged hu
  have hbefore := hquiet _ hu'
  unfold unitIdentity at hbefore ⊢
  rw [List.append_eq_nil_iff, List.flatMap_eq_nil_iff] at hbefore ⊢
  obtain ⟨hparts, hmismatch⟩ := hbefore
  constructor
  · intro a ha
    obtain ⟨hpart, hmem, hmiss⟩ := h.declaring_damaged ha
    have hnone := hparts a hpart
    unfold missingIdentity? disagreement? FactSet.form at hnone ⊢
    unfold context at hnone ⊢
    simp only [h.fact?_damaged hmem hmiss, h.declared_damaged hmem hmiss]
    exact hnone
  · rw [Option.toList_eq_nil_iff, mismatch?_eq_none_iff] at hmismatch ⊢
    exact hmismatch.subset (List.map_subset _ (h.representatives_subset key))

end Package.Damageable

end TwinNode
