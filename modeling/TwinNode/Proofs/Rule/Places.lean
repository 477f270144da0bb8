import TwinNode.Proofs.Declaration.Facts
import TwinNode.Proofs.Diagnostic.Place
import TwinNode.Proofs.Rule.Descriptor
import TwinNode.Proofs.Rule.Mismatch
import TwinNode.Proofs.Validation.Contribution
import TwinNode.Rule.Catalog

/-! Rules report lines of files and keys of JSON objects. Lines and columns are read as
numbers when diagnostics are put in order, and only a number with too many digits cannot be
read. Where no file is that long, all that the rules of the catalog report has a place in
the order. -/

namespace TwinNode

open TwinNode.LocationKey (Placed placed_none placed_other placed_line placed_column)
open TwinNode.Text (maxDigits)

/-- An artifact whose lines and columns are numbers that can be read. -/
structure Artifact.Numbered (a : Artifact) : Prop where
  lines : ∀ v ∈ a.views?, v.source.count '\n' + 1 < 10 ^ maxDigits
  fault : ∀ e ∈ a.syntaxError?, e.line < 10 ^ maxDigits ∧ e.column < 10 ^ maxDigits

/-- Declarations at places that can be ordered. -/
structure FactSet.Placed (s : FactSet) : Prop where
  identities : ∀ i ∈ s.identities, LocationKey.Placed (some i.location)
  facts : ∀ f ∈ s.facts, LocationKey.Placed f.location

theorem FactSet.Placed.append {s t : FactSet} (hs : s.Placed) (ht : t.Placed) :
    (s ++ t).Placed where
  identities i hi := (List.mem_append.1 hi).elim (hs.identities i) (ht.identities i)
  facts f hf := (List.mem_append.1 hf).elim (hs.facts f) (ht.facts f)

theorem FactSet.placed_empty : FactSet.empty.Placed where
  identities i hi := absurd hi (by simp [FactSet.empty])
  facts f hf := absurd hf (by simp [FactSet.empty])

theorem placed_registration (key : String) : Placed (some (registrationLocation key)) := by
  refine placed_other ?_
  unfold registrationLocation nodeMapLocation
  rw [String.toList_append, String.toList_append]
  rfl

theorem placed_module (key : String) : Placed (some ("modules." ++ key)) := by
  refine placed_other ?_
  rw [String.toList_append]
  rfl

namespace Views

variable {v : Views} (h : v.source.count '\n' + 1 < 10 ^ maxDigits) (path : String)
include h

theorem placed_location (offset : Nat) : Placed (some (v.location offset)) := by
  have hcount : (v.source.take offset).count '\n' ≤ v.source.count '\n' :=
    (List.take_sublist offset v.source).count_le '\n'
  exact placed_line (lt_of_le_of_lt (Nat.succ_le_succ hcount) h)

theorem placed_declaredAfter {role : IdentityRole} {occurrences : List Span} {i : Identity}
    (hi : i ∈ v.declaredAfter path role occurrences) : Placed (some i.location) := by
  obtain ⟨o, _, text, _, rfl⟩ := mem_declaredAfter.1 hi
  exact placed_location h o.start

theorem placed_attributeIdentities {role : IdentityRole} {p : Phrase}
    {scripts : List Span} {i : Identity} (hi : i ∈ v.attributeIdentities path role p scripts) :
    Placed (some i.location) := by
  obtain ⟨o, _, _, rfl⟩ := mem_attributeIdentities.1 hi
  exact placed_location h o.start

theorem placed_registrations (calls : List Span) : (v.registrations path calls).Placed where
  identities _ hi := placed_declaredAfter h path hi
  facts f hf := by
    obtain rfl := List.mem_singleton.1 hf
    exact placed_none

theorem placed_presence (name : FactName) (place : Option Nat) :
    (v.presence path name place).Placed where
  identities i hi := absurd hi (by simp [presence])
  facts f hf := by
    obtain rfl := List.mem_singleton.1 hf
    cases place with
    | none => exact placed_none
    | some offset => exact placed_location h offset

theorem placed_stub (settings : RuleSettings) : (stubDeclarations settings path v).Placed :=
  ((placed_registrations h path _).append (placed_presence h path _ _)).append
    (placed_presence h path _ _)

theorem placed_device : (deviceDeclarations path v).Placed := by
  refine FactSet.Placed.append (.append (.append ⟨?_, ?_⟩ (placed_registrations h path _))
    (placed_presence h path _ _)) (placed_presence h path _ _)
  · intro i hi
    exact placed_declaredAfter h path hi
  · intro f hf
    obtain rfl := List.mem_singleton.1 hf
    exact placed_none

theorem placed_markup (settings : RuleSettings) : (markupDeclarations settings path v).Placed := by
  refine FactSet.Placed.append (.append (placed_registrations h path _) ⟨?_, ?_⟩)
    (placed_presence h path _ _)
  · intro i hi
    rcases List.mem_append.1 hi with hi | hi <;> exact placed_attributeIdentities h path hi
  · intro f hf
    simp at hf

end Views

theorem placed_manifest (settings : RuleSettings) (path : String) (value : Json.Value) :
    (manifestDeclarations settings path value).Placed := by
  unfold manifestDeclarations
  split
  · refine ⟨by simp, fun f hf => ?_⟩
    obtain rfl := List.mem_singleton.1 hf
    exact placed_none
  · refine ⟨by simp, fun f hf => ?_⟩
    simp only [List.mem_append, List.mem_singleton] at hf
    rcases hf with (rfl | hf) | rfl
    · exact placed_other rfl
    · obtain ⟨entry, _, hf⟩ := List.mem_flatMap.1 hf
      obtain ⟨written, _, rfl⟩ := List.mem_map.1 hf
      exact placed_module entry.1
    · exact placed_other rfl

theorem placed_descriptor (path : String) (value : Json.Value) :
    (descriptorDeclarations path value).Placed := by
  constructor
  · intro i hi
    obtain ⟨entry, _, rfl⟩ := List.mem_map.1 hi
    exact placed_registration entry.1
  · intro f hf
    obtain rfl := List.mem_singleton.1 hf
    exact placed_other rfl

theorem Artifact.Numbered.placed_declarations {a : Artifact} (h : a.Numbered)
    (settings : RuleSettings) :
    (a.declarations settings).Placed := by
  have hlines := h.lines
  unfold Artifact.views? at hlines
  unfold Artifact.declarations
  split
  · next hcontent => exact Views.placed_stub (hlines _ (by rw [hcontent]; rfl)) _ settings
  · next hcontent => exact Views.placed_device (hlines _ (by rw [hcontent]; rfl)) _
  · next hcontent => exact Views.placed_markup (hlines _ (by rw [hcontent]; rfl)) _ settings
  · exact placed_manifest settings a.path _
  · exact placed_descriptor a.path _
  · exact FactSet.placed_empty

theorem Package.placed_declarations {p : Package} (h : ∀ a ∈ p.artifacts, a.Numbered)
    (settings : RuleSettings) :
    (p.declarations settings).Placed where
  identities i hi := by
    rw [p.declarations_identities, List.mem_flatMap] at hi
    obtain ⟨a, ha, hi⟩ := hi
    exact ((h a ha).placed_declarations settings).identities i hi
  facts f hf := by
    rw [p.declarations_facts, List.mem_flatMap] at hf
    obtain ⟨a, ha, hf⟩ := hf
    exact ((h a ha).placed_declarations settings).facts f hf

namespace Rule

theorem placed_malformedJson {context : CheckContext}
    (h : ∀ a ∈ context.package.artifacts, a.Numbered) :
    ∀ f ∈ malformedJson context, Placed f.location := by
  intro f hf
  obtain ⟨a, ha, hf⟩ := List.mem_filterMap.1 hf
  obtain ⟨e, he, rfl⟩ := Option.map_eq_some_iff.1 hf
  obtain ⟨hline, hcolumn⟩ := (h a ha).fault e he
  exact placed_column hline hcolumn

theorem placed_missingParts (u : NodeUnit) : ∀ f ∈ missingParts u, Placed f.location := by
  intro f hf
  have hnone : f.location = none := by
    unfold missingParts at hf
    grind
  rw [hnone]
  exact placed_none

theorem placed_mandatoryArtifacts (context : CheckContext) :
    ∀ f ∈ mandatoryArtifacts context, Placed f.location := by
  intro f hf
  simp only [mandatoryArtifacts, List.mem_append] at hf
  rcases hf with (hf | hf) | hf
  · split at hf
    · obtain rfl := List.mem_singleton.1 hf
      exact placed_none
    · cases hf
  · obtain ⟨u, _, hf⟩ := List.mem_flatMap.1 hf
    exact placed_missingParts u f hf
  · split at hf
    · obtain rfl := List.mem_singleton.1 hf
      exact placed_none
    · cases hf

theorem placed_localeBundles (context : CheckContext) :
    ∀ f ∈ localeBundles context, Placed f.location := by
  intro f hf
  unfold localeBundles at hf
  split at hf
  · obtain ⟨u, _, hf⟩ := List.mem_filterMap.1 hf
    split at hf
    · cases hf
    · split at hf
      · obtain rfl := Option.some.inj hf
        exact placed_none
      · cases hf
  · cases hf

theorem placed_moduleFormat (context : CheckContext) :
    ∀ f ∈ moduleFormat context, Placed f.location := by
  intro f hf
  obtain ⟨a, _, hf⟩ := List.mem_filterMap.1 hf
  dsimp only at hf
  split at hf
  · obtain rfl := Option.some.inj hf
    exact placed_none
  · split at hf
    · obtain rfl := Option.some.inj hf
      exact placed_other rfl
    · cases hf

theorem placed_noExtension {context : CheckContext} (h : context.facts.Placed) :
    ∀ f ∈ noExtension context, Placed f.location := by
  intro f hf
  obtain ⟨fact, hfact, hf⟩ := List.mem_filterMap.1 hf
  split at hf
  · obtain rfl := Option.some.inj hf
    exact h.facts fact hfact
  · cases hf

theorem placed_preloadIsString (context : CheckContext) :
    ∀ f ∈ preloadIsString context, Placed f.location := by
  intro f hf
  obtain ⟨a, _, hf⟩ := List.mem_filterMap.1 hf
  dsimp only at hf
  split at hf
  · obtain rfl := Option.some.inj hf
    exact placed_other rfl
  · cases hf

theorem placed_registrationFaults (p : Package) (descriptor : String)
    (nodes : List (String × Json.Value)) :
    ∀ f ∈ registrationFaults p descriptor nodes, Placed f.location := by
  intro f hf
  rcases List.mem_append.1 hf with hf | hf
  · obtain ⟨entry, _, hf⟩ := List.mem_filterMap.1 hf
    rw [(fault_at hf).2.1]
    exact placed_registration entry.1
  · obtain ⟨stub, _, rfl⟩ := List.mem_map.1 hf
    exact placed_none

theorem placed_descriptorPointsToStub (context : CheckContext) :
    ∀ f ∈ descriptorPointsToStub context, Placed f.location := by
  intro f hf
  unfold descriptorPointsToStub at hf
  split at hf
  · cases hf
  · split at hf
    · cases hf
    · split at hf
      · obtain rfl := List.mem_singleton.1 hf
        exact placed_other rfl
      · exact placed_registrationFaults _ _ _ f hf
      · obtain rfl := List.mem_singleton.1 hf
        exact placed_other rfl

theorem placed_fact? {facts : FactSet} (h : facts.Placed) {path : String}
    {name : FactName} {fact : Fact} (hfact : fact ∈ facts.fact? path name) :
    Placed fact.location := by
  obtain ⟨hin, _⟩ := List.mem_filter.1 (List.mem_of_mem_head? hfact)
  exact h.facts fact hin

theorem placed_stubIsCommonJs {context : CheckContext} (h : context.facts.Placed) :
    ∀ f ∈ stubIsCommonJs context, Placed f.location := by
  intro f hf
  obtain ⟨stub, _, hf⟩ := List.mem_flatMap.1 hf
  rcases List.mem_append.1 hf with hf | hf <;>
  · obtain ⟨fact, hfact, rfl⟩ := List.mem_map.1 hf
    exact placed_fact? h (Option.mem_filter_iff.1 (Option.mem_toList.1 hfact)).1

theorem placed_deviceNoDefaultExport {context : CheckContext} (h : context.facts.Placed) :
    ∀ f ∈ deviceNoDefaultExport context, Placed f.location := by
  intro f hf
  obtain ⟨device, _, hf⟩ := List.mem_flatMap.1 hf
  obtain ⟨fact, hfact, rfl⟩ := List.mem_map.1 hf
  exact placed_fact? h (Option.mem_filter_iff.1 (Option.mem_toList.1 hfact)).1

theorem placed_deviceStaticRegistration (context : CheckContext) :
    ∀ f ∈ deviceStaticRegistration context, Placed f.location := by
  intro f hf
  obtain ⟨device, _, rfl⟩ := List.mem_map.1 hf
  exact placed_none

theorem placed_markupIncludesManifest (context : CheckContext) :
    ∀ f ∈ markupIncludesManifest context, Placed f.location := by
  intro f hf
  obtain ⟨u, _, hf⟩ := List.mem_filterMap.1 hf
  split at hf
  · cases hf
  · split at hf
    · obtain rfl := Option.some.inj hf
      exact placed_none
    · cases hf

theorem divergent_sublist (identities : List Identity) :
    (divergent identities).Sublist identities := by
  cases identities with
  | nil => exact List.Sublist.refl _
  | cons first rest => exact List.filter_sublist.trans (List.sublist_cons_self first rest)

section Identity

variable {context : CheckContext} (h : context.facts.Placed)
include h

theorem placed_declared {a : Artifact} {i : Identity} (hi : i ∈ declared context.facts a) :
    Placed (some i.location) :=
  h.identities i (List.mem_filter.1 (mem_declared.1 hi)).1

theorem placed_representatives {u : NodeUnit} {i : Identity} (hi : i ∈ representatives context u) :
    Placed (some i.location) := by
  rcases List.mem_append.1 hi with hi | hi
  · obtain ⟨a, _, hi⟩ := List.mem_filterMap.1 hi
    exact placed_declared h (List.mem_of_mem_head? hi)
  · unfold keyIdentities at hi
    split at hi
    · cases hi
    · split at hi
      · exact h.identities i (List.mem_filter.1 (List.mem_filter.1 hi).1).1
      · cases hi

theorem placed_unitIdentity (u : NodeUnit) : ∀ f ∈ unitIdentity context u, Placed f.location := by
  intro f hf
  rcases List.mem_append.1 hf with hf | hf
  · obtain ⟨a, _, hf⟩ := List.mem_flatMap.1 hf
    rcases List.mem_append.1 hf with hf | hf
    · obtain ⟨required, _, hf⟩ := Option.bind_eq_some_iff.1 (Option.mem_toList.1 hf)
      dsimp only at hf
      split at hf
      · cases hf
      all_goals
        obtain rfl := Option.some.inj hf
        exact placed_none
    · obtain ⟨other, hother, rfl⟩ := Option.map_eq_some_iff.1 (Option.mem_toList.1 hf)
      exact placed_declared h ((divergent_sublist _).subset (List.mem_of_mem_head? hother))
  · have hf : mismatch? context u = some f := Option.mem_toList.1 hf
    obtain ⟨reference, hr, _⟩ := Option.bind_eq_some_iff.1 hf
    obtain ⟨i, hi, _, _, hplace⟩ := (tellsMismatch_of_mismatch? hf hr).standsAt
    rw [hplace]
    exact placed_representatives h hi

theorem placed_identityConsistency : ∀ f ∈ identityConsistency context, Placed f.location := by
  intro f hf
  obtain ⟨u, _, hf⟩ := List.mem_flatMap.1 hf
  exact placed_unitIdentity h u f hf

end Identity

theorem Orderable.of_total {r : Rule} {context : CheckContext}
    {findings : CheckContext → List Finding} (hid : ∃ key, RuleKey.ofId r.id = .ok key)
    (hr : r.check = total findings) (h : ∀ f ∈ findings context, Placed f.location) :
    r.Orderable context := by
  refine ⟨hid, fun fs hc f hf => h f ?_⟩
  rw [hr] at hc
  exact Except.ok.inj hc ▸ hf

/-- A rule of the catalog reports only places that can be ordered, if no file has too many lines. -/
theorem orderable_of_mem_catalog {p : Package} (h : ∀ a ∈ p.artifacts, a.Numbered)
    (settings : RuleSettings) :
    ∀ r ∈ catalog, r.Orderable (p.context settings) := by
  have hfacts : (p.context settings).facts.Placed := p.placed_declarations h settings
  simp only [catalog, List.forall_mem_cons, List.not_mem_nil, false_imp_iff, implies_true, and_true]
  exact ⟨.of_total ⟨_, rfl⟩ rfl (placed_malformedJson h),
    .of_total ⟨_, rfl⟩ rfl (placed_mandatoryArtifacts _),
    .of_total ⟨_, rfl⟩ rfl (placed_localeBundles _),
    .of_total ⟨_, rfl⟩ rfl (placed_moduleFormat _),
    .of_total ⟨_, rfl⟩ rfl (placed_noExtension hfacts),
    .of_total ⟨_, rfl⟩ rfl (placed_preloadIsString _),
    .of_total ⟨_, rfl⟩ rfl (placed_descriptorPointsToStub _),
    .of_total ⟨_, rfl⟩ rfl (placed_stubIsCommonJs hfacts),
    .of_total ⟨_, rfl⟩ rfl (placed_deviceNoDefaultExport hfacts),
    .of_total ⟨_, rfl⟩ rfl (placed_deviceStaticRegistration _),
    .of_total ⟨_, rfl⟩ rfl (placed_identityConsistency hfacts),
    .of_total ⟨_, rfl⟩ rfl (placed_markupIncludesManifest _)⟩

end Rule

end TwinNode
