import Mathlib.Data.List.Nodup
import TwinNode.Proofs.Declaration.Identity

namespace TwinNode

open TwinNode.Json (Value)

/-- What is known, if it is about one file only. -/
structure FactSet.About (s : FactSet) (path : String) : Prop where
  identities : ∀ i ∈ s.identities, i.path = path
  facts : ∀ f ∈ s.facts, f.path = path

theorem FactSet.About.append {s t : FactSet} {path : String} (hs : s.About path)
    (ht : t.About path) :
    (s ++ t).About path where
  identities i hi := (List.mem_append.1 hi).elim (hs.identities i) (ht.identities i)
  facts f hf := (List.mem_append.1 hf).elim (hs.facts f) (ht.facts f)

theorem FactSet.about_empty (path : String) : FactSet.empty.About path where
  identities i hi := absurd hi (by simp [FactSet.empty])
  facts f hf := absurd hf (by simp [FactSet.empty])

namespace Views

variable (v : Views) (path : String)

theorem path_of_mem_declaredAfter {role : IdentityRole} {occurrences : List Span} {i : Identity}
    (h : i ∈ v.declaredAfter path role occurrences) : i.path = path := by
  obtain ⟨o, _, text, _, rfl⟩ := mem_declaredAfter.1 h
  rfl

theorem path_of_mem_attributeIdentities {role : IdentityRole} {p : Phrase}
    {scripts : List Span} {i : Identity} (h : i ∈ v.attributeIdentities path role p scripts) :
    i.path = path := by
  obtain ⟨o, _, _, rfl⟩ := mem_attributeIdentities.1 h
  rfl

theorem about_registrations (calls : List Span) : (v.registrations path calls).About path where
  identities _ hi := v.path_of_mem_declaredAfter path hi
  facts f hf := by
    obtain rfl := List.mem_singleton.1 hf
    rfl

theorem about_presence (name : FactName) (place : Option Nat) :
    (v.presence path name place).About path where
  identities i hi := absurd hi (by simp [presence])
  facts f hf := by
    obtain rfl := List.mem_singleton.1 hf
    rfl

end Views

variable {settings : RuleSettings}

theorem about_stubDeclarations (path : String) (v : Views) :
    (stubDeclarations settings path v).About path :=
  ((v.about_registrations path _).append (v.about_presence path _ _)).append
    (v.about_presence path _ _)

theorem about_deviceDeclarations (path : String) (v : Views) :
    (deviceDeclarations path v).About path := by
  refine FactSet.About.append (.append (.append ⟨?_, ?_⟩ (v.about_registrations path _))
    (v.about_presence path _ _)) (v.about_presence path _ _)
  · intro i hi
    exact v.path_of_mem_declaredAfter path hi
  · intro f hf
    obtain rfl := List.mem_singleton.1 hf
    rfl

theorem about_markupDeclarations (path : String) (v : Views) :
    (markupDeclarations settings path v).About path := by
  refine FactSet.About.append (.append (v.about_registrations path _) ⟨?_, ?_⟩)
    (v.about_presence path _ _)
  · intro i hi
    rcases List.mem_append.1 hi with hi | hi <;> exact v.path_of_mem_attributeIdentities path hi
  · intro f hf
    simp at hf

theorem about_manifestDeclarations (path : String) (value : Value) :
    (manifestDeclarations settings path value).About path := by
  unfold manifestDeclarations
  split
  · exact ⟨by simp, by simp⟩
  · refine ⟨by simp, fun f hf => ?_⟩
    simp only [List.mem_append, List.mem_singleton] at hf
    rcases hf with (rfl | hf) | rfl
    · rfl
    · obtain ⟨entry, _, hf⟩ := List.mem_flatMap.1 hf
      obtain ⟨written, _, rfl⟩ := List.mem_map.1 hf
      rfl
    · rfl

theorem about_descriptorDeclarations (path : String) (value : Value) :
    (descriptorDeclarations path value).About path := by
  constructor
  · intro i hi
    obtain ⟨entry, _, rfl⟩ := List.mem_map.1 hi
    rfl
  · intro f hf
    obtain rfl := List.mem_singleton.1 hf
    rfl

theorem Artifact.about_declarations (a : Artifact) : (a.declarations settings).About a.path := by
  unfold declarations
  split
  · exact about_stubDeclarations a.path _
  · exact about_deviceDeclarations a.path _
  · exact about_markupDeclarations a.path _
  · exact about_manifestDeclarations a.path _
  · exact about_descriptorDeclarations a.path _
  · exact FactSet.about_empty a.path

theorem foldl_declarations (artifacts : List Artifact) (known : FactSet) :
    artifacts.foldl (fun known a => known ++ a.declarations settings) known =
      ⟨known.identities ++ artifacts.flatMap fun a => (a.declarations settings).identities,
        known.facts ++ artifacts.flatMap fun a => (a.declarations settings).facts⟩ := by
  induction artifacts generalizing known with
  | nil => simp
  | cons a artifacts ih => simp [ih, List.append_assoc]

theorem Package.declarations_identities (p : Package) : (p.declarations settings).identities =
    p.artifacts.flatMap fun a => (a.declarations settings).identities := by
  unfold declarations
  rw [foldl_declarations]
  rfl

theorem Package.declarations_facts (p : Package) : (p.declarations settings).facts =
    p.artifacts.flatMap fun a => (a.declarations settings).facts := by
  unfold declarations
  rw [foldl_declarations]
  rfl

theorem Package.declarations_congr {p q : Package}
    (h : p.artifacts.map (·.declarations settings) = q.artifacts.map (·.declarations settings)) :
    p.declarations settings = q.declarations settings := by
  have hfold : ∀ artifacts : List Artifact,
    artifacts.foldl (fun known a => known ++ a.declarations settings) FactSet.empty =
      (artifacts.map (·.declarations settings)).foldl (· ++ ·) .empty :=
        fun artifacts => by rw [List.foldl_map]
  unfold declarations
  rw [hfold, hfold, h]

section Keys

variable {key : α → String} {keyOf : β → String} {parts : α → List β}
  (hparts : ∀ a, ∀ b ∈ parts a, keyOf b = key a)
include hparts

/-- Of parts that each carry the key of their thing, those with one key are the parts of the things
with this key. -/
theorem filter_flatMap_key (things : List α) (k : String) :
    (things.flatMap parts).filter (keyOf · == k) = (things.filter (key · == k)).flatMap parts := by
  induction things with
  | nil => rfl
  | cons a things ih =>
    have hsame : ∀ b ∈ parts a, (keyOf b == k) = (key a == k) := fun b hb => by rw [hparts a b hb]
    rw [List.flatMap_cons, List.filter_append, ih, List.filter_congr hsame]
    by_cases h : key a = k <;> simp [h]

theorem filter_flatMap_of_nodup {things : List α} (h : (things.map key).Nodup)
    {a : α} (ha : a ∈ things) :
    (things.flatMap parts).filter (keyOf · == key a) = parts a := by
  have hsame : ∀ b ∈ things.filter (key · == key a), b = a := by
    intro b hb
    obtain ⟨hb, hkey⟩ := List.mem_filter.1 hb
    exact List.inj_on_of_nodup_map h hb ha (beq_iff_eq.1 hkey)
  have hone : things.filter (key · == key a) = [a] := by
    have hin : a ∈ things.filter (key · == key a) := List.mem_filter.2 ⟨ha, beq_self_eq_true _⟩
    have hnodup : (things.filter (key · == key a)).Nodup := (List.Nodup.of_map key h).filter _
    rw [List.eq_replicate_of_mem hsame, List.nodup_replicate] at hnodup
    have hlength := List.length_pos_of_mem hin
    rw [List.eq_replicate_of_mem hsame, Nat.le_antisymm hnodup hlength, List.replicate_one]
  rw [filter_flatMap_key hparts, hone, List.flatMap_singleton]

end Keys

/-- What is known under a path is what the artifacts with this path declare. -/
theorem identitiesFor_filter (p : Package) (path : String) :
    (p.declarations settings).identitiesFor path = (p.artifacts.filter (·.path == path)).flatMap
      fun a => (a.declarations settings).identities := by
  unfold FactSet.identitiesFor
  rw [p.declarations_identities]
  exact filter_flatMap_key (fun a => a.about_declarations.identities) _ _

theorem factsFor_filter (p : Package) (path : String) (name : FactName) :
    (p.declarations settings).factsFor path name =
      ((p.artifacts.filter (·.path == path)).flatMap fun a =>
        (a.declarations settings).facts).filter (·.name == name) := by
  unfold FactSet.factsFor
  rw [← filter_flatMap_key (fun a : Artifact => a.about_declarations.facts),
    p.declarations_facts, List.filter_filter]
  apply List.filter_congr
  intro f _
  rw [Bool.and_comm]

section Paths

variable {p : Package} {a : Artifact}

theorem Package.get?_path (hpaths : ∀ b ∈ p.artifacts, ∀ c ∈ p.artifacts, b.path = c.path → b = c)
    (ha : a ∈ p.artifacts) :
    p.get? a.path = some a := by
  unfold get?
  cases hf : p.artifacts.find? (·.path == a.path) with
  | none => exact absurd (beq_self_eq_true a.path) (List.find?_eq_none.1 hf a ha)
  | some b =>
    have hpath : b.path = a.path := by simpa using List.find?_some hf
    rw [hpaths b (List.mem_of_find?_eq_some hf) a ha hpath]

variable (h : (p.artifacts.map (·.path)).Nodup)
include h

theorem path_injOn : ∀ b ∈ p.artifacts, ∀ c ∈ p.artifacts, b.path = c.path → b = c :=
  fun _ hb _ hc => List.inj_on_of_nodup_map h hb hc

variable (ha : a ∈ p.artifacts)
include ha

theorem identitiesFor_declarations :
    (p.declarations settings).identitiesFor a.path = (a.declarations settings).identities := by
  unfold FactSet.identitiesFor
  rw [p.declarations_identities]
  exact filter_flatMap_of_nodup (fun b => b.about_declarations.identities) h ha

theorem factsFor_declarations (name : FactName) :
    (p.declarations settings).factsFor a.path name =
      (a.declarations settings).facts.filter (·.name == name) := by
  unfold FactSet.factsFor
  rw [← filter_flatMap_of_nodup (fun b : Artifact => b.about_declarations.facts) h ha,
    p.declarations_facts, List.filter_filter]
  refine List.filter_congr fun f _ => ?_
  rw [Bool.and_comm]

end Paths

end TwinNode
