import Mathlib.Data.List.Nodup
import TwinNode.Proofs.Declaration.Facts
import TwinNode.Proofs.Package.Contents
import TwinNode.Proofs.Package.Units
import TwinNode.Rule.Identity

/-! The rule looks at one declaration of each file, at the agreement within each file, and
at the form of the required declaration. Together these say that every part of a unit names
its type by a literal and that all declared names of the unit, the keys of the descriptor
among them, are one string. -/

namespace TwinNode

/-- The names are all one string. -/
def AllSame (names : List String) : Prop := ∃ name, ∀ other ∈ names, other = name

theorem allSame_nil : AllSame [] := ⟨"", by simp⟩

theorem allSame_cons_iff {name : String} {names : List String} :
    AllSame (name :: names) ↔ ∀ other ∈ names, other = name := by
  constructor
  · rintro ⟨common, h⟩ other hother
    rw [h other (List.mem_cons_of_mem _ hother), h name List.mem_cons_self]
  · intro h
    refine ⟨name, fun other hother => ?_⟩
    rcases List.mem_cons.1 hother with rfl | hother
    · rfl
    · exact h other hother

theorem allSame_congr {xs ys : List String} (h : ∀ x, x ∈ xs ↔ x ∈ ys) : AllSame xs ↔
    AllSame ys := by
  refine exists_congr fun name => forall_congr' fun other => ?_
  rw [h other]

/-- Names agree if they do within each part and the first names of the parts do. -/
theorem allSame_heads_iff {parts : List (List String)} {keys : List String} :
    ((∀ names ∈ parts, AllSame names) ∧ AllSame (parts.filterMap List.head? ++ keys)) ↔
      AllSame (parts.flatten ++ keys) := by
  constructor
  · rintro ⟨hparts, common, hcommon⟩
    refine ⟨common, fun other hother => ?_⟩
    rcases List.mem_append.1 hother with hother | hother
    · obtain ⟨names, hnames, hother⟩ := List.mem_flatten.1 hother
      obtain ⟨first, rest, rfl⟩ := List.exists_cons_of_ne_nil (List.ne_nil_of_mem hother)
      have hfirst : first = common := by
        apply hcommon
        exact List.mem_append_left _ (List.mem_filterMap.2 ⟨_, hnames, rfl⟩)
      rcases List.mem_cons.1 hother with rfl | hother
      · exact hfirst
      · rw [allSame_cons_iff.1 (hparts _ hnames) other hother, hfirst]
    · exact hcommon other (List.mem_append_right _ hother)
  · rintro ⟨common, hcommon⟩
    have hparts : ∀ names ∈ parts, ∀ other ∈ names, other = common := by
      intro names hnames other hother
      apply hcommon
      exact List.mem_append_left _ (List.mem_flatten.2 ⟨names, hnames, hother⟩)
    refine ⟨fun names hnames => ⟨common, hparts names hnames⟩, common, fun other hother => ?_⟩
    rcases List.mem_append.1 hother with hother | hother
    · obtain ⟨names, hnames, hhead⟩ := List.mem_filterMap.1 hother
      exact hparts names hnames other (List.mem_of_head? hhead)
    · exact hcommon other (List.mem_append_right _ hother)

namespace Rule

theorem divergent_eq_nil_iff {identities : List Identity} :
    divergent identities = [] ↔ AllSame (identities.map (·.value)) := by
  cases identities with
  | nil => exact iff_of_true rfl allSame_nil
  | cons first rest =>
    rw [List.map_cons, allSame_cons_iff]
    simp [divergent, List.filter_eq_nil_iff]

theorem mem_declared {facts : FactSet} {a : Artifact} {i : Identity} :
    i ∈ declared facts a ↔ i ∈ facts.identitiesFor a.path := by
  unfold declared
  dsimp only
  split
  · simp only [List.mem_append, List.mem_filter, ← and_or_left]
    exact and_iff_left (by simpa using em _)
  · rfl

theorem disagreement?_eq_none_iff {facts : FactSet} {a : Artifact} :
    disagreement? facts a = none ↔ AllSame ((declared facts a).map (·.value)) := by
  unfold disagreement?
  dsimp only
  rw [Option.map_eq_none_iff, List.head?_eq_none_iff, divergent_eq_nil_iff]

theorem reference?_mem {facts : FactSet} {u : NodeUnit} {identities : List Identity} {i : Identity}
    (h : reference? facts u identities = some i) : i ∈ identities := by
  unfold reference? at h
  rcases Option.or_eq_some_iff.1 h with h | ⟨_, h⟩
  · obtain ⟨stub, _, h⟩ := Option.bind_eq_some_iff.1 h
    split at h
    · cases h
    · exact List.mem_of_find?_eq_some h
  · exact List.mem_mergeSort.1 (List.mem_of_head? h)

theorem reference?_eq_none {facts : FactSet} {u : NodeUnit} {identities : List Identity}
    (h : reference? facts u identities = none) : identities = [] := by
  unfold reference? at h
  obtain ⟨_, h⟩ := Option.or_eq_none_iff.1 h
  have hlen := congrArg List.length (List.head?_eq_none_iff.1 h)
  rwa [List.length_mergeSort, List.length_nil, List.length_eq_zero_iff] at hlen

theorem mismatch?_eq_none_iff {context : CheckContext} {u : NodeUnit} :
    mismatch? context u = none ↔ AllSame ((representatives context u).map (·.value)) := by
  unfold mismatch?
  dsimp only
  cases hr : reference? context.facts u (representatives context u) with
  | none =>
    rw [reference?_eq_none hr]
    exact iff_of_true rfl allSame_nil
  | some reference =>
    have hmem := reference?_mem hr
    rw [Option.bind_some, Option.map_eq_none_iff, List.head?_eq_none_iff]
    constructor
    · intro h
      have hlen := congrArg List.length h
      rw [List.length_mergeSort, List.length_nil, List.length_eq_zero_iff] at hlen
      refine ⟨reference.value, fun other hother => ?_⟩
      obtain ⟨i, hi, rfl⟩ := List.mem_map.1 hother
      simpa using List.filter_eq_nil_iff.1 hlen i hi
    · rintro ⟨common, h⟩
      have hcommon : ∀ i ∈ representatives context u, i.value = common := fun i hi =>
        h _ (List.mem_map_of_mem hi)
      have hnil : (representatives context u).filter (·.value ≠ reference.value) = [] := by
        refine List.filter_eq_nil_iff.2 fun i hi => ?_
        simp [hcommon i hi, hcommon reference hmem]
      rw [hnil, List.mergeSort_nil]

end Rule

/-- The occurrences of a phrase after which one name at least is written as a literal. -/
theorem Views.formAfter_eq_literal_iff {v : Views} {occurrences : List Span} :
    v.formAfter occurrences = .literal ↔ ∃ o ∈ occurrences, (v.literal? o.stop).isSome = true := by
  unfold formAfter literalAfter?
  cases occurrences with
  | nil => simp
  | cons first rest =>
    simp only [List.isEmpty_cons, Bool.false_eq_true, if_false, Option.isSome_map]
    split
    · next h => simpa using h
    · next h => simpa using h

/-- The occurrences after which an artifact of a kind has to name its type. -/
def Views.requiredPlaces (v : Views) : ArtifactKind → List Span
  | .deviceScript => v.find .staticType
  | .editorMarkup =>
    (v.find .registerCall).filter fun o => v.javaScriptSpans.any (·.contains o.start)
  | _ => v.find .registerCall

section Forms

variable {settings : RuleSettings} {p : Package} (h : (p.artifacts.map (·.path)).Nodup)
  {a : Artifact} (ha : a ∈ p.artifacts)
include h ha

/-- The form that is noted for the one fact of its name about an artifact. -/
theorem form_declarations {name : FactName} {f : Form}
    (hf : (a.declarations settings).facts.filter (·.name == name) =
      [⟨a.path, name, .form f, none⟩]) :
    (p.declarations settings).form a.path name = f := by
  unfold FactSet.form FactSet.fact?
  rw [factsFor_declarations h ha, hf]
  rfl

theorem missingIdentity?_eq_none_iff {v : Views} (hk : a.kind.isNodePart = true)
    (hv : a.content = .scanned v) :
    Rule.missingIdentity? (p.declarations settings) a = none ↔
      ∃ o ∈ v.requiredPlaces a.kind, (v.literal? o.stop).isSome = true := by
  obtain ⟨name, words, hr, hf⟩ : ∃ name words, Rule.requiredIdentity? a.kind = some (name, words) ∧
      (a.declarations settings).facts.filter (·.name == name) =
        [⟨a.path, name, .form (v.formAfter (v.requiredPlaces a.kind)), none⟩] := by
    unfold Artifact.declarations
    rw [hv]
    rcases isNodePart_iff.1 hk with (hk | hk) | hk <;> rw [hk] <;> exact ⟨_, _, rfl, rfl⟩
  unfold Rule.missingIdentity?
  rw [hr, Option.bind_some, form_declarations h ha hf, ← Views.formAfter_eq_literal_iff]
  cases v.formAfter (v.requiredPlaces a.kind) <;> simp

end Forms

/-- Every part of a unit names its type by a literal: a stub in a call that registers it, markup in
one inside of its scripts, and a device script in a static field. -/
structure NodeUnit.NamesItself (u : NodeUnit) : Prop where
  stub : ∀ a ∈ u.stub, ∃ v, a.content = .scanned v ∧
    ∃ o ∈ v.find .registerCall, (v.literal? o.stop).isSome = true
  device : ∀ a ∈ u.device, ∃ v, a.content = .scanned v ∧
    ∃ o ∈ v.find .staticType, (v.literal? o.stop).isSome = true
  markup : ∀ a ∈ u.markup, ∃ v, a.content = .scanned v ∧
    ∃ o ∈ v.find .registerCall, (∃ s ∈ v.javaScriptSpans, s.contains o.start = true) ∧
      (v.literal? o.stop).isSome = true

/-- All names that a unit is given: by its parts, in whatever role, and as keys of the
descriptor. -/
def NodeUnit.declaredNames (settings : RuleSettings) (u : NodeUnit) : List String :=
  (u.scriptsAndMarkup.flatMap fun a => (a.declarations settings).identities.map (·.value)) ++
    u.descriptorKeys.map fun key => String.ofList (Text.trim key.toList)

theorem registrationLocation_inj {a b : String} :
    registrationLocation a = registrationLocation b ↔ a = b :=
  String.append_right_inj _

/-- The names among the registrations of a descriptor. -/
theorem descriptor_identities {settings : RuleSettings} {d : Artifact} (hk : d.kind = .descriptor) :
    (d.declarations settings).identities = d.registrations.map fun entry =>
      ⟨d.path, .descriptorKey, String.ofList (Text.trim entry.1.toList),
        registrationLocation entry.1⟩ := by
  unfold Artifact.declarations Artifact.registrations Artifact.json?
  rw [hk]
  cases d.content <;> rfl

theorem registrations_eq_nil {d : Artifact} (h : d.isParsed = false) : d.registrations = [] := by
  unfold Artifact.isParsed Artifact.syntaxError? at h
  unfold Artifact.registrations Artifact.json?
  cases hd : d.content with
  | malformed e => rfl
  | _ => simp [hd] at h

section Units

variable {settings : RuleSettings} {p : Package} {u : NodeUnit}
  (h : (p.artifacts.map (·.path)).Nodup) {room : Nat}
  (loaded : ∀ a ∈ p.artifacts, a.Loaded room ∧ (a.kind = .descriptor → a.path = descriptorName))
  (hu : u.PartOf p.artifacts)

include loaded hu in
theorem scanned_of_part {a : Artifact} (ha : a ∈ u.scriptsAndMarkup) :
    ∃ v, a.content = .scanned v := by
  rcases NodeUnit.mem_scriptsAndMarkup.1 ha with ha | ha | ha
  · obtain ⟨hmem, hk⟩ := hu.stub a ha
    exact ⟨_, (loaded a hmem).1.script (.inl hk)⟩
  · obtain ⟨hmem, hk⟩ := hu.device a ha
    exact ⟨_, (loaded a hmem).1.script (.inr hk)⟩
  · obtain ⟨hmem, hk⟩ := hu.markup a ha
    exact ⟨_, (loaded a hmem).1.markup hk⟩

include hu in
theorem mem_of_part {a : Artifact} (ha : a ∈ u.scriptsAndMarkup) : a ∈ p.artifacts := by
  rcases NodeUnit.mem_scriptsAndMarkup.1 ha with ha | ha | ha
  · exact (hu.stub a ha).1
  · exact (hu.device a ha).1
  · exact (hu.markup a ha).1

include loaded hu in
theorem declaring_eq : Rule.declaring u = u.scriptsAndMarkup := by
  refine List.filter_eq_self.2 fun a ha => ?_
  obtain ⟨v, hv⟩ := scanned_of_part loaded hu ha
  simp [Artifact.isParsed, Artifact.syntaxError?, hv]

include h loaded hu in
theorem namesItself_iff : u.NamesItself ↔
    ∀ a ∈ u.scriptsAndMarkup, Rule.missingIdentity? (p.declarations settings) a = none := by
  have named : ∀ {a : Artifact} {kind : ArtifactKind}, a ∈ u.scriptsAndMarkup → a.kind = kind →
      kind.isNodePart = true → (Rule.missingIdentity? (p.declarations settings) a = none ↔
        ∃ v, a.content = .scanned v ∧ ∃ o ∈ v.requiredPlaces kind,
          (v.literal? o.stop).isSome = true) := by
    rintro a kind ha rfl hpart
    obtain ⟨v, hv⟩ := scanned_of_part loaded hu ha
    rw [missingIdentity?_eq_none_iff h (mem_of_part hu ha) hpart hv]
    constructor
    · intro hplace
      exact ⟨v, hv, hplace⟩
    · rintro ⟨v', hv', hplace⟩
      obtain rfl := Content.scanned.inj (hv.symm.trans hv')
      exact hplace
  have hmarkup :
    ∀ {v : Views}, (∃ o ∈ v.requiredPlaces .editorMarkup, (v.literal? o.stop).isSome = true) ↔
      ∃ o ∈ v.find .registerCall, (∃ s ∈ v.javaScriptSpans, s.contains o.start = true) ∧
        (v.literal? o.stop).isSome = true := by
    intro v
    refine exists_congr fun o => ?_
    simp only [Views.requiredPlaces, List.mem_filter, List.any_eq_true, and_assoc]
  constructor
  · intro hn a ha
    rcases NodeUnit.mem_scriptsAndMarkup.1 ha with hs | hd | hm
    · exact (named ha (hu.stub a hs).2 rfl).2 (hn.stub a hs)
    · exact (named ha (hu.device a hd).2 rfl).2 (hn.device a hd)
    · obtain ⟨v, hv, hplace⟩ := hn.markup a hm
      exact (named ha (hu.markup a hm).2 rfl).2 ⟨v, hv, hmarkup.2 hplace⟩
  · intro hall
    refine ⟨fun a hs => ?_, fun a hd => ?_, fun a hm => ?_⟩
    · have ha := NodeUnit.mem_scriptsAndMarkup.2 (.inl hs)
      exact (named ha (hu.stub a hs).2 rfl).1 (hall a ha)
    · have ha := NodeUnit.mem_scriptsAndMarkup.2 (.inr (.inl hd))
      exact (named ha (hu.device a hd).2 rfl).1 (hall a ha)
    · have ha := NodeUnit.mem_scriptsAndMarkup.2 (.inr (.inr hm))
      obtain ⟨v, hv, hplace⟩ := (named ha (hu.markup a hm).2 rfl).1 (hall a ha)
      exact ⟨v, hv, hmarkup.1 hplace⟩

include h loaded in
theorem descriptor_unique {a b : Artifact} (ha : a ∈ p.artifacts) (hb : b ∈ p.artifacts)
    (hka : a.kind = .descriptor) (hkb : b.kind = .descriptor) : a = b := by
  have hpath : a.path = b.path := ((loaded a ha).2 hka).trans ((loaded b hb).2 hkb).symm
  exact List.inj_on_of_nodup_map h ha hb hpath

include h loaded hu in
theorem mem_keyIdentities {name : String} :
    name ∈ (Rule.keyIdentities ⟨p, p.declarations settings, settings⟩ u).map (·.value) ↔
      name ∈ u.descriptorKeys.map fun key => String.ofList (Text.trim key.toList) := by
  obtain ⟨key, hkeys⟩ := hu.keys
  rw [registrationsAmong_eq fun a ha b hb => descriptor_unique h loaded ha hb] at hkeys
  unfold Rule.keyIdentities Package.descriptor?
  dsimp only
  cases hf : p.artifacts.find? (·.kind = .descriptor) with
  | none =>
    rw [hf] at hkeys
    simp [hkeys]
  | some d =>
    rw [hf, Option.map_some, Option.getD_some] at hkeys
    have hd := List.mem_of_find?_eq_some hf
    have hkind : d.kind = .descriptor := by simpa using List.find?_some hf
    have hsub : ∀ k ∈ u.descriptorKeys, ∃ entry ∈ d.registrations, entry.1 = k := by
      intro k hk
      rw [hkeys] at hk
      obtain ⟨entry, hentry, rfl⟩ := List.mem_map.1 hk
      exact ⟨entry, (List.mem_filter.1 hentry).1, rfl⟩
    cases hp : d.isParsed with
    | false =>
      have hnone : u.descriptorKeys = [] := by
        rw [hkeys, registrations_eq_nil hp]
        rfl
      simp [hnone, hp]
    | true =>
      dsimp only
      rw [if_pos hp, identitiesFor_declarations h hd, descriptor_identities hkind]
      simp only [List.mem_map, List.mem_filter, List.contains_iff_mem]
      constructor
      · rintro ⟨_, ⟨⟨entry, hentry, rfl⟩, k, hk, hloc⟩, rfl⟩
        exact ⟨k, hk, by rw [registrationLocation_inj.1 hloc]⟩
      · rintro ⟨k, hk, rfl⟩
        obtain ⟨entry, hentry, rfl⟩ := hsub k hk
        exact ⟨_, ⟨⟨entry, hentry, rfl⟩, entry.1, hk, rfl⟩, rfl⟩

include h loaded hu in
/-- Agreement within the parts of a unit and between their representatives is agreement of all
names. -/
theorem allSame_declaredNames_iff :
    ((∀ a ∈ u.scriptsAndMarkup, Rule.disagreement? (p.declarations settings) a = none) ∧
        Rule.mismatch? ⟨p, p.declarations settings, settings⟩ u = none) ↔
      AllSame (u.declaredNames settings) := by
  let facts := p.declarations settings
  let names := fun a => (Rule.declared facts a).map (·.value)
  have hrep : (Rule.representatives ⟨p, facts, settings⟩ u).map (·.value) =
      (u.scriptsAndMarkup.map names).filterMap List.head? ++
        (Rule.keyIdentities ⟨p, facts, settings⟩ u).map (·.value) := by
    unfold Rule.representatives
    rw [declaring_eq loaded hu, List.map_append, List.map_filterMap, List.filterMap_map]
    congr 1
    refine List.filterMap_congr fun a _ => ?_
    exact List.head?_map.symm
  have hall : AllSame ((u.scriptsAndMarkup.map names).flatten ++
        (Rule.keyIdentities ⟨p, facts, settings⟩ u).map (·.value)) ↔
          AllSame (u.declaredNames settings) := by
    refine allSame_congr fun name => ?_
    unfold NodeUnit.declaredNames
    rw [List.mem_append, List.mem_append, mem_keyIdentities h loaded hu, ← List.flatMap_def]
    refine or_congr_left ?_
    simp only [List.mem_flatMap]
    refine exists_congr fun a => and_congr_right fun ha => ?_
    simp only [names, List.mem_map, Rule.mem_declared, facts,
      identitiesFor_declarations h (mem_of_part hu ha)]
  rw [Rule.mismatch?_eq_none_iff, hrep, ← hall, ← allSame_heads_iff]
  refine and_congr_left fun _ => ?_
  simp only [Rule.disagreement?_eq_none_iff, List.forall_mem_map, names, facts]

end Units

/-- A unit of a discovered package whose artifacts have different paths gives no finding about type
names if and only if each of its parts names its type by a literal and all names that it is given
are one string. -/
theorem unitIdentity_eq_nil_iff_named_alike {fs : FileSystem}
    {root : Path.Location} {exclude : List String} {workers : Int} {p : Package}
    (hp : discover fs root exclude workers = .ok p) (h : (p.artifacts.map (·.path)).Nodup)
    {u : NodeUnit} (hu : u ∈ p.units) (settings : RuleSettings) :
    Rule.unitIdentity ⟨p, p.declarations settings, settings⟩ u = [] ↔
      u.NamesItself ∧ AllSame (u.declaredNames settings) := by
  obtain ⟨_, _, _, _, hunits⟩ := discover_eq_ok hp
  have loaded := fun a (ha : a ∈ p.artifacts) => loaded_of_discover hp ha
  have part : u.PartOf p.artifacts := partOf_of_mem_groupUnits (hunits ▸ hu)
  have hnamed : u.NamesItself ↔
      ∀ a ∈ u.scriptsAndMarkup, Rule.missingIdentity? (p.declarations settings) a = none :=
    namesItself_iff h loaded part
  rw [hnamed, ← allSame_declaredNames_iff h loaded part]
  unfold Rule.unitIdentity
  rw [declaring_eq loaded part, List.append_eq_nil_iff, List.flatMap_eq_nil_iff,
    Option.toList_eq_nil_iff]
  simp only [List.append_eq_nil_iff, Option.toList_eq_nil_iff]
  constructor
  · rintro ⟨hparts, hmismatch⟩
    exact ⟨fun a ha => (hparts a ha).1, fun a ha => (hparts a ha).2, hmismatch⟩
  · rintro ⟨hnamed, hagree, hmismatch⟩
    exact ⟨fun a ha => ⟨hnamed a ha, hagree a ha⟩, hmismatch⟩

/-! ## A unit whose parts and key have one name -/

def alikeStub : List Char := "registerType('a')".toList

def alikeDevice : List Char := "static type = 'a'".toList

def alikePage : List Char := "<script>registerType('a')</script>".toList

/-- A descriptor that registers the stub under the name that the parts have. -/
def alikeKey : Json.Value :=
  .object [("node-red", .object [("nodes", .object [("a", .str "n.js")])])]

theorem simple_alikeKey : Json.Simple 3 alikeKey :=
  .entry (by decide) (.entry (by decide) (.entry (by decide) (.str (by decide))))

def alikeFiles : FileSystem where
  files := [(["n.html"], Text.encode alikePage), (["n.js"], Text.encode alikeStub),
    (["n.mcu.js"], Text.encode alikeDevice), (["package.json"], Text.encode alikeKey.pretty.toList)]
  directories := []
  workingDirectory := []
  room := usualRoom

def alikeParts : List Artifact :=
  [⟨.editorMarkup, "n.html", alikePage, .scanned (Markup.views alikePage)⟩,
    ⟨.hostStub, "n.js", alikeStub, .scanned (Script.views alikeStub)⟩,
    ⟨.deviceScript, "n.mcu.js", alikeDevice, .scanned (Script.views alikeDevice)⟩]

def alikeDescriptor : Artifact :=
  ⟨.descriptor, descriptorName, alikeKey.pretty.toList, .json alikeKey⟩

def alikeArtifacts : List Artifact := alikeParts ++ [alikeDescriptor]

def alikeUnit : NodeUnit := unitOf alikeArtifacts ("", "n")

theorem discover_alikeFiles : discover alikeFiles (Path.Location.ofString "/") [] 1 =
    .ok ⟨"/", alikeArtifacts, groupUnits alikeArtifacts⟩ := by
  have hroot : checkRoot alikeFiles (Path.Location.ofString "/") = .ok [] := by rfl
  have hfound : foundFiles alikeFiles [] [] = ["n.html", "n.js", "n.mcu.js", "package.json"] :=
    sortPaths_eq (by rfl) (by decide)
  have hread : alikeFiles.read ((Path.Location.mk .top []).append descriptorName) =
        .ok (Text.encode alikeKey.pretty.toList) ∧
      ∀ a ∈ alikeParts, alikeFiles.read ((Path.Location.mk .top []).append a.path) =
        .ok (Text.encode a.text) := by
    unfold alikeFiles alikeParts
    -- The bytes are not looked at, only found.
    generalize Text.encode alikeKey.pretty.toList = bytes
    simp only [List.forall_mem_cons]
    exact ⟨by rfl, by rfl, by rfl, by rfl, List.forall_mem_nil _⟩
  have hunix : ∀ a ∈ alikeParts, Text.Unix a.text := by
    unfold Text.Unix
    decide +kernel
  have hloaded : ∀ a ∈ alikeParts, a.Loaded alikeFiles.room := by
    unfold alikeParts
    simp only [List.forall_mem_cons]
    exact ⟨by rfl, by rfl, by rfl, List.forall_mem_nil _⟩
  exact discover_of_artifacts (some alikeDescriptor) alikeParts hroot (by decide) hfound
    (loadDescriptor_written (by decide) simple_alikeKey (by decide) hread.1) (by rfl)
    (fun a ha => loadArtifact_written (hloaded a ha) (hunix a ha) (hread.2 a ha)) (by decide)

theorem namesItself_alikeUnit : alikeUnit.NamesItself where
  stub a ha := by
    obtain rfl := Option.some.inj ha
    exact ⟨Script.views alikeStub, rfl, by decide +kernel⟩
  device a ha := by
    obtain rfl := Option.some.inj ha
    exact ⟨Script.views alikeDevice, rfl, by decide +kernel⟩
  markup a ha := by
    obtain rfl := Option.some.inj ha
    exact ⟨Markup.views alikePage, rfl, by decide +kernel⟩

/-- Stub, device script, page and key have one name, so nothing is found. -/
theorem named_alike_alikeUnit : ∃ p, discover alikeFiles (Path.Location.ofString "/") [] 1 = .ok p ∧
    (p.artifacts.map (·.path)).Nodup ∧ alikeUnit ∈ p.units ∧
      (alikeUnit.stub.isSome ∧ alikeUnit.device.isSome ∧ alikeUnit.markup.isSome ∧
        alikeUnit.descriptorKeys = ["a"]) ∧
      Rule.unitIdentity ⟨p, p.declarations {}, {}⟩ alikeUnit = [] := by
  have hunit : alikeUnit ∈ groupUnits alikeArtifacts :=
    List.mem_map_of_mem (List.mem_mergeSort.2 (by decide))
  have hpaths : (alikeArtifacts.map (·.path)).Nodup := by decide
  have hparts : alikeUnit.stub.isSome ∧ alikeUnit.device.isSome ∧ alikeUnit.markup.isSome ∧
      alikeUnit.descriptorKeys = ["a"] := by decide
  have hsame : AllSame (alikeUnit.declaredNames {}) := ⟨"a", by decide +kernel⟩
  exact ⟨_, discover_alikeFiles, hpaths, hunit, hparts,
    (unitIdentity_eq_nil_iff_named_alike discover_alikeFiles hpaths hunit {}).2
      ⟨namesItself_alikeUnit, hsame⟩⟩

end TwinNode
